import PasswordChange.CommandLine.Flag
import PasswordChange.Text.DecimalDigit

/-!
# Tokens of the command line

Options may stand anywhere before `--`, long options may be shortened as long as they stay
unique, a value may be attached to its option, and short options without a value may be joined.

* `Token.read` tells options and operands apart, `tokens` does so for all arguments.
* `Cluster.of` is the meaning of the options joined in one argument.
-/

namespace PasswordChange.CommandLine

/-- What an argument is taken for. -/
inductive Token where
  | operand (s : String)
  /-- An option, in its short form or not, and the text attached to it. -/
  | option (flag : Flag) (isShort : Bool) (attached : Option (List Char))
  /-- It looks like an option, but there is no such option. -/
  | unknown (s : String)
  deriving DecidableEq, Repr

/-- The text is a number after a minus sign. One line break at its end does no harm. -/
def isNegativeNumber (s : List Char) : Bool :=
  match s with
  | '-' :: digits =>
    let digits := if digits.getLast? = some '\n' then digits.dropLast else digits
    match digits.dropWhile Text.isDecimalDigit with
    | [] => !digits.isEmpty
    | '.' :: fraction => !fraction.isEmpty && fraction.all Text.isDecimalDigit
    | _ => false
  | _ => false

/-- The text before the first equals sign, and the text after it if there is one. -/
def splitAtEquals (s : List Char) : List Char × Option (List Char) :=
  match s.dropWhile (· != '=') with
  | [] => (s, none)
  | _ :: rest => (s.takeWhile (· != '='), some rest)

/-- The options that an argument may stand for when it is no option as written: a long form cut
short, or a short form with a text attached. -/
def candidates (s : List Char) : List Token :=
  match s with
  | '-' :: '-' :: _ =>
    let (stem, attached) := splitAtEquals s
    (Flag.completions stem).map (.option · false attached)
  | '-' :: c :: rest => (Flag.ofLetter? c).toList.map (.option · true (some rest))
  | _ => []

def Token.flag? : Token → Option Flag
  | option flag _ _ => some flag
  | _ => none

/-- What an argument before `--` is taken for. Negative numbers and texts with a space in them
are operands unless they can be read as an option. -/
def Token.read (argument : String) : Except Halt Token :=
  let s := argument.toList
  match s with
  | '-' :: _ :: _ =>
    match Flag.ofForm? s with
    | some (flag, isShort) => .ok (.option flag isShort none)
    | none =>
      let (stem, attached) := splitAtEquals s
      match attached.bind fun value => (Flag.ofForm? stem).map fun form => (form, value) with
      | some ((flag, isShort), value) => .ok (.option flag isShort (some value))
      | none =>
        match candidates s with
        | [token] => .ok token
        | [] =>
          if isNegativeNumber s || s.contains ' ' then .ok (.operand argument)
          else .ok (.unknown argument)
        | several => .error (.usage (.ambiguous argument (several.filterMap Token.flag?)))
  | _ => .ok (.operand argument)

/-- The tokens before the first `--`, and the arguments after it if there is one. -/
def tokens : List String → Except Halt (List Token × Option (List String))
  | [] => .ok ([], none)
  | argument :: rest =>
    if argument = "--" then .ok ([], some rest)
    else do
      let token ← Token.read argument
      let (more, tail) ← tokens rest
      .ok (token :: more, tail)

/-! ## Options joined in one argument -/

/-- What an option argument asks for: options without a value, and at the end possibly one with a
value, which is attached or is the next argument. -/
structure Cluster where
  plain : List Flag
  valued : Option (Flag × Option (List Char)) := none
  deriving DecidableEq, Repr

/-- The meaning of an option with a text attached to it. Only short options without a value can
be followed by more options. -/
def Cluster.ofAttached (flag : Flag) (isShort : Bool) (text : List Char) :
    Except Halt Cluster :=
  if flag.takesValue then .ok { plain := [], valued := some (flag, some text) }
  else
    let ignored : Except Halt Cluster := .error (.usage (.valueIgnored flag (String.ofList text)))
    match isShort, text with
    | true, c :: rest =>
      match Flag.ofLetter? c with
      | none => ignored
      | some next => do
        let cluster ← match rest with
          | [] =>
            .ok (if next.takesValue then { plain := [], valued := some (next, none) }
              else { plain := [next] })
          | d :: rest => ofAttached next true (d :: rest)
        .ok { cluster with plain := flag :: cluster.plain }
    | _, _ => ignored

/-- The meaning of an option argument. -/
def Cluster.of (flag : Flag) (isShort : Bool) : Option (List Char) → Except Halt Cluster
  | some text => ofAttached flag isShort text
  | none =>
    .ok (if flag.takesValue then { plain := [], valued := some (flag, none) }
      else { plain := [flag] })

end PasswordChange.CommandLine
