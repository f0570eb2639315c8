import PasswordChange.CommandLine.Token
import PasswordChange.Location

/-!
# Arguments of the command line

The arguments are `[-h] [-l location] [-u authname] [-v] [user]`. `Arguments.parse` is the
meaning of a list of arguments; `Reading` is the state in which their tokens are read.
-/

namespace PasswordChange.CommandLine

/-- What the arguments ask for. -/
structure Arguments where
  user : Option String := none
  location : Location := .unspecified
  authname : Option String := none
  verbosity : Nat := 0
  deriving DecidableEq, Repr

/-- The state of reading: what has been asked for so far, the arguments that found no use, and
whether the last token was taken for the user. -/
structure Reading where
  arguments : Arguments := {}
  unused : List String := []
  userJustRead : Bool := false
  deriving DecidableEq, Repr

namespace Reading

/-- An option without a value takes effect. -/
def applyPlain (r : Reading) (flag : Flag) : Except Halt Reading :=
  match flag with
  | .help => .error .help
  | .verbose =>
    .ok { r with arguments := { r.arguments with verbosity := r.arguments.verbosity + 1 } }
  | .location | .authname => .ok r

/-- An option gets a value, where `--` stands for a name that is left out. -/
def applyValued (r : Reading) (flag : Flag) (value : String) : Reading :=
  let name := if value = "--" then none else some value
  match flag with
  | .location =>
    { r with arguments := { r.arguments with location := name.elim .unnamed .named } }
  | .authname => { r with arguments := { r.arguments with authname := name } }
  | .help | .verbose => r

/-- The first operand is the user, all others find no use. -/
def applyOperand (r : Reading) (s : String) : Reading :=
  match r.arguments.user with
  | none => { r with arguments := { r.arguments with user := some s }, userJustRead := true }
  | some _ => { r with unused := r.unused ++ [s], userJustRead := false }

/-- Reads tokens. The options of an argument take effect only when all of it is understood. -/
def tokens (r : Reading) : List Token → Except Halt Reading
  | [] => .ok r
  | .operand s :: rest => (r.applyOperand s).tokens rest
  | .unknown s :: rest =>
    { r with unused := r.unused ++ [s], userJustRead := false : Reading }.tokens rest
  | .option flag isShort attached :: rest => do
    let cluster ← Cluster.of flag isShort attached
    let r := { r with userJustRead := false }
    match cluster.valued with
    | none => (← cluster.plain.foldlM applyPlain r).tokens rest
    | some (flag, some value) =>
      ((← cluster.plain.foldlM applyPlain r).applyValued flag (String.ofList value)).tokens rest
    | some (flag, none) =>
      match rest with
      | .operand value :: rest =>
        ((← cluster.plain.foldlM applyPlain r).applyValued flag value).tokens rest
      | _ => .error (.usage (.valueExpected flag))

/-- Reads the arguments after `--`, all of which are operands. The `--` itself finds no use
unless it stands beside the user. -/
def tail (r : Reading) : Option (List String) → Reading
  | none => r
  | some rest =>
    match r.arguments.user with
    | none =>
      { r with
        arguments := { r.arguments with user := rest.head? }
        unused := r.unused ++ rest.tail }
    | some _ =>
      { r with unused := r.unused ++ (if r.userJustRead then rest else "--" :: rest) }

end Reading

/-- The meaning of a list of arguments. -/
def Arguments.parse (arguments : List String) : Except Halt Arguments := do
  let (tokens, tail) ← CommandLine.tokens arguments
  let r ← Reading.tokens {} tokens
  let r := r.tail tail
  if r.unused.isEmpty then .ok r.arguments else .error (.usage (.unrecognized r.unused))

/-- Short options may be joined, and the last one takes its value from the next argument. -/
example : Arguments.parse ["-vvl", "/Local/Default", "bob"] =
    .ok { user := some "bob", location := .named "/Local/Default", verbosity := 2 } := by
  cbv

/-- A long option may be shortened, and a negative number is an operand. -/
example : Arguments.parse ["--auth=admin", "-1"] =
    .ok { user := some "-1", authname := some "admin" } := by
  cbv

/-- The location may be asked for without a name, and the last one asked for counts. -/
example : Arguments.parse ["-l", "/Local/Default", "-vl--", "bob"] =
    .ok { user := some "bob", location := .unnamed, verbosity := 1 } := by
  cbv

/-- After `--` there are only operands. -/
example : Arguments.parse ["-v", "--", "-l", "bob"] =
    .error (.usage (.unrecognized ["bob"])) := by
  cbv

end PasswordChange.CommandLine
