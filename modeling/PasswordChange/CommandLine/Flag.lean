import PasswordChange.Text.Quoted

/-!
# Options of the command line

A `Flag` is an option, which has a short and a long form. `UsageError` lists what can be wrong
with the arguments, and `Halt` why there may be nothing to run.
-/

namespace PasswordChange.CommandLine

inductive Flag where
  | help
  | location
  | authname
  | verbose
  deriving DecidableEq, Repr

namespace Flag

/-- All options, in the order in which they are documented. -/
def all : List Flag :=
  [help, location, authname, verbose]

/-- The letter of the short form. -/
def letter : Flag → Char
  | help => 'h'
  | location => 'l'
  | authname => 'u'
  | verbose => 'v'

/-- The long form. -/
def long : Flag → String
  | help => "--help"
  | location => "--location"
  | authname => "--authname"
  | verbose => "--verbose"

def short (f : Flag) : String :=
  String.ofList ['-', f.letter]

/-- Both forms, as an error names the option. -/
def title (f : Flag) : String :=
  f.short ++ "/" ++ f.long

/-- The option takes a value. -/
def takesValue : Flag → Bool
  | location | authname => true
  | help | verbose => false

/-- The option of a letter. -/
def ofLetter? (c : Char) : Option Flag :=
  all.find? fun f => f.letter == c

/-- The option that is written out as the text, and whether that is its short form. -/
def ofForm? (s : List Char) : Option (Flag × Bool) :=
  match s with
  | ['-', c] => (ofLetter? c).map fun f => (f, true)
  | _ => (all.find? fun f => f.long.toList == s).map fun f => (f, false)

/-- The options whose long form begins with the text. -/
def completions (s : List Char) : List Flag :=
  all.filter fun f => s.isPrefixOf f.long.toList

end Flag

/-! ## Errors of usage -/

/-- Why arguments are refused. -/
inductive UsageError where
  | ambiguous (argument : String) (candidates : List Flag)
  | valueExpected (flag : Flag)
  | valueIgnored (flag : Flag) (value : String)
  | unrecognized (arguments : List String)
  deriving DecidableEq, Repr

def UsageError.message : UsageError → String
  | ambiguous argument candidates =>
    "ambiguous option: " ++ argument ++ " could match "
      ++ ", ".intercalate (candidates.map Flag.long)
  | valueExpected flag => "argument " ++ flag.title ++ ": expected one argument"
  | valueIgnored flag value =>
    "argument " ++ flag.title ++ ": ignored explicit argument " ++ Text.quoted value
  | unrecognized arguments => "unrecognized arguments: " ++ " ".intercalate arguments

/-- Why there is nothing to run: the user asks for help, or the arguments are refused. -/
inductive Halt where
  | help
  | usage (error : UsageError)
  deriving DecidableEq, Repr

end PasswordChange.CommandLine
