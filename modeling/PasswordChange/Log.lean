/-!
# Log entries

Every part of the library that logs does so under a name of its own and at a level. A
verbosity, counted on the command line, sets the lowest level that is shown.
-/

namespace PasswordChange.Log

/-- The levels, from the most detailed to the most urgent. -/
inductive Level where
  | debug
  | info
  | warning
  deriving DecidableEq, Repr

/-- How urgent a level is. -/
def Level.rank : Level → Nat
  | debug => 0
  | info => 1
  | warning => 2

def Level.word : Level → String
  | debug => "DEBUG"
  | info => "INFO"
  | warning => "WARNING"

/-- The lowest level that is shown: warnings alone, from one mark of verbosity on also
information, from two on everything. -/
def Level.ofVerbosity : Nat → Level
  | 0 => warning
  | 1 => info
  | _ => debug

/-- Who writes to the log. -/
inductive Source where
  | flow
  | framework
  | host
  deriving DecidableEq, Repr

/-- The name under which a source logs. -/
def Source.name : Source → String
  | flow => "od_passwd.sdk.client"
  | framework => "od_passwd.adapters.opendirectory"
  | host => "od_passwd.adapters.posix_system"

structure Entry where
  source : Source
  level : Level
  message : String
  deriving DecidableEq, Repr

def Entry.line (e : Entry) : String :=
  e.source.name ++ ": " ++ e.level.word ++ ": " ++ e.message

/-- The entry is at least as urgent as the given level. -/
def Entry.reaches (threshold : Level) (e : Entry) : Bool :=
  threshold.rank ≤ e.level.rank

end PasswordChange.Log
