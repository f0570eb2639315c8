import PasswordChange.Directory.Call
import PasswordChange.Framework
import PasswordChange.Host.Trace
import PasswordChange.Log

/-!
# The journal

Everything that the library does to the world outside is an `Event`, and the events of a run
form one `Journal` in the order in which they happened. What a terminal shows, what a log
contains or which calls a directory received are views of the journal, each a selection of its
events.
-/

namespace PasswordChange

/-- Something that happened where others can see it. -/
inductive Event where
  /-- A prompt for a secret appeared on the terminal. -/
  | prompted (label : String)
  /-- The terminal's input became a secret. -/
  | issued (secret : SecretId)
  | said (line : String)
  /-- A line went to standard error. -/
  | warned (line : String)
  | logged (entry : Log.Entry)
  /-- The directory received a call, and accepted it or refused it. -/
  | called (call : Directory.Call) (accepted : Bool)
  /-- The directory released what was behind a handle. -/
  | released (kind : Handle.Kind)
  /-- The native framework received a call, and accepted it or refused it. -/
  | native (call : Framework.Call) (accepted : Bool)
  | queried (question : Host.Question)
  | launched (path : String) (args : List String)
  /-- The host turned to the operating system. -/
  | probed (probe : Host.Probe)
  deriving DecidableEq, Repr

/-- The events of a run, the earliest first. -/
abbrev Journal := List Event

namespace Journal

def prompts (j : Journal) : List String :=
  j.filterMap fun | .prompted label => some label | _ => none

/-- The secrets made from the terminal's input. -/
def issued (j : Journal) : List SecretId :=
  j.filterMap fun | .issued secret => some secret | _ => none

/-- The lines on standard output. -/
def said (j : Journal) : List String :=
  j.filterMap fun | .said line => some line | _ => none

/-- The lines on standard error, without the log. -/
def warned (j : Journal) : List String :=
  j.filterMap fun | .warned line => some line | _ => none

def logged (j : Journal) : List Log.Entry :=
  j.filterMap fun | .logged entry => some entry | _ => none

def calls (j : Journal) : List Directory.Call :=
  j.filterMap fun | .called call _ => some call | _ => none

def accepted (j : Journal) : List Directory.Call :=
  j.filterMap fun | .called call true => some call | _ => none

/-- The calls that changed a password, or tried to. -/
def mutations (j : Journal) : List Directory.Call :=
  j.calls.filter Directory.Call.isCredential

def released (j : Journal) : List Handle.Kind :=
  j.filterMap fun | .released kind => some kind | _ => none

def native (j : Journal) : List Framework.Call :=
  j.filterMap fun | .native call _ => some call | _ => none

def nativeAccepted (j : Journal) : List Framework.Call :=
  j.filterMap fun | .native call true => some call | _ => none

def queried (j : Journal) : List Host.Question :=
  j.filterMap fun | .queried question => some question | _ => none

/-- The programs that the host was told to run, with their arguments. -/
def launched (j : Journal) : List (String × List String) :=
  j.filterMap fun | .launched path args => some (path, args) | _ => none

/-- What the host did to the operating system. -/
def probed (j : Journal) : List Host.Probe :=
  j.filterMap fun | .probed probe => some probe | _ => none

/-- All lines on standard error: warnings, and the log from a level on. -/
def errorLines (threshold : Log.Level) (j : Journal) : List String :=
  j.filterMap fun
    | .warned line => some line
    | .logged entry => if entry.reaches threshold then some entry.line else none
    | _ => none

/-! ## Views of a continued journal -/

variable (j k : Journal)

@[simp]
theorem prompts_append : (j ++ k : Journal).prompts = j.prompts ++ k.prompts :=
  List.filterMap_append

@[simp]
theorem issued_append : (j ++ k : Journal).issued = j.issued ++ k.issued :=
  List.filterMap_append

@[simp]
theorem said_append : (j ++ k : Journal).said = j.said ++ k.said :=
  List.filterMap_append

@[simp]
theorem warned_append : (j ++ k : Journal).warned = j.warned ++ k.warned :=
  List.filterMap_append

@[simp]
theorem released_append : (j ++ k : Journal).released = j.released ++ k.released :=
  List.filterMap_append

@[simp]
theorem native_append : (j ++ k : Journal).native = j.native ++ k.native :=
  List.filterMap_append

end Journal

end PasswordChange
