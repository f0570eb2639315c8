/-!
# Directory errors

A `DirectoryError` is what a directory reports: a code that the flow reacts to and three optional
texts. `DirectoryError.message` names it and `DirectoryError.render` is its line on the terminal.
-/

namespace PasswordChange

/-- The categories of directory errors that the flow tells apart. -/
inductive ErrorCode where
  | sessionDaemonNotRunning
  | sessionFailed
  | nodeUnknown
  | recordNotFound
  | authenticationFailed
  | notAuthorized
  | credentialsFailed
  | other
  deriving DecidableEq, Repr

namespace ErrorCode

/-- All codes, in the order in which they are documented. -/
def all : List ErrorCode :=
  [sessionDaemonNotRunning, sessionFailed, nodeUnknown, recordNotFound, authenticationFailed,
    notAuthorized, credentialsFailed, other]

def word : ErrorCode → String
  | sessionDaemonNotRunning => "session_daemon_not_running"
  | sessionFailed => "session_failed"
  | nodeUnknown => "node_unknown"
  | recordNotFound => "record_not_found"
  | authenticationFailed => "authentication_failed"
  | notAuthorized => "not_authorized"
  | credentialsFailed => "credentials_failed"
  | other => "other"

/-- The code that a word stands for, if any. -/
def ofWord? (s : String) : Option ErrorCode :=
  all.find? fun code => code.word == s

/-- Every code is found again from its word. -/
theorem ofWord?_word (code : ErrorCode) : ofWord? code.word = some code := by
  cases code <;> decide

end ErrorCode

/-- An error reported by the directory service. -/
structure DirectoryError where
  code : ErrorCode := .other
  description : Option String := none
  failureReason : Option String := none
  recoverySuggestion : Option String := none
  deriving DecidableEq, Repr, Inhabited

namespace DirectoryError

/-- The part is written only if it is there and not empty. -/
def part : Option String → List String
  | none => []
  | some s => if s.isEmpty then [] else [s]

/-- The description, or the word of the code where there is none. -/
def message (e : DirectoryError) : String :=
  (part e.description).headD e.code.word

/-- One line with every part that is there, two spaces apart; the description follows the
program's name. -/
def render (programName : String) (e : DirectoryError) : String :=
  "  ".intercalate <|
    (part e.description).map (programName ++ ": " ++ ·) ++ part e.failureReason
      ++ part e.recoverySuggestion

end DirectoryError

end PasswordChange
