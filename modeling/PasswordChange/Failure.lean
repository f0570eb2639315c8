import PasswordChange.DirectoryError
import PasswordChange.Handle.Kind

/-!
# Failures

`Failure` lists every cause for which an operation of the library can stop, and
`Failure.message?` has the texts of those that have one. `DaemonLoadError` is a failed attempt to
load the local directory daemon.
-/

namespace PasswordChange

/-! ## Loading the local daemon -/

/-- Why a program could not be started. The first two are refusals of the operating system;
the last is a request that it never saw. -/
inductive StartFailure where
  | notFound
  | notPermitted
  | invalidRequest
  deriving DecidableEq, Repr

/-- The operating system itself refused to start the program. -/
def StartFailure.isRefusal : StartFailure → Bool
  | notFound | notPermitted => true
  | invalidRequest => false

/-- The local directory daemon could not be loaded: the loader did not start, or it exited with
a status. The error that made the attempt necessary is kept. -/
structure DaemonLoadError where
  path : String
  status : Option Int := none
  directoryError : Option DirectoryError := none
  cause : Option StartFailure := none
  deriving DecidableEq, Repr

/-- The line that reports a failed loader. -/
def DaemonLoadError.message (e : DaemonLoadError) : String :=
  match e.status with
  | none => e.path ++ ": could not be run"
  | some status => e.path ++ ": exited with status " ++ toString status

/-! ## Causes of failure -/

/-- Why an operation stopped. -/
inductive Failure where
  | directory (error : DirectoryError)
  | daemonLoad (error : DaemonLoadError)
  /-- The lookup gave neither a record nor an error. -/
  | unknownUser (username : String)
  /-- The terminal's input at a prompt is no text. -/
  | unreadableSecret (label : String) (undecoded : Bool)
  | interrupted
  | handleClosed (kind : Handle.Kind)
  | usernameRequired
  /-- A field was given that the form does not have. -/
  | unknownField (name : String)
  /-- A field that the form needs was not given. -/
  | missingField (name : String)
  | unknownErrorCode (word : String)
  /-- Credentials came in another number of items than they need. -/
  | itemCount (count : Nat)
  /-- A secret was needed, and something else was given. -/
  | notASecret
  /-- A secret cannot be looked up in a table. -/
  | notAKey
  /-- A directory object does not answer this question. -/
  | wrongObject (kind : Handle.Kind)
  /-- An entry that should be in a table is not. -/
  | missingEntry (key : String)
  /-- The bytes of a secret are no text. -/
  | undecodable
  /-- A kernel flag's name has a character outside ASCII. -/
  | unencodable (name : String)
  | outOfBounds (index : Int)
  | notAByte (value : Int)
  | unhashable
  /-- The framework has no constant of this name. -/
  | missingConstant (name : String)
  | frameworkMissing
  /-- The facility that knows the login name is not there. -/
  | loginUnavailable (message : String)
  | start (cause : StartFailure)
  | release
  /-- The work inside a scope failed for a reason of its own. -/
  | body
  deriving DecidableEq, Repr

/-- The text of a failure that has one; the others are known by their cause alone. -/
def Failure.message? : Failure → Option String
  | directory e => some e.message
  | daemonLoad e => some e.message
  | unknownUser name => some ("Unknown user name '" ++ name ++ "'.")
  | unreadableSecret label _ => some (label ++ " input could not be decoded")
  | handleClosed kind => some (kind.noun ++ " handle is closed")
  | usernameRequired => some "username is required"
  | frameworkMissing =>
    some ("pyobjc-framework-OpenDirectory package required: " ++
      "pip install pyobjc-framework-OpenDirectory")
  | loginUnavailable message => some message
  | _ => none

end PasswordChange
