import PasswordChange.Policy
import PasswordChange.Request
import PasswordChange.Settings
import PasswordChange.Terminal

/-!
# Changers

A `Changer` changes passwords under fixed settings and with a privilege that was determined
once, when it was made. This module holds the parts of the flow up to the record: the session,
with the bootstrap of the local daemon in single-user mode, the node and the record.
-/

namespace PasswordChange

/-- Settings, and whether the caller is privileged. -/
structure Changer where
  settings : Settings
  privileged : Bool
  deriving DecidableEq, Repr

namespace Changer

variable {D H : Type} [Directory D] [Host H]

/-- A changer; the host is asked for the caller's privilege unless it is given. -/
def make (settings : Settings) (privileged : Option Bool) : Act D H Changer :=
  match privileged with
  | some privileged => .value { settings, privileged }
  | none => (Act.consult Host.isPrivileged).andThen fun privileged =>
    .value { settings, privileged }

/-! ## The session -/

/-- Loads the local daemon. The loader must start and exit with status zero. -/
def loadLocalDaemon (c : Changer) : Act D H Unit := do
  let path := c.settings.loader
  let status ← (Act.launch path c.settings.loaderArguments).orElse fun
    | .start cause =>
      if cause.isRefusal then .fail (.daemonLoad { path, cause := some cause })
      else .fail (.start cause)
    | e => .fail e
  if status ≠ 0 then Act.fail (.daemonLoad { path, status := some status })

/-- Answers the error that the daemon does not run: in single-user mode the local daemon is
loaded, and a failure to load it carries the error along. -/
def bootstrap (c : Changer) (error : DirectoryError) : Act D H Unit := do
  let singleUser ← Act.consult Host.isSingleUser
  if !singleUser then
    Act.log .debug "directory daemon not running, host is multi-user"
    Act.fail (.directory error)
  else
    Act.log .info "single-user mode, loading the local directory daemon"
    c.loadLocalDaemon.orElse fun
      | .daemonLoad e => .fail (.daemonLoad { e with directoryError := some error })
      | e => .fail e

/-- Opens a session. Where the daemon does not run, the local daemon is loaded once and the
session opened on the local database. The location to open comes with the session; after a
bootstrap it falls back to the local default node. -/
def openSession (c : Changer) (request : Request) : Act D H (HandleId × Location) := do
  let first ← Act.orElse
    (do return some (← Act.perform (Directory.createSession [])))
    fun
      | .directory error =>
        if error.code = .sessionDaemonNotRunning then do
          c.bootstrap error
          return none
        else .fail (.directory error)
      | e => .fail e
  match first with
  | some session => return (session, request.location)
  | none =>
    let session ← Act.perform (Directory.createSession
      [(Directory.localPathOption, .text c.settings.localDatabase)])
    return (session,
      if request.location.name?.isNone then .named c.settings.localDefaultNode
      else request.location)

/-! ## Node and record -/

/-- Opens the named node, or the search node where no name is given. -/
def openNode (session : HandleId) (location : Location) : Act D H HandleId :=
  match location.name? with
  | none => Act.perform (Directory.openNodeByType session Directory.authenticationNode)
  | some name => Act.perform (Directory.openNodeByName session name)

def findRecord (node : HandleId) (username : String) : Act D H HandleId := do
  match ← Act.perform (Directory.copyRecord node Directory.userRecords username) with
  | some record => return record
  | none => Act.fail (.unknownUser username)

/-- The policy, for this caller. -/
def needsAuthentication (c : Changer) (location : Location) : Bool :=
  Policy.needsAuthentication c.privileged location c.settings.trustedRoot

end Changer

end PasswordChange
