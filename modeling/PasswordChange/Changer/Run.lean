import PasswordChange.Changer
import PasswordChange.Confirmation

/-!
# Changing a password

`Changer.run` is the whole flow: session, node, record, policy, dialogue, commit. Whatever way it
ends, the handles it opened are closed again, the record's before the node's, and the secrets
that were collected are wiped.
-/

namespace PasswordChange.Changer

variable {D H : Type} [Directory D] [Host H]

/-- Submits the new password: with the authenticator's credentials where an identity must be
proved, else as a privileged change. -/
def commit (record : HandleId) (request : Request) (needsAuth : Bool) (old new : Directory.Item) :
    Act D H Unit := do
  if needsAuth then
    Act.log .debug ("set-password for " ++ request.username ++ " as " ++ request.authname)
    Act.submit fun v => Directory.setCredentials v record Directory.userRecords
      Directory.setPassword [.text request.username, new, .text request.authname, old]
  else
    Act.log .debug ("change-password for " ++ request.username)
    Act.submit fun v => Directory.changePassword v record old new

/-- The part of the flow in which passwords are at hand, from the first prompt to the commit. -/
def exchange (record : HandleId) (request : Request) (location : Location)
    (needsAuth : Bool) : Act D H Outcome := do
  let (old, new) ← Confirmation.collect request needsAuth
  let outcome : Outcome :=
    { username := some request.username, changed := new.isSome, needsAuth, location }
  match new with
  | none => (Act.value outcome).always (Act.wipe? old)
  | some secret =>
    (commit record request needsAuth (.ofSecret? old) (.secret secret)).always do
      Act.wipe? old
      Act.wipe secret
    Act.log .info ("password changed for " ++ request.username ++ " at "
      ++ location.shown)
    return outcome

/-- The part of the flow that follows the lookup of the record. -/
def serve (c : Changer) (record : HandleId) (request : Request) (searched : Location) :
    Act D H Outcome := do
  let values ← Act.perform (Directory.copyValues record Directory.metanodeLocation)
  let location := Policy.canonicalLocation values searched
  Terminal.say ("Changing password for " ++ request.username ++ ".")
  let needsAuth := c.needsAuthentication location
  Act.log .debug ("record " ++ request.username ++ " at " ++ location.shown
    ++ ", needs_auth=" ++ Value.quotedBool needsAuth)
  exchange record request location needsAuth

/-- Changes the password that the request is about. -/
def run (c : Changer) (request : Request) : Act D H Outcome := do
  let (session, location) ← c.openSession request
  let node ← Act.closing session (openNode session location)
  Act.closing node do
    let record ← findRecord node request.username
    Act.closing record (c.serve record request location)

end PasswordChange.Changer
