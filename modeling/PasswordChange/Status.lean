import PasswordChange.Changer.Run

/-!
# Reporting

`changePassword` runs the flow and turns the failures that a user can do something about into
lines on the terminal and a `Status`. All other failures are passed on.
-/

namespace PasswordChange

inductive Status where
  | success
  | failure
  | noUsername
  deriving DecidableEq, Repr

def Status.code : Status → Int
  | success => 0
  | failure => 1
  | noUsername => -1

/-- The lines that report a failure; none if it is not for the user. -/
def Failure.report? (programName : String) : Failure → Option (List String)
  | directory e => some [e.render programName]
  | daemonLoad e =>
    some ((programName ++ ": " ++ e.message)
      :: (e.directoryError.map (·.render programName)).toList)
  | f@(unknownUser _) => f.message?.map fun message => [programName ++ ": " ++ message]
  | _ => none

variable {D H : Type} [Directory D] [Host H]

/-- Reports a failure, or passes it on. -/
def reportFailure (programName : String) (e : Failure) : Act D H Status :=
  match e.report? programName with
  | none => .fail e
  | some lines => do
    lines.forM Terminal.warn
    return .failure

/-- Changes the password that the form asks for and reports how that ended. -/
def changePassword (settings : Settings) (programName : String) (form : Form) :
    Act D H Status := do
  if Text.isBlank form.username then return .noUsername
  else
    let changer ← Changer.make settings none
    match form.submit with
    | .error e => Act.fail e
    | .ok request =>
      Act.orElse (do let _ ← changer.run request; return .success) (reportFailure programName)

end PasswordChange
