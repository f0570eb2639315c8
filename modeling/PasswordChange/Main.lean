import PasswordChange.CommandLine.Invocation

/-!
# The program

Gathers the arguments and the environment, reports what comes of the invocation, and leaves with
its status. No directory framework can be reached from here, so a run ends with the advice to
install one.
-/

namespace PasswordChange.CommandLine

/-- A variable of the environment with its value, if it is set. -/
def environmentEntry (name : String) : IO (Option (String × String)) := do
  return (← IO.getEnv name).map (name, ·)

/-- The login name, from the first variable that gives one. -/
def currentLogin : IO Login := do
  let entries ← ["LOGNAME", "USER", "LNAME", "USERNAME"].filterMapM environmentEntry
  return match entries.find? fun (_, value) => !value.isEmpty with
    | some (_, value) => .name value
    | none => .unknown

/-- Reports what comes of the arguments and gives the status to leave with. -/
def runProgram (arguments : List String) : IO UInt32 := do
  let names := Settings.Field.all.map (Settings.Field.variableName Settings.environmentRoot)
  let environment ← names.filterMapM environmentEntry
  let login ← currentLogin
  let report := Invocation.report
    { arguments, login, environment, framework := none, host := {}, answers := [] }
  (← IO.getStdout).putStr report.output
  (← IO.getStderr).putStr report.errors
  match report.conclusion with
  | .returned status | .exited status => return UInt32.ofNat status.toNat
  | .failed failure =>
    (← IO.getStderr).putStrLn (programName ++ ": " ++ failure.message?.getD "failed")
    return 1

end PasswordChange.CommandLine

def main (arguments : List String) : IO UInt32 :=
  PasswordChange.CommandLine.runProgram arguments
