import PasswordChange.CommandLine.Arguments
import PasswordChange.CommandLine.Usage
import PasswordChange.Directory.Native
import PasswordChange.Status
import PasswordChange.Host.Posix

/-!
# Invocations of the program

An `Invocation` is a call of the program with its arguments and its surroundings: the login
name, the environment, the directory framework, the host and the terminal's answers.
`Invocation.report` is what comes of it: a conclusion and the two outputs.
-/

namespace PasswordChange.CommandLine

/-- What the system knows of the invoking user: a name, nothing, or not even where to ask. -/
inductive Login where
  | name (username : String)
  | unknown
  | unavailable (message : String)
  deriving DecidableEq, Repr

/-- A call of the program. -/
structure Invocation where
  arguments : List String
  login : Login
  environment : List (String × String)
  framework : Option Framework
  host : Host.Posix
  answers : List Answer

/-- How an invocation ends: it returns a status, leaves early with one, or fails. -/
inductive Conclusion where
  | returned (status : Int)
  | exited (status : Int)
  | failed (failure : Failure)
  deriving DecidableEq, Repr

/-- The status that an interrupt ends in. -/
def interruptedStatus : Int := 130

/-- A program that runs by itself leaves with the status that it would return. -/
def Conclusion.standalone : Conclusion → Conclusion
  | returned status => exited status
  | conclusion => conclusion

/-- The conclusion of an invocation, what happened in it, and the level from which the log is
shown. -/
structure Report where
  conclusion : Conclusion
  journal : Journal
  threshold : Log.Level := .warning

/-- What was written to standard output. -/
def Report.output (r : Report) : String :=
  Terminal.joined r.journal.said

/-- What was written to standard error. -/
def Report.errors (r : Report) : String :=
  Terminal.joined (r.journal.errorLines r.threshold)

/-- The report of an invocation that runs nothing. -/
def Halt.report : Halt → Report
  | help => ⟨.exited 0, helpLines.map .said, .warning⟩
  | usage e =>
    ⟨.exited 2, [.warned usageLine, .warned (programName ++ ": error: " ++ e.message)], .warning⟩

namespace Invocation

/-- The settings that the environment gives. -/
def settings (i : Invocation) : Settings :=
  Settings.fromEnvironment Settings.environmentRoot i.environment

/-- The user named by the arguments, or the invoking one where they name none. -/
def username (i : Invocation) (a : Arguments) : Except Failure (Option String) :=
  if Text.isBlank a.user then
    match i.login with
    | .name username => .ok (some username)
    | .unknown => .ok none
    | .unavailable message => .error (.loginUnavailable message)
  else .ok a.user

/-- The world in which the program runs. -/
def world (i : Invocation) : World Directory.Native Host.Posix where
  directory := { framework := i.framework }
  host := { i.host with flagName := i.settings.singleUserFlag }
  answers := i.answers

/-- The end of a run: an interrupt ends the line it happened on, and a missing user name calls
for the usage line. -/
def conclude (result : Except Failure Status) : Conclusion × Journal :=
  match result with
  | .ok .noUsername => (.returned Status.failure.code, [.warned usageLine])
  | .ok status => (.returned status.code, [])
  | .error .interrupted => (.returned interruptedStatus, [.warned ""])
  | .error e => (.failed e, [])

/-- What comes of an invocation whose arguments are understood. -/
def execute (i : Invocation) (a : Arguments) : Report :=
  let threshold := Log.Level.ofVerbosity a.verbosity
  match i.username a with
  | .error e => ⟨.failed e, [], threshold⟩
  | .ok username =>
    let form : Form := { username, location := a.location, authname := a.authname }
    let (result, w) := (changePassword i.settings programName form).run i.world
    let (conclusion, last) := conclude result
    ⟨conclusion, w.journal ++ last, threshold⟩

/-- What comes of an invocation. -/
def report (i : Invocation) : Report :=
  match Arguments.parse i.arguments with
  | .error halt => halt.report
  | .ok a => i.execute a

end Invocation

end PasswordChange.CommandLine
