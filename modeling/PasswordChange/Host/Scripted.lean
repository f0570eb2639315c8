import PasswordChange.Host

/-!
# Scripted hosts

A host that is given by its answers: the two questions have fixed answers, and every program
either cannot be started or exits with a fixed status, having done what the script tells.
-/

namespace PasswordChange.Host

/-- The answers of a host. -/
structure Scripted where
  singleUser : Bool := false
  privileged : Bool := false
  startFailure : Option StartFailure := none
  exitStatus : Int := 0
  /-- What a program does that exits with status zero. -/
  deeds : List Directory.Deed := []
  deriving DecidableEq, Repr

namespace Scripted

/-- Runs a program: it does its deeds only if it starts and exits with status zero. -/
def run (path : String) (args : List String) (h : Scripted) : Step Scripted Launch :=
  let events := [Event.launched path args]
  match h.startFailure with
  | some cause => .fail (.start cause) h events
  | none => .ok ⟨h.exitStatus, if h.exitStatus = 0 then h.deeds else []⟩ h events

instance : Host Scripted where
  isSingleUser h := .ok h.singleUser h [.queried .singleUser]
  isPrivileged h := .ok h.privileged h [.queried .privileged]
  run := run

end Scripted

end PasswordChange.Host
