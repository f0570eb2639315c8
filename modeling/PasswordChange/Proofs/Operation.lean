import PasswordChange.Directory.Memory

/-!
# Operations on a directory

Everything that can be asked of a directory service, in one type; and everything that can be done to
a directory in memory, in another: it is filled and configured, the host's programs affect it, every
operation of a directory service is used on it, and its handles are closed.

* `Demand.carryOut` and `Memory.Operation.carryOut` tell which handle is returned, if there is one.
* `Demand.replay` and `Memory.replay` carry out one after the other.
-/

namespace PasswordChange

/-- The step with another value. -/
def Step.map {σ α β : Type} (f : α → β) (step : Step σ α) : Step σ β :=
  ⟨step.outcome.map f, step.state, step.events⟩

/-- The step with another value fails as the step itself does. -/
theorem Step.error_of_map {σ α β : Type} {f : α → β} {step : Step σ α} {e : Failure}
    (failed : (step.map f).outcome = .error e) : step.outcome = .error e := by
  obtain ⟨_ | a, state, events⟩ := step <;> cases failed
  rfl

namespace Directory

/-- Something that can be asked of a directory service. -/
inductive Demand where
  | createSession (options : List (String × Value))
  | openNodeByName (session : HandleId) (name : String)
  | openNodeByType (session : HandleId) (nodeType : String)
  | copyRecord (node : HandleId) (recordType name : String)
  | copyValues (record : HandleId) (attributeName : String)
  | setCredentials (v : Vault) (record : HandleId) (recordType authType : String)
      (items : List Item)
  | changePassword (v : Vault) (record : HandleId) (old new : Item)
  | close (handle : HandleId)

namespace Demand

variable {D : Type} [Directory D]

/-- Carries out what is asked; the value is the handle that is returned, if there is one. -/
def carryOut : Demand → D → Step D (Option HandleId)
  | createSession options, d => (Directory.createSession options d).map some
  | openNodeByName session name, d => (Directory.openNodeByName session name d).map some
  | openNodeByType session nodeType, d => (Directory.openNodeByType session nodeType d).map some
  | copyRecord node recordType name, d => Directory.copyRecord node recordType name d
  | copyValues record attributeName, d =>
    (Directory.copyValues record attributeName d).map fun _ => none
  | setCredentials v record recordType authType items, d =>
    (Directory.setCredentials v record recordType authType items d).map fun _ => none
  | changePassword v record old new, d =>
    (Directory.changePassword v record old new d).map fun _ => none
  | close handle, d => (Directory.close handle d).map fun _ => none

/-- The directory after one demand after the other. -/
def replay (demands : List Demand) (d : D) : D :=
  demands.foldl (fun d demand => (demand.carryOut d).state) d

/-- A record is looked up. -/
def isLookup : Demand → Bool
  | copyRecord .. => true
  | _ => false

end Demand

end Directory

namespace Directory.Memory

/-- Something that can be done to a directory in memory. -/
inductive Operation where
  | addNode (name : String) (searchable : Bool)
  | addUser (node username password : String) (admin : Bool)
  | configure (daemonRunning localDaemonRunning : Bool) (faults : Faults)
  | undergo (deed : Deed)
  | createSession (options : List (String × Value))
  | openNodeByName (session : HandleId) (name : String)
  | openNodeByType (session : HandleId) (nodeType : String)
  | copyRecord (node : HandleId) (recordType name : String)
  | copyValues (record : HandleId) (attributeName : String)
  | setCredentials (v : Vault) (record : HandleId) (recordType authType : String)
      (items : List Item)
  | changePassword (v : Vault) (record : HandleId) (old new : Item)
  | close (handle : HandleId)

namespace Operation

/-- Carries out an operation; the value is the handle that it returns, if it returns one. -/
def carryOut : Operation → Memory → Step Memory (Option HandleId)
  | addNode name searchable, d => .ok none (d.addNode name searchable) []
  | addUser node username password admin, d => .ok none (d.addUser node username password admin) []
  | configure daemonRunning localDaemonRunning faults, d =>
    .ok none { d with daemonRunning, localDaemonRunning, faults } []
  | undergo deed, d => .ok none (d.undergo deed) []
  | createSession options, d => (d.createSession options).map some
  | openNodeByName session name, d => (d.openNodeByName session name).map some
  | openNodeByType session nodeType, d => (d.openNodeByType session nodeType).map some
  | copyRecord node recordType name, d => d.copyRecord node recordType name
  | copyValues record attributeName, d => (d.copyValues record attributeName).map fun _ => none
  | setCredentials v record recordType authType items, d =>
    (Memory.setCredentials v record recordType authType items d).map fun _ => none
  | changePassword v record old new, d =>
    (Memory.changePassword v record old new d).map fun _ => none
  | close handle, d => (d.close handle).map fun _ => none

end Operation

/-- The directory after one operation after the other. -/
def replay (operations : List Operation) (d : Memory) : Memory :=
  operations.foldl (fun d operation => (operation.carryOut d).state) d

theorem replay_cons (operation : Operation) (rest : List Operation) (d : Memory) :
    replay (operation :: rest) d = replay rest (operation.carryOut d).state := rfl

theorem replay_append (operations more : List Operation) (d : Memory) :
    replay (operations ++ more) d = replay more (replay operations d) :=
  List.foldl_append

end Directory.Memory

end PasswordChange
