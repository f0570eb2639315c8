import PasswordChange.Proofs.Backstage

/-!
# Reachable directories in memory

A directory in memory is `Memory.Reachable` if it was made empty and then filled, configured and
used in any order. `Memory.Reachable.grounded` is the invariant of these states: every
node of the search is there.
-/

namespace PasswordChange.Directory.Memory

variable {d d' : Memory}

/-- What can happen to a directory in memory in one step: it is filled, its daemons start and
stop, faults are injected, and every operation of a directory service is used on it. -/
inductive Move (d : Memory) : Memory → Prop where
  | addNode (name : String) (searchable : Bool) : Move d (d.addNode name searchable)
  | addUser (node username password : String) (admin : Bool) :
      Move d (d.addUser node username password admin)
  | configure (daemonRunning localDaemonRunning : Bool) (faults : Faults) :
      Move d { d with daemonRunning, localDaemonRunning, faults }
  | createSession (options : List (String × Value)) : Move d (d.createSession options).state
  | openNodeByName (session : HandleId) (name : String) :
      Move d (d.openNodeByName session name).state
  | openNodeByType (session : HandleId) (nodeType : String) :
      Move d (d.openNodeByType session nodeType).state
  | copyRecord (node : HandleId) (recordType name : String) :
      Move d (d.copyRecord node recordType name).state
  | copyValues (record : HandleId) (attributeName : String) :
      Move d (d.copyValues record attributeName).state
  | setCredentials (v : Vault) (record : HandleId) (recordType authType : String)
      (items : List Item) : Move d (setCredentials v record recordType authType items d).state
  | changePassword (v : Vault) (record : HandleId) (old new : Item) :
      Move d (changePassword v record old new d).state
  | close (handle : HandleId) : Move d (d.close handle).state
  | undergo (deed : Deed) : Move d (d.undergo deed)

/-- A directory that was made empty and has gone through any number of moves. -/
inductive Reachable : Memory → Prop where
  | fresh (daemonRunning : Bool) (localRoot : String) : Reachable { daemonRunning, localRoot }
  | move {d d' : Memory} : Reachable d → Move d d' → Reachable d'

/-! ## Every node of the search is there -/

/-- Every node of the search is there. -/
def Grounded (d : Memory) : Prop :=
  ∀ name ∈ d.searchOrder, d.nodes.has name = true

theorem has_put {α : Type} (t : Table α) (key other : String) (value : α) :
    (t.put key value).has other = true ↔ key = other ∨ t.has other = true := by
  unfold Table.has
  rw [Table.get?_put]
  split <;> simp_all

/-- The search stays grounded while no node disappears. -/
theorem Grounded.mono (grounded : d.Grounded) (order : d'.searchOrder = d.searchOrder)
    (nodes : ∀ name, d.nodes.has name = true → d'.nodes.has name = true) : d'.Grounded := by
  intro name member
  rw [order] at member
  exact nodes name (grounded name member)

theorem Grounded.of_undisturbed (grounded : d.Grounded) (same : Undisturbed d d') :
    d'.Grounded :=
  grounded.mono same.searchOrder fun _ present => same.nodes ▸ present

theorem Grounded.addNode (grounded : d.Grounded) (name : String) (searchable : Bool) :
    (d.addNode name searchable).Grounded ∧ (d.addNode name searchable).nodes.has name = true := by
  have kept (other : String) (present : other = name ∨ d.nodes.has other = true) :
      (d.addNode name searchable).nodes.has other = true := by
    unfold Memory.addNode
    dsimp only
    split
    next there => rcases present with rfl | old <;> assumption
    next => exact (has_put ..).2 (present.imp_left Eq.symm)
  refine ⟨?_, kept name (Or.inl rfl)⟩
  intro other member
  unfold Memory.addNode at member
  dsimp only at member
  split at member
  · rcases List.mem_append.1 member with old | new
    · exact kept other (Or.inr (grounded other old))
    · exact kept other (Or.inl (List.mem_singleton.1 new))
  · exact kept other (Or.inr (grounded other member))

theorem Grounded.setAccountPassword (grounded : d.Grounded) (node user password : String) :
    (d.setAccountPassword node user password).Grounded := by
  unfold Memory.setAccountPassword
  split
  · exact grounded
  · exact grounded.mono rfl fun _ present => (has_put ..).2 (Or.inr present)

theorem Grounded.credited (grounded : d.Grounded) {step : Step Memory Unit}
    (credited : d.Credited step) : step.state.Grounded := by
  rcases credited.state with same | ⟨node, user, password, replaced⟩
  · exact same ▸ grounded
  · exact replaced ▸ grounded.setAccountPassword node user password

/-- Every move keeps the search grounded. -/
theorem Grounded.move (grounded : d.Grounded) (move : Move d d') : d'.Grounded := by
  cases move with
  | addNode name searchable => exact (grounded.addNode name searchable).1
  | addUser node username password admin =>
      have added := (grounded.addNode node true).1
      exact added.mono rfl fun _ present => (has_put ..).2 (Or.inr present)
  | configure => exact grounded.mono rfl fun _ present => present
  | undergo deed => exact grounded.of_undisturbed (lookupFrame.undergo deed d)
  | createSession options =>
      exact grounded.of_undisturbed (lookupFrame.createSession options d).1
  | openNodeByName session name =>
      exact grounded.of_undisturbed (lookupFrame.openNodeByName session name d).1
  | openNodeByType session nodeType =>
      exact grounded.of_undisturbed (lookupFrame.openNodeByType session nodeType d).1
  | copyRecord node recordType name =>
      exact grounded.of_undisturbed (lookupFrame.copyRecord node recordType name d).1
  | copyValues record attributeName =>
      exact grounded.of_undisturbed (lookupFrame.copyValues record attributeName d).1
  | setCredentials v record recordType authType items =>
      exact grounded.credited (credited_setCredentials v record recordType authType items d)
  | changePassword v record old new =>
      exact grounded.credited (credited_changePassword v record old new d)
  | close handle => exact grounded.of_undisturbed (lookupFrame.close handle d).1

/-- **In every reachable directory the nodes of the search are there.** -/
theorem Reachable.grounded (reachable : Reachable d) : d.Grounded := by
  induction reachable with
  | fresh daemonRunning localRoot =>
      intro _ member
      exact (List.not_mem_nil member).elim
  | move _ step ih => exact ih.move step

end PasswordChange.Directory.Memory
