import PasswordChange.Proofs.History
import PasswordChange.Proofs.Lockstep
import PasswordChange.Proofs.Operation

/-!
# Calls of the library as sequences of operations

Whatever a call of the library does to a directory in memory, it does by operations on it, one after
the other, and the journal records their events in this order.

* `Memory.eventsOf` are the events of a sequence of operations.
* `Retraces` says that a sequence of operations is all that happened to a directory between two
  worlds. `retracing` is the frame of worlds between which there is such a sequence.
* `Visit.retraced` says that there is one for every call of the library.
-/

namespace PasswordChange

open Directory (Memory)

variable {H α : Type}

namespace Directory.Memory

/-- The events of one operation after the other. -/
def eventsOf : List Operation → Memory → Journal
  | [], _ => []
  | operation :: rest, d =>
    (operation.carryOut d).events ++ eventsOf rest (operation.carryOut d).state

theorem eventsOf_append (operations more : List Operation) (d : Memory) :
    eventsOf (operations ++ more) d =
      eventsOf operations d ++ eventsOf more (replay operations d) := by
  induction operations generalizing d with
  | nil => rfl
  | cons operation rest ih =>
      rw [List.cons_append, eventsOf, ih, eventsOf, List.append_assoc]
      rfl

/-- All events of an operation concern the directory. -/
theorem Operation.not_isCommon (operation : Operation) (d : Memory) :
    ∀ event ∈ (operation.carryOut d).events, event.isCommon = false := by
  have concluded (call : Call) (decision : Except Failure (Handle Ref)) :
      ∀ event ∈ (d.conclude call decision).events, event.isCommon = false := by
    unfold conclude
    split <;> exact List.forall_mem_singleton.2 rfl
  have credited {step : Step Memory Unit} (credited : d.Credited step) :
      ∀ event ∈ step.events, event.isCommon = false := by
    intro event member
    obtain ⟨call, accepted, rfl, _⟩ := credited.events event member
    rfl
  cases operation with
  | addNode | addUser | configure | undergo => exact fun _ => nofun
  | createSession | openNodeByName | openNodeByType => exact concluded _ _
  | copyRecord node recordType name =>
      change ∀ event ∈ (d.copyRecord node recordType name).events, _
      unfold Memory.copyRecord
      split <;> exact List.forall_mem_singleton.2 rfl
  | copyValues record attributeName =>
      change ∀ event ∈ (d.copyValues record attributeName).events, _
      unfold Memory.copyValues
      repeat' split
      all_goals exact fun _ => nofun
  | setCredentials v record recordType authType items =>
      exact credited (credited_setCredentials v record recordType authType items d)
  | changePassword v record old new => exact credited (credited_changePassword v record old new d)
  | close handle =>
      intro event member
      obtain ⟨kind, rfl⟩ := released_of_close handle d event member
      rfl

/-- The deeds of a program are operations without events. -/
theorem replay_deeds (deeds : List Deed) (d : Memory) :
    replay (deeds.map .undergo) d = deeds.foldl (fun d deed => d.undergo deed) d ∧
      eventsOf (deeds.map .undergo) d = [] := by
  induction deeds generalizing d with
  | nil => exact ⟨rfl, rfl⟩
  | cons deed rest ih => exact ih (d.undergo deed)

end Directory.Memory

open Directory.Memory (Operation replay replay_append replay_deeds eventsOf eventsOf_append)

/-- The operations are all that happened to the directory between the two worlds. -/
structure Retraces (w w' : World Memory H) (operations : List Operation) : Prop where
  directory : w'.directory = replay operations w.directory
  journal : ∃ added, w'.journal = w.journal ++ added ∧
    added.filter (!·.isCommon) = eventsOf operations w.directory

namespace Retraces

variable {w w₁ w₂ : World Memory H} {operations more : List Operation}

theorem trans (first : Retraces w w₁ operations) (second : Retraces w₁ w₂ more) :
    Retraces w w₂ (operations ++ more) := by
  obtain ⟨added₁, grown₁, seen₁⟩ := first.journal
  obtain ⟨added₂, grown₂, seen₂⟩ := second.journal
  refine ⟨?_, added₁ ++ added₂, ?_, ?_⟩
  · rw [second.directory, first.directory, replay_append]
  · rw [grown₂, grown₁, List.append_assoc]
  · rw [List.filter_append, seen₁, seen₂, first.directory, eventsOf_append]

/-- Where nothing happens to the directory, there are no operations. -/
theorem of_isCommon (same : w₁.directory = w.directory) {added : Journal}
    (grown : w₁.journal = w.journal ++ added) (common : ∀ event ∈ added, event.isCommon = true) :
    Retraces w w₁ [] := by
  refine ⟨same, added, grown, List.filter_eq_nil_iff.2 fun event member => ?_⟩
  rw [common event member]
  exact Bool.false_ne_true

theorem of_aside (aside : Aside w w₁) : Retraces w w₁ [] := by
  obtain ⟨added, grown, kind⟩ := aside.journal
  refine of_isCommon aside.directory grown fun event member => ?_
  have isAside := kind event member
  cases event <;> first | rfl | cases isAside

/-- An operation that is carried out is all that happens. -/
theorem of_carryOut (operation : Operation) :
    Retraces w { w with
      directory := (operation.carryOut w.directory).state
      journal := w.journal ++ (operation.carryOut w.directory).events } [operation] := by
  refine ⟨rfl, _, rfl, ?_⟩
  rw [eventsOf, eventsOf, List.append_nil, List.filter_eq_self]
  intro event member
  rw [operation.not_isCommon w.directory event member]
  rfl

/-- What was released between the two worlds was released by the operations. -/
theorem released (retraces : Retraces w w₁ operations) :
    w₁.journal.released =
      w.journal.released ++ Journal.released (eventsOf operations w.directory) := by
  obtain ⟨added, grown, seen⟩ := retraces.journal
  have same : Journal.released (added.filter (!·.isCommon)) = Journal.released added := by
    unfold Journal.released
    rw [List.filterMap_filter]
    congr
    funext event
    cases event <;> rfl
  rw [grown, Journal.released_append, ← seen, same]

end Retraces

/-- There is a sequence of operations between two worlds. -/
def retracing : Frame Memory H where
  rel w w' := ∃ operations, Retraces w w' operations
  refl _ := ⟨[], .of_isCommon rfl (List.append_nil _).symm fun _ => nofun⟩
  trans := fun ⟨_, first⟩ ⟨_, second⟩ => ⟨_, first.trans second⟩

namespace retracing

/-- What is performed is an operation, if it has the same effect. -/
theorem keeps_perform (operation : Operation) {perform : Memory → Step Memory α}
    (state : ∀ d, (operation.carryOut d).state = (perform d).state)
    (events : ∀ d, (operation.carryOut d).events = (perform d).events) :
    (Act.perform perform : Act Memory H α).Keeps retracing := by
  intro w
  have carriedOut : Retraces w _ [operation] := .of_carryOut operation
  rw [state, events] at carriedOut
  exact ⟨[operation], carriedOut⟩

theorem coversSession : (retracing : Frame Memory H).CoversSession where
  copyValues record attributeName :=
    keeps_perform (.copyValues record attributeName) (fun _ => rfl) fun _ => rfl
  setCredentials v record recordType authType items :=
    keeps_perform (.setCredentials v record recordType authType items) (fun _ => rfl) fun _ => rfl
  changePassword v record old new :=
    keeps_perform (.changePassword v record old new) (fun _ => rfl) fun _ => rfl
  spoken _ _ _ _ spoken := ⟨[], .of_isCommon rfl rfl fun event member =>
    Event.isCommon_of_isSpoken (spoken event member)⟩
  openNodeByName session name :=
    keeps_perform (.openNodeByName session name) (fun _ => rfl) fun _ => rfl
  openNodeByType session nodeType :=
    keeps_perform (.openNodeByType session nodeType) (fun _ => rfl) fun _ => rfl
  copyRecord node recordType name :=
    keeps_perform (.copyRecord node recordType name) (fun _ => rfl) fun _ => rfl
  close handle := keeps_perform (.close handle) (fun _ => rfl) fun _ => rfl

theorem keeps_consult {operation : H → Step H α}
    (common : ∀ h, ∀ event ∈ (operation h).events, event.isCommon = true) :
    (Act.consult operation : Act Memory H α).Keeps retracing :=
  fun w => ⟨[], .of_isCommon rfl rfl (common w.host)⟩

theorem coversBootstrap [Host H] (emits : Host.Emits (H := H) (·.isCommon = true)) :
    (retracing : Frame Memory H).CoversBootstrap where
  isSingleUser := keeps_consult emits.isSingleUser
  launch path args := by
    refine .andThen (keeps_consult (emits.run path args)) fun launch w => ?_
    obtain ⟨same, silent⟩ := replay_deeds launch.deeds w.directory
    refine ⟨launch.deeds.map .undergo, same.symm, [], (List.append_nil _).symm, ?_⟩
    rw [silent]
    rfl
  logged _ _ _ := ⟨[], .of_isCommon rfl rfl (List.forall_mem_singleton.2 rfl)⟩

end retracing

/-- A run is a sequence of operations. -/
theorem Changer.run_retraced [Host H] (emits : Host.Emits (H := H) (·.isCommon = true))
    (c : Changer) (request : Request) (w : World Memory H) :
    ∃ operations, Retraces w (c.run request w).2 operations :=
  c.run_keeps (retracing.coversBootstrap emits)
    (fun options => retracing.keeps_perform (.createSession options) (fun _ => rfl) fun _ => rfl)
    retracing.coversSession request w

/-- **A call of the library is a sequence of operations.** -/
theorem Visit.retraced (visit : Visit) (w : World Memory Host.Scripted) :
    ∃ operations, Retraces w (visit.leave w) operations := by
  have entered : Retraces w (visit.enter w) [] :=
    .of_isCommon rfl (List.append_nil _).symm fun _ => nofun
  rcases visit.errand.act_cases (visit.enter w) with
    ⟨_, aside, _⟩ | ⟨c, request, w₀, _, before, after, _⟩
  · exact ⟨_, entered.trans (.of_aside aside)⟩
  · obtain ⟨operations, ran⟩ := c.run_retraced Host.Scripted.emits_isCommon request w₀
    exact ⟨_, entered.trans ((Retraces.of_aside before).trans (ran.trans (.of_aside after)))⟩

end PasswordChange
