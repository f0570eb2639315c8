import PasswordChange.Proofs.Footing
import PasswordChange.Proofs.Lease
import PasswordChange.Proofs.Retracing

/-!
# The ledger of handles

Callers of a directory in memory can keep a ledger: which handles were returned to them, of which
kind, and which of these they have closed since. The directory's own lists say the same.

* `Memory.Ledger.after` keeps the ledger. It reads nothing but the operations and what they return.
* `Memory.Tallies` is the invariant that ties a ledger to a directory, `Memory.Tallies.step` says
  that every operation preserves it.
* `Unfolds` takes a sequence of operations and calls of the library apart into operations, and
  `handles_registered` says of each of these moments what the directory's lists contain.
-/

namespace PasswordChange

namespace Directory.Memory

variable {d d' : Memory} {i j : HandleId} {kind : Handle.Kind}

/-! ## Keeping a ledger -/

/-- The handles that were returned to callers and those that they have closed, in order. -/
structure Ledger where
  returned : List (HandleId × Handle.Kind) := []
  closed : List (HandleId × Handle.Kind) := []

/-- The kind of handles that an operation returns. -/
def Operation.lends : Operation → Handle.Kind
  | createSession _ => .session
  | openNodeByName .. | openNodeByType .. => .node
  | copyRecord .. => .record
  | _ => .plain

namespace Ledger

/-- The handles that have not been closed. -/
def outstanding (ledger : Ledger) : List (HandleId × Handle.Kind) :=
  ledger.returned.filter fun entry => entry.1 ∉ ledger.closed.map Prod.fst

/-- A handle was returned. -/
def lend (i : HandleId) (kind : Handle.Kind) (ledger : Ledger) : Ledger :=
  { ledger with returned := ledger.returned ++ [(i, kind)] }

/-- The entry of a handle that has not been closed. -/
def entry? (i : HandleId) (ledger : Ledger) : Option (HandleId × Handle.Kind) :=
  ledger.outstanding.find? (·.1 = i)

/-- A handle was closed, unless it had been before. -/
def close (i : HandleId) (ledger : Ledger) : Ledger :=
  { ledger with closed := ledger.closed ++ (ledger.entry? i).toList }

/-- The ledger after an operation that returned the handle, if it did. -/
def after (ledger : Ledger) : Operation → Option HandleId → Ledger
  | .close i, _ => ledger.close i
  | operation, returned? => returned?.elim ledger fun i => ledger.lend i operation.lends

end Ledger

/-- The handle that an operation returned. -/
def Operation.returned? (operation : Operation) (d : Memory) : Option HandleId :=
  (operation.carryOut d).outcome.toOption.join

/-- An operation whose value is left out returns no handle. -/
theorem join_map_none {α : Type} (step : Step Memory α) :
    (step.map fun _ => (none : Option HandleId)).outcome.toOption.join = none := by
  obtain ⟨_ | _, _, _⟩ := step <;> rfl

/-- The ledger after one operation after the other. -/
def ledgerOf : List Operation → Memory → Ledger → Ledger
  | [], _, ledger => ledger
  | operation :: rest, d, ledger =>
    ledgerOf rest (operation.carryOut d).state (ledger.after operation (operation.returned? d))

/-! ## Closing a handle -/

/-- Closing an open handle releases it, and all others stay as they are. -/
theorem close_of_isOpen {h : Handle Ref} (found : d.handles.get? i = some h)
    (isOpen : h.isOpen = true) :
    (d.close i).events = [.released h.kind] ∧
      (d.close i).state.openHandles = d.openHandles.filter (· ≠ i) ∧
      (d.close i).state.handles.get? i = some h.closed := by
  obtain ⟨ref, opened⟩ := Option.isSome_iff_exists.1 isOpen
  have bound : i.index < d.handles.handles.size := by
    obtain ⟨inside, _⟩ := Array.getElem?_eq_some_iff.1 found
    exact inside
  unfold Memory.close Registry.close Handle.close
  simp only [found, opened, release, Option.map_some, Option.getD_some]
  refine ⟨trivial, trivial, ?_⟩
  simp [Registry.get?, bound, Handle.closed]

/-- Closing a handle that is not open does nothing. -/
theorem close_of_not_isOpen (shut : ∀ h, d.handles.get? i = some h → h.isOpen = false) :
    d.close i = .ok () d [] := by
  unfold Memory.close Registry.close Handle.close
  rcases found : d.handles.get? i with _ | h
  · rfl
  · have noRef : h.ref = none := by
      simpa [Handle.isOpen] using shut h found
    obtain ⟨bound, same⟩ := Array.getElem?_eq_some_iff.1 found
    have kept : d.handles.handles.setIfInBounds i.index h = d.handles.handles := by
      rw [← same, Array.setIfInBounds, dif_pos bound, Array.set_getElem_self]
    simp only [noRef, kept]
    rfl

/-- Closing a handle takes no other one from the list. -/
theorem mem_openHandles_close (other : j ≠ i) (d : Memory) :
    i ∈ (d.close j).state.openHandles ↔ i ∈ d.openHandles := by
  by_cases isOpen : ∃ h, d.handles.get? j = some h ∧ h.isOpen = true
  · obtain ⟨h, found, isOpen⟩ := isOpen
    rw [(close_of_isOpen found isOpen).2.1]
    simp [other.symm]
  · have shut : d.close j = .ok () d [] := close_of_not_isOpen fun h found =>
      Bool.eq_false_iff.2 fun isOpen' => isOpen ⟨h, found, isOpen'⟩
    rw [shut]
    rfl

/-! ## The invariant -/

/-- The ledger says of a directory which handles it has issued, which of them are open, and which
kind these have. -/
structure Tallies (d : Memory) (ledger : Ledger) : Prop where
  openHandles : d.openHandles = ledger.outstanding.map Prod.fst
  distinct : (ledger.returned.map Prod.fst).Nodup
  issued : ∀ entry ∈ ledger.returned, entry.1.index < d.handles.handles.size
  standing (i : HandleId) (kind : Handle.Kind) : (i, kind) ∈ ledger.outstanding ↔
    ∃ h, d.handles.get? i = some h ∧ h.isOpen = true ∧ h.kind = kind
  closed : ∀ entry ∈ ledger.closed, entry ∈ ledger.returned
  closedOnce : (ledger.closed.map Prod.fst).Nodup

/-- After a step the ledger tallies with the directory again, and the handles that were closed in it
are those that the step has released. -/
structure Entered (ledger : Ledger) (step : Step Memory (Option HandleId)) (ledger' : Ledger) :
    Prop where
  tallies : Tallies step.state ledger'
  released : ledger'.closed.map Prod.snd =
    ledger.closed.map Prod.snd ++ Journal.released step.events

namespace Tallies

variable {ledger : Ledger}

theorem mono (tallies : Tallies d ledger) (handles : d'.handles = d.handles)
    (openHandles : d'.openHandles = d.openHandles) : Tallies d' ledger where
  openHandles := openHandles.trans tallies.openHandles
  distinct := tallies.distinct
  issued := by
    rw [handles]
    exact tallies.issued
  standing := by
    rw [handles]
    exact tallies.standing
  closed := tallies.closed
  closedOnce := tallies.closedOnce

/-- A new handle has a name of its own. -/
theorem outstanding_lend (tallies : Tallies d ledger) (h : Handle Ref) :
    (ledger.lend (d.issue h).1 kind).outstanding =
      ledger.outstanding ++ [((d.issue h).1, kind)] := by
  have fresh : (d.issue h).1 ∉ ledger.closed.map Prod.fst := by
    intro member
    obtain ⟨entry, inside, same⟩ := List.mem_map.1 member
    have old := tallies.issued entry (tallies.closed entry inside)
    rw [same] at old
    exact Nat.lt_irrefl _ old
  unfold Ledger.outstanding Ledger.lend
  rw [List.filter_append, List.filter_cons_of_pos (by simpa using fresh), List.filter_nil]

/-- A handle that is issued is entered in the ledger. -/
theorem lend (tallies : Tallies d ledger) {h : Handle Ref} (isOpen : h.isOpen = true) :
    Tallies (d.issue h).2 (ledger.lend (d.issue h).1 h.kind) where
  openHandles := by
    rw [tallies.outstanding_lend, List.map_append, ← tallies.openHandles]
    rfl
  distinct := by
    change (ledger.returned ++ _).map Prod.fst |>.Nodup
    rw [List.map_append, List.nodup_append]
    refine ⟨tallies.distinct, by simp, ?_⟩
    intro old member new last same
    obtain ⟨entry, inside, rfl⟩ := List.mem_map.1 member
    have bound := tallies.issued entry inside
    rw [same, List.mem_singleton.1 last] at bound
    exact Nat.lt_irrefl _ bound
  issued := by
    have size : (d.issue h).2.handles.handles.size = d.handles.handles.size + 1 :=
      Array.size_push _
    rw [size]
    refine List.forall_mem_append.2 ⟨fun entry member => ?_, List.forall_mem_singleton.2 ?_⟩
    · exact Nat.lt_succ_of_lt (tallies.issued entry member)
    · exact Nat.lt_succ_self _
  standing i kind := by
    rw [tallies.outstanding_lend, List.mem_append, List.mem_singleton, tallies.standing]
    change _ ↔ ∃ h', (d.handles.issue h).2.get? i = some h' ∧ _
    rw [Registry.get?_issue]
    by_cases new : i = (d.handles.issue h).1
    · have unissued : d.handles.get? i = none := by
        rw [new]
        exact Array.getElem?_eq_none (Nat.le_refl _)
      rw [if_pos new, unissued]
      constructor
      · rintro (⟨_, old, _⟩ | same)
        · cases old
        · cases same
          exact ⟨h, rfl, isOpen, rfl⟩
      · rintro ⟨_, ⟨⟩, _, rfl⟩
        rw [new]
        exact Or.inr rfl
    · rw [if_neg new]
      refine ⟨?_, Or.inl⟩
      rintro (old | same)
      · exact old
      · cases same
        exact absurd rfl new
  closed entry member := List.mem_append.2 (Or.inl (tallies.closed entry member))
  closedOnce := tallies.closedOnce

/-- A handle that is open and closed now is entered as closed. -/
theorem close_of_mem (tallies : Tallies d ledger) (member : (i, kind) ∈ ledger.outstanding) :
    Tallies (d.close i).state { ledger with closed := ledger.closed ++ [(i, kind)] } := by
  obtain ⟨inside, unclosed⟩ := List.mem_filter.1 member
  obtain ⟨h, found, isOpen, ofKind⟩ := (tallies.standing i kind).1 member
  obtain ⟨_, openHandles, shut⟩ := close_of_isOpen found isOpen
  have rest : Ledger.outstanding { ledger with closed := ledger.closed ++ [(i, kind)] } =
      ledger.outstanding.filter (·.1 ≠ i) := by
    unfold Ledger.outstanding
    rw [List.filter_filter]
    congr
    funext entry
    rw [List.map_append, List.map_singleton]
    simp only [List.mem_append, List.mem_singleton, not_or, Bool.decide_and, Bool.and_comm]
  refine ⟨?_, tallies.distinct, ?_, ?_, ?_, ?_⟩
  · rw [openHandles, tallies.openHandles, rest, List.filter_map]
    rfl
  · intro entry member
    have size : (d.close i).state.handles.handles.size = d.handles.handles.size := by
      unfold Memory.close Registry.close Handle.close
      obtain ⟨ref, opened⟩ := Option.isSome_iff_exists.1 isOpen
      simp only [found, opened, release, Array.size_setIfInBounds]
    rw [size]
    exact tallies.issued entry member
  · intro j kind'
    rw [rest, List.mem_filter, tallies.standing]
    by_cases same : j = i
    · subst same
      rw [shut]
      simp
    · rw [get?_close_of_other (Ne.symm same)]
      simp [same]
  · exact List.forall_mem_append.2 ⟨tallies.closed, List.forall_mem_singleton.2 inside⟩
  · rw [List.map_append, List.nodup_append]
    refine ⟨tallies.closedOnce, by simp, ?_⟩
    rintro other earlier _ last rfl
    rw [List.mem_singleton.1 last] at earlier
    exact of_decide_eq_true unclosed earlier

/-- A handle that has been closed is not open. -/
theorem shut_of_not_mem (tallies : Tallies d ledger)
    (gone : ∀ kind, (i, kind) ∉ ledger.outstanding) : d.close i = .ok () d [] :=
  close_of_not_isOpen fun h found =>
    Bool.eq_false_iff.2 fun isOpen => gone h.kind ((tallies.standing i _).2 ⟨h, found, isOpen, rfl⟩)

/-- Closing a handle of whatever age is entered in the ledger as it happens. -/
theorem close (tallies : Tallies d ledger) (i : HandleId) :
    Entered ledger ((d.close i).map fun _ => none) (ledger.close i) := by
  unfold Ledger.close
  rcases found : ledger.entry? i with _ | ⟨j, kind⟩
  · have gone (kind : Handle.Kind) : (i, kind) ∉ ledger.outstanding := fun member =>
      List.find?_eq_none.1 found _ member (decide_eq_true rfl)
    rw [tallies.shut_of_not_mem gone, Option.toList_none, List.append_nil]
    exact ⟨tallies, (List.append_nil _).symm⟩
  · have member := List.mem_of_find?_eq_some found
    have same := List.find?_some found
    obtain rfl : j = i := of_decide_eq_true same
    obtain ⟨h, there, isOpen, rfl⟩ := (tallies.standing j kind).1 member
    refine ⟨tallies.close_of_mem member, ?_⟩
    rw [show ((d.close j).map fun _ => none).events = _ from (close_of_isOpen there isOpen).1]
    exact List.map_append

/-! ## Every operation keeps the invariant -/

/-- Nothing is entered for a step that leaves the handles alone. -/
theorem idle (tallies : Tallies d ledger)
    {step : Step Memory (Option HandleId)} (handles : step.state.handles = d.handles)
    (openHandles : step.state.openHandles = d.openHandles)
    (unreleased : ∀ event ∈ step.events, ∀ kind, event ≠ .released kind) :
    Entered ledger step ledger where
  tallies := tallies.mono handles openHandles
  released := by
    rw [Journal.released_eq_nil unreleased, List.append_nil]

/-- A handle that is lent is entered, and nothing is entered if the operation fails. -/
theorem lends (tallies : Tallies d ledger)
    {step : Step Memory HandleId} (lends : Lends kind d step) :
    Entered ledger (step.map some)
      ((step.map some).outcome.toOption.join.elim ledger fun i => ledger.lend i kind) := by
  cases lends with
  | @issued h call same isOpen =>
      exact ⟨same ▸ tallies.lend isOpen, (List.append_nil _).symm⟩
  | failed => exact ⟨tallies, (List.append_nil _).symm⟩

theorem copyRecord (tallies : Tallies d ledger) (node : HandleId)
    (recordType name : String) :
    Entered ledger (d.copyRecord node recordType name)
      ((d.copyRecord node recordType name).outcome.toOption.join.elim ledger fun i =>
        ledger.lend i .record) := by
  rcases d.copyRecord_cases node recordType name with
    ⟨h, kind, isOpen, found⟩ | ⟨outcome, accepted, none, missed⟩
  · rw [found]
    exact ⟨kind ▸ tallies.lend isOpen, (List.append_nil _).symm⟩
  · rw [missed]
    rcases outcome with e | _ | record
    · exact ⟨tallies, (List.append_nil _).symm⟩
    · exact ⟨tallies, (List.append_nil _).symm⟩
    · exact absurd rfl (none record)

/-- **Every operation enters in the ledger what it does to the handles.** -/
theorem step (tallies : Tallies d ledger) (operation : Operation) :
    Entered ledger (operation.carryOut d) (ledger.after operation (operation.returned? d)) := by
  cases operation with
  | addNode | addUser | configure => exact tallies.idle rfl rfl fun _ => nofun
  | undergo deed =>
      obtain ⟨handles, openHandles⟩ := undergo_handles deed d
      exact tallies.idle handles openHandles fun _ => nofun
  | createSession options => exact tallies.lends (lends_createSession options d)
  | openNodeByName session name => exact tallies.lends (lends_openNodeByName session name d)
  | openNodeByType session nodeType => exact tallies.lends (lends_openNodeByType session nodeType d)
  | copyRecord node recordType name => exact tallies.copyRecord node recordType name
  | copyValues record attributeName =>
      have same := copyValues_state record attributeName d
      unfold Operation.returned?
      rw [Operation.carryOut, join_map_none]
      refine tallies.idle (congrArg Memory.handles same) (congrArg Memory.openHandles same) ?_
      exact (serviceFrame.copyValues record attributeName d).2
  | setCredentials v record recordType authType items =>
      have credited := credited_setCredentials v record recordType authType items d
      unfold Operation.returned?
      rw [Operation.carryOut, join_map_none]
      exact tallies.idle credited.handles.1 credited.handles.2 credited.not_released
  | changePassword v record old new =>
      have credited := credited_changePassword v record old new d
      unfold Operation.returned?
      rw [Operation.carryOut, join_map_none]
      exact tallies.idle credited.handles.1 credited.handles.2 credited.not_released
  | close handle => exact tallies.close handle

end Tallies

/-- The ledger of a new directory is empty. -/
theorem tallies_fresh (daemonRunning : Bool) (localRoot : String) :
    Tallies { daemonRunning, localRoot } {} where
  openHandles := rfl
  distinct := List.nodup_nil
  issued := fun _ => nofun
  standing i kind := by
    constructor
    · exact nofun
    · rintro ⟨h, found, _⟩
      simp [Registry.get?] at found
  closed := fun _ => nofun
  closedOnce := List.nodup_nil

/-- A ledger that is kept through a sequence of operations tallies with the directory in the end,
and the handles that were closed in it are those that the operations have released. -/
theorem Tallies.run {ledger : Ledger} (tallies : Tallies d ledger) (operations : List Operation) :
    Tallies (replay operations d) (ledgerOf operations d ledger) ∧
      (ledgerOf operations d ledger).closed.map Prod.snd =
        ledger.closed.map Prod.snd ++ Journal.released (eventsOf operations d) := by
  induction operations generalizing d ledger with
  | nil => exact ⟨tallies, (List.append_nil _).symm⟩
  | cons operation rest ih =>
      obtain ⟨after, released⟩ := tallies.step operation
      obtain ⟨last, releasedLater⟩ := ih after
      refine ⟨last, ?_⟩
      rw [ledgerOf, releasedLater, released, eventsOf, Journal.released_append, List.append_assoc]

/-! ## What the lists of a directory contain -/

/-- What a directory and its release log say about handles of which a ledger was kept. -/
structure Registered (d : Memory) (ledger : Ledger) (released : List Handle.Kind) : Prop where
  /-- The open handles are those that were returned and have not been closed, in this order. -/
  openHandles : d.openHandles = ledger.outstanding.map Prod.fst
  distinct : d.openHandles.Nodup
  /-- The release log has one entry for each handle that was closed, its kind, in this order. -/
  released : released = ledger.closed.map Prod.snd
  closed : ∀ entry ∈ ledger.closed, entry ∈ ledger.returned
  closedOnce : (ledger.closed.map Prod.fst).Nodup
  /-- Closing a handle neither closes another one nor takes it from the list. -/
  others (i j : HandleId) : j ≠ i →
    (d.close j).state.handles.get? i = d.handles.get? i ∧
    (i ∈ (d.close j).state.openHandles ↔ i ∈ d.openHandles)
  /-- Closing a handle once more does nothing. -/
  again (i : HandleId) : i ∈ ledger.closed.map Prod.fst → d.close i = .ok () d []

theorem Tallies.registered {ledger : Ledger} (tallies : Tallies d ledger) :
    Registered d ledger (ledger.closed.map Prod.snd) where
  openHandles := tallies.openHandles
  distinct := by
    rw [tallies.openHandles]
    exact List.Pairwise.sublist (List.filter_sublist.map _) tallies.distinct
  released := rfl
  closed := tallies.closed
  closedOnce := tallies.closedOnce
  others i j other := ⟨get?_close_of_other other d, mem_openHandles_close other d⟩
  again i closed := by
    refine tallies.shut_of_not_mem fun kind member => ?_
    exact of_decide_eq_true (List.mem_filter.1 member).2 closed

end Directory.Memory

open Directory (Memory)
open Directory.Memory (Operation Registered replay eventsOf ledgerOf tallies_fresh)

/-! ## Operations and calls of the library, in any order -/

/-- Something that is done with a directory in memory: an operation on it, or a call of the
library. -/
inductive Activity where
  | operate (operation : Operation)
  | visit (call : Visit)

/-- The world after an activity. -/
def Activity.pursue (w : World Memory Host.Scripted) : Activity → World Memory Host.Scripted
  | operate operation =>
    { w with
      directory := (operation.carryOut w.directory).state
      journal := w.journal ++ (operation.carryOut w.directory).events }
  | visit call => call.leave w

/-- The operations of which activities consist, where each call of the library consists of all that
happens to the directory in it. -/
inductive Unfolds : World Memory Host.Scripted → List Activity → List Operation →
    World Memory Host.Scripted → Prop where
  | nil (w : World Memory Host.Scripted) : Unfolds w [] [] w
  | operate {w w' : World Memory Host.Scripted} {operation : Operation} {rest : List Activity}
    {operations : List Operation} :
    Unfolds ((Activity.operate operation).pursue w) rest operations w' →
    Unfolds w (.operate operation :: rest) (operation :: operations) w'
  | visit {w w' : World Memory Host.Scripted} {call : Visit} {rest : List Activity}
    {inside operations : List Operation} :
    Retraces w (call.leave w) inside → Unfolds (call.leave w) rest operations w' →
    Unfolds w (.visit call :: rest) (inside ++ operations) w'

/-- Activities can be unfolded. -/
theorem unfolds_pursue (activities : List Activity) (w : World Memory Host.Scripted) :
    ∃ operations, Unfolds w activities operations (activities.foldl Activity.pursue w) := by
  induction activities generalizing w with
  | nil => exact ⟨[], .nil w⟩
  | cons activity rest ih =>
      obtain ⟨operations, later⟩ := ih (activity.pursue w)
      cases activity with
      | operate operation => exact ⟨_, .operate later⟩
      | visit call =>
          obtain ⟨inside, retraces⟩ := call.retraced w
          exact ⟨_, .visit retraces later⟩

/-- Nothing happens to the directory but the operations. -/
theorem Unfolds.retraces {w w' : World Memory Host.Scripted} {activities : List Activity}
    {operations : List Operation} (unfolds : Unfolds w activities operations w') :
    Retraces w w' operations := by
  induction unfolds with
  | nil w => exact .of_isCommon rfl (List.append_nil _).symm (List.forall_mem_nil _)
  | operate _ ih => exact (Retraces.of_carryOut _).trans ih
  | visit retraces _ ih => exact retraces.trans ih

/-- **The registry of handles**: whatever operations are carried out on a new directory and whatever
calls of the library are made on it, in any order, all that happens to the directory is a sequence
of operations; and after every sequence of operations, so at every moment, the lists of open and of
released handles are those of a ledger in which the handles were entered when they were returned and
when they were first closed. -/
theorem handles_registered (daemonRunning : Bool) (localRoot : String) (host : Host.Scripted)
    (vault : Vault) (activities : List Activity) :
    let d : Memory := { daemonRunning, localRoot }
    let w : World Memory Host.Scripted := { directory := d, host, vault }
    let w' := activities.foldl Activity.pursue w
    (∃ operations, Unfolds w activities operations w' ∧ w'.directory = replay operations d ∧
      w'.journal.released = Journal.released (eventsOf operations d)) ∧
    ∀ operations, Registered (replay operations d) (ledgerOf operations d {})
      (Journal.released (eventsOf operations d)) := by
  intro d w w'
  constructor
  · obtain ⟨operations, unfolds⟩ := unfolds_pursue activities w
    exact ⟨operations, unfolds, unfolds.retraces.directory, unfolds.retraces.released⟩
  · intro operations
    obtain ⟨tallies, released⟩ := (tallies_fresh daemonRunning localRoot).run operations
    have released' : (ledgerOf operations d {}).closed.map Prod.snd =
      Journal.released (eventsOf operations d) := released
    rw [← released']
    exact tallies.registered

end PasswordChange
