import PasswordChange.Proofs.Bootstrap
import PasswordChange.Proofs.Decided
import PasswordChange.Proofs.Errand
import PasswordChange.Proofs.Reachable

/-!
# Handles on loan

A run of the flow opens a session, a node and a record, as far as it comes, and closes whatever it
has opened: the session before the record is looked up, the record before the node. The handles
that were open before are none of its business.

* `Memory.Tenure` says which handles a directory in memory has issued since an earlier state, and
  that everything older is as it was; `Tenure.issue` and `Tenure.close` are its two steps.
* `Changer.Stage` is how far a run comes.
* `Errand.handles_returned` says that all handles of a call have been released at its end, and in
  which order.
-/

namespace PasswordChange

/-- The handle after it was closed. -/
def Handle.closed {ρ : Type} (h : Handle ρ) : Handle ρ :=
  { h with ref := none }

@[simp]
theorem Handle.isOpen_closed {ρ : Type} (h : Handle ρ) : h.closed.isOpen = false := rfl

namespace Directory.Memory

variable {d d₁ d₂ : Memory} {new before after : List (Handle Ref)} {h : Handle Ref}

/-! ## Handles issued one after the other -/

/-- The names of the open ones among handles that were issued one after the other, if the first of
them has the given number. -/
def openIds (start : Nat) : List (Handle Ref) → List HandleId
  | [] => []
  | h :: rest => if h.isOpen then ⟨start⟩ :: openIds (start + 1) rest else openIds (start + 1) rest

theorem openIds_append (start : Nat) (hs ks : List (Handle Ref)) :
    openIds start (hs ++ ks) = openIds start hs ++ openIds (start + hs.length) ks := by
  induction hs generalizing start with
  | nil => rfl
  | cons h rest ih =>
      have shift : start + 1 + rest.length = start + (h :: rest).length := by
        rw [List.length_cons]
        omega
      rw [List.cons_append, openIds, openIds, ih, shift]
      split <;> rfl

theorem le_of_mem_openIds {start : Nat} {hs : List (Handle Ref)} {i : HandleId}
    (member : i ∈ openIds start hs) : start ≤ i.index := by
  induction hs generalizing start with
  | nil => cases member
  | cons h rest ih =>
      unfold openIds at member
      split at member
      · rcases List.mem_cons.1 member with rfl | later
        · exact Nat.le_refl _
        · exact Nat.le_of_succ_le (ih later)
      · exact Nat.le_of_succ_le (ih member)

theorem openIds_of_closed {start : Nat} {hs : List (Handle Ref)}
    (closed : ∀ h ∈ hs, h.isOpen = false) : openIds start hs = [] := by
  induction hs generalizing start with
  | nil => rfl
  | cons h rest ih =>
      obtain ⟨here, others⟩ := List.forall_mem_cons.1 closed
      rw [openIds, here]
      exact ih others

/-- Without the name of a handle, the open handles are those after it was closed. -/
theorem openIds_close (start : Nat) (before after : List (Handle Ref)) (h : Handle Ref) :
    (openIds start (before ++ h :: after)).filter (· ≠ ⟨start + before.length⟩) =
      openIds start (before ++ h.closed :: after) := by
  induction before generalizing start with
  | nil =>
      have later : (openIds (start + 1) after).filter (· ≠ ⟨start⟩) =
          openIds (start + 1) after := by
        refine List.filter_eq_self.2 fun i member => ?_
        have above := le_of_mem_openIds member
        refine decide_eq_true fun same => ?_
        rw [same] at above
        exact Nat.not_succ_le_self _ above
      have gone : openIds start (h.closed :: after) = openIds (start + 1) after := by
        simp [openIds]
      rw [List.nil_append, List.nil_append, gone, openIds]
      split
      · rw [List.filter_cons_of_neg (by simp)]
        exact later
      · exact later
  | cons first rest ih =>
      have shift : start + (first :: rest).length = start + 1 + rest.length := by
        rw [List.length_cons]
        omega
      have other : (⟨start⟩ : HandleId) ≠ ⟨start + 1 + rest.length⟩ := by
        intro same
        have := congrArg HandleId.index same
        dsimp only at this
        omega
      rw [List.cons_append, List.cons_append, openIds, openIds, shift]
      split
      · rw [List.filter_cons_of_pos (by simpa using other), ih]
      · exact ih _

/-! ## The handles issued since an earlier state -/

/-- Every open handle has been issued. -/
def Tracked (d : Memory) : Prop :=
  ∀ i ∈ d.openHandles, i.index < d.handles.handles.size

/-- Since `d` the directory has issued the handles `new`, in this order, and they are now as given.
All older handles are as they were, and they are open or closed as they were. -/
structure Tenure (d d' : Memory) (new : List (Handle Ref)) : Prop where
  handles : d'.handles.handles.toList = d.handles.handles.toList ++ new
  openHandles : d'.openHandles = d.openHandles ++ openIds d.handles.handles.size new

theorem Tenure.refl (d : Memory) : d.Tenure d [] :=
  ⟨(List.append_nil _).symm, (List.append_nil _).symm⟩

/-- Work that leaves the handles alone does not matter. -/
theorem Tenure.mono (tenure : d.Tenure d₁ new) (handles : d₂.handles = d₁.handles)
    (openHandles : d₂.openHandles = d₁.openHandles) : d.Tenure d₂ new :=
  ⟨by rw [handles, tenure.handles], by rw [openHandles, tenure.openHandles]⟩

theorem Tenure.size (tenure : d.Tenure d₁ new) :
    d₁.handles.handles.size = d.handles.handles.size + new.length := by
  have length := congrArg List.length tenure.handles
  simpa using length

/-- An open handle that is issued is one more. -/
theorem Tenure.issue (tenure : d.Tenure d₁ new) (isOpen : h.isOpen = true) :
    d.Tenure (d₁.issue h).2 (new ++ [h]) := by
  refine ⟨?_, ?_⟩
  · change (d₁.handles.handles.push h).toList = _
    rw [Array.toList_push, tenure.handles, List.append_assoc]
  · change d₁.openHandles ++ [⟨d₁.handles.handles.size⟩] = _
    rw [tenure.openHandles, tenure.size, openIds_append, List.append_assoc]
    simp [openIds, isOpen]

/-- One of the handles is closed: it is released once, and all others stay as they are. -/
theorem Tenure.close (tenure : d.Tenure d₁ (before ++ h :: after)) (tracked : d.Tracked)
    (isOpen : h.isOpen = true) :
    d.Tenure (d₁.close ⟨d.handles.handles.size + before.length⟩).state
        (before ++ h.closed :: after) ∧
      (d₁.close ⟨d.handles.handles.size + before.length⟩).events = [.released h.kind] := by
  obtain ⟨ref, opened⟩ := Option.isSome_iff_exists.1 isOpen
  have found : d₁.handles.get? ⟨d.handles.handles.size + before.length⟩ = some h := by
    unfold Registry.get?
    rw [← Array.getElem?_toList, tenure.handles, ← List.append_assoc,
      List.getElem?_append_right (by simp)]
    simp
  unfold Memory.close Registry.close Handle.close
  simp only [found, opened, release, Option.map_some, Option.getD_some]
  refine ⟨⟨?_, ?_⟩, trivial⟩
  · rw [Array.toList_setIfInBounds, tenure.handles,
      List.set_append_right _ _ (by simp), List.set_append_right _ _ (by simp)]
    simp [Handle.closed]
  · -- None of the older handles has the name of the one that is closed.
    have older : d.openHandles.filter (· ≠ ⟨d.handles.handles.size + before.length⟩) =
        d.openHandles := by
      refine List.filter_eq_self.2 fun i member => decide_eq_true fun same => ?_
      have issued := tracked i member
      rw [same] at issued
      dsimp only at issued
      omega
    rw [tenure.openHandles, List.filter_append, older, openIds_close]

/-! ## Operations that open something -/

/-- An operation issues one open handle of a kind, or it fails and leaves the directory as it
was. -/
inductive Lends (kind : Handle.Kind) (d : Memory) : Step Memory HandleId → Prop where
  | issued {h : Handle Ref} {call : Call} : h.kind = kind → h.isOpen = true →
    Lends kind d (.ok (d.issue h).1 (d.issue h).2 [.called call true])
  | failed {e : Failure} {call : Call} : Lends kind d (.fail e d [.called call false])

theorem lends_conclude {kind : Handle.Kind} {decision : Except Failure (Handle Ref)} (call : Call)
    (decides : ∀ h, decision = .ok h → h.kind = kind ∧ h.isOpen = true) :
    Lends kind d (d.conclude call decision) := by
  cases decision with
  | error e => exact .failed
  | ok h => exact .issued (decides h rfl).1 (decides h rfl).2

theorem lends_createSession (options : List (String × Value)) (d : Memory) :
    Lends .session d (d.createSession options) := by
  refine lends_conclude _ fun h decided => ?_
  obtain ⟨kind, isOpen⟩ := decideSession_eq_ok decided
  refine ⟨kind, ?_⟩
  rw [Handle.isOpen, isOpen]
  rfl

theorem lends_openNodeByName (session : HandleId) (name : String) (d : Memory) :
    Lends .node d (d.openNodeByName session name) := by
  refine lends_conclude _ fun h decided => ?_
  obtain ⟨restricted, _, _, rfl⟩ := decideNodeByName_eq_ok decided
  exact ⟨rfl, rfl⟩

theorem lends_openNodeByType (session : HandleId) (nodeType : String) (d : Memory) :
    Lends .node d (d.openNodeByType session nodeType) := by
  refine lends_conclude _ fun h decided => ?_
  obtain ⟨restricted, _, rfl⟩ := decideNodeByType_eq_ok decided
  exact ⟨rfl, rfl⟩

/-- A lookup issues the handle of a record, or it finds none and changes nothing. -/
theorem copyRecord_cases (node : HandleId) (recordType username : String) (d : Memory) :
    (∃ h : Handle Ref, h.kind = .record ∧ h.isOpen = true ∧
      d.copyRecord node recordType username = .ok (some (d.issue h).1) (d.issue h).2
        [.called (.copyRecord recordType username) true]) ∨
    ∃ outcome accepted, (∀ record, outcome ≠ .ok (some record)) ∧
      d.copyRecord node recordType username =
        ⟨outcome, d, [.called (.copyRecord recordType username) accepted]⟩ := by
  unfold copyRecord
  rcases decided : d.decideRecord node recordType username with e | _ | h
  · exact Or.inr ⟨.error e, _, fun _ => nofun, rfl⟩
  · exact Or.inr ⟨.ok none, _, fun _ => nofun, rfl⟩
  · obtain ⟨names, home, _, _, rfl⟩ := decideRecord_eq_ok decided
    exact Or.inl ⟨_, rfl, rfl, rfl⟩

/-! ## Every open handle has been issued -/

theorem Tracked.mono (tracked : d.Tracked) (handles : d₁.handles = d.handles)
    (openHandles : d₁.openHandles = d.openHandles) : d₁.Tracked := by
  unfold Tracked
  rw [handles, openHandles]
  exact tracked

theorem Tracked.issue (tracked : d.Tracked) (h : Handle Ref) : (d.issue h).2.Tracked := by
  intro i member
  change i.index < (d.handles.handles.push h).size
  rw [Array.size_push]
  rcases List.mem_append.1 member with old | new
  · exact Nat.lt_succ_of_lt (tracked i old)
  · rw [List.mem_singleton.1 new]
    exact Nat.lt_succ_self _

theorem Tracked.lends (tracked : d.Tracked) {kind : Handle.Kind} {step : Step Memory HandleId}
    (lends : Lends kind d step) : step.state.Tracked := by
  cases lends with
  | issued => exact tracked.issue _
  | failed => exact tracked

/-- A credential operation leaves the handles alone. -/
theorem Credited.handles {step : Step Memory Unit} (credited : d.Credited step) :
    step.state.handles = d.handles ∧ step.state.openHandles = d.openHandles := by
  rcases credited.state with same | ⟨node, user, password, replaced⟩
  · rw [same]
    exact ⟨rfl, rfl⟩
  · obtain ⟨nodes, same⟩ := d.setAccountPassword_eq node user password
    rw [replaced, same]
    exact ⟨rfl, rfl⟩

theorem Tracked.close (tracked : d.Tracked) (i : HandleId) : (d.close i).state.Tracked := by
  unfold Memory.close Registry.close Handle.close
  rcases d.handles.get? i with _ | ⟨kind, name, _ | ref⟩
  · exact tracked
  · intro j member
    change j.index < (Array.setIfInBounds ..).size
    rw [Array.size_setIfInBounds]
    exact tracked j member
  · intro j member
    change j.index < (Array.setIfInBounds ..).size
    rw [Array.size_setIfInBounds]
    exact tracked j (List.mem_filter.1 member).1

theorem copyValues_state (record : HandleId) (attributeName : String) (d : Memory) :
    (d.copyValues record attributeName).state = d := by
  unfold copyValues
  repeat' split
  all_goals rfl

theorem undergo_handles (deed : Deed) (d : Memory) :
    (d.undergo deed).handles = d.handles ∧ (d.undergo deed).openHandles = d.openHandles := by
  cases deed <;> exact ⟨rfl, rfl⟩

theorem Tracked.move (tracked : d.Tracked) (move : Move d d₁) : d₁.Tracked := by
  cases move with
  | addNode name searchable => exact tracked.mono rfl rfl
  | addUser node username password admin => exact tracked.mono rfl rfl
  | configure => exact tracked.mono rfl rfl
  | createSession options => exact tracked.lends (lends_createSession options d)
  | openNodeByName session name => exact tracked.lends (lends_openNodeByName session name d)
  | openNodeByType session nodeType =>
      exact tracked.lends (lends_openNodeByType session nodeType d)
  | copyRecord node recordType name =>
      unfold Memory.copyRecord
      split
      · exact tracked
      · exact tracked
      · exact tracked.issue _
  | copyValues record attributeName =>
      rw [copyValues_state]
      exact tracked
  | setCredentials v record recordType authType items =>
      have same := (credited_setCredentials v record recordType authType items d).handles
      exact tracked.mono same.1 same.2
  | changePassword v record old new =>
      have same := (credited_changePassword v record old new d).handles
      exact tracked.mono same.1 same.2
  | close handle => exact tracked.close handle
  | undergo deed =>
      obtain ⟨handles, openHandles⟩ := undergo_handles deed d
      exact tracked.mono handles openHandles

/-- **In every reachable directory the open handles have been issued.** -/
theorem Reachable.tracked (reachable : Reachable d) : d.Tracked := by
  induction reachable with
  | fresh daemonRunning localRoot => exact fun _ member => (List.not_mem_nil member).elim
  | move _ step ih => exact ih.move step

theorem underwent_handles (deeds : List Deed) (d : Memory) :
    (d.underwent deeds).handles = d.handles ∧ (d.underwent deeds).openHandles = d.openHandles := by
  unfold underwent
  induction deeds generalizing d with
  | nil => exact ⟨rfl, rfl⟩
  | cons deed rest ih =>
      obtain ⟨handles, openHandles⟩ := undergo_handles deed d
      obtain ⟨later, laterOpen⟩ := ih (d.undergo deed)
      exact ⟨later.trans handles, laterOpen.trans openHandles⟩

theorem Credited.not_released {d : Memory} {step : Step Memory Unit}
    (credited : d.Credited step) : ∀ event ∈ step.events, ∀ kind, event ≠ .released kind := by
  intro event member kind same
  obtain ⟨call, accepted, rfl, _⟩ := credited.events event member
  cases same

/-- Service at a record leaves the handles alone and releases nothing. -/
theorem serviceFrame : ServiceFrame (D := Memory)
    (fun d d' => d'.handles = d.handles ∧ d'.openHandles = d.openHandles)
    (fun event => ∀ kind, event ≠ .released kind) where
  refl _ := ⟨rfl, rfl⟩
  trans first second := ⟨second.1.trans first.1, second.2.trans first.2⟩
  undergo := undergo_handles
  copyValues record attributeName d := by
    refine ⟨?_, ?_⟩
    · rw [show (Directory.copyValues record attributeName d).state = d from copyValues_state ..]
      exact ⟨rfl, rfl⟩
    · change ∀ event ∈ (d.copyValues record attributeName).events, _
      unfold Memory.copyValues
      repeat' split
      all_goals simp [Step.ok, Step.fail]
  setCredentials v record recordType authType items d :=
    have credited := credited_setCredentials v record recordType authType items d
    ⟨credited.handles, credited.not_released⟩
  changePassword v record old new d :=
    have credited := credited_changePassword v record old new d
    ⟨credited.handles, credited.not_released⟩
  spoken event spoken kind := by
    rintro rfl
    cases spoken

end Directory.Memory

/-! ## How far a run comes -/

/-- The last object that a run has got hold of. -/
inductive Changer.Stage where
  | outside
  | session
  | node
  | record
  deriving DecidableEq, Repr

namespace Changer.Stage

/-- The kinds of the handles that were issued, in order. -/
def opened : Stage → List Handle.Kind
  | outside => []
  | session => [.session]
  | node => [.session, .node]
  | record => [.session, .node, .record]

/-- The order in which they are released. -/
def released : Stage → List Handle.Kind
  | outside => []
  | session => [.session]
  | node => [.session, .node]
  | record => [.session, .record, .node]

/-- Every kind is released as often as it was issued. -/
theorem released_perm (stage : Stage) : stage.released.Perm stage.opened := by
  cases stage with
  | record => exact (List.Perm.swap ..).cons _
  | outside | session | node => exact .refl _

end Changer.Stage

namespace Changer

open Directory (Memory)

variable {D H α : Type}

/-- How far a run comes from a node on: to the record in it, if there is one. -/
def stageIn [Directory D] (node : HandleId) (request : Request) (w : World D H) : Stage :=
  match findRecord node request.username w with
  | (.error _, _) => .node
  | (.ok _, _) => .record

/-- How far a run comes: to a session, to a node in it, to the record in the node. -/
def stage [Directory D] [Host H] (c : Changer) (request : Request) (w : World D H) : Stage :=
  match c.openSession request w with
  | (.error _, _) => .outside
  | (.ok (session, location), w) =>
    match Act.closing session (openNode session location) w with
    | (.error _, _) => .session
    | (.ok node, w) => stageIn node request w

/-- Between the two worlds the directory in memory has issued the handles `new`, which are now as
given, and has released handles of the kinds `released`, in this order. -/
structure Loan (w w' : World Memory H) (new : List (Handle Memory.Ref))
    (released : List Handle.Kind) : Prop where
  tenure : w.directory.Tenure w'.directory new
  journal : ∃ added, w'.journal = w.journal ++ added ∧ Journal.released added = released

variable {w w₁ w₂ : World Memory H} {new : List (Handle Memory.Ref)} {h : Handle Memory.Ref}
  {released : List Handle.Kind}

theorem Loan.add (loan : Loan w w₁ new released) {d : Memory} {new' : List (Handle Memory.Ref)}
    (tenure : w.directory.Tenure d new') (events : List Event) :
    Loan w { w₁ with directory := d, journal := w₁.journal ++ events } new'
      (released ++ Journal.released events) := by
  obtain ⟨added, grown, counted⟩ := loan.journal
  refine ⟨tenure, added ++ events, ?_, ?_⟩
  · rw [← List.append_assoc, ← grown]
  · rw [Journal.released_append, counted]

/-- An operation that opens something adds its handle to the loan, or nothing. -/
theorem Loan.perform (loan : Loan w w₁ new released) {kind : Handle.Kind}
    {operation : Memory → Step Memory HandleId}
    (lends : Memory.Lends kind w₁.directory (operation w₁.directory)) :
    (∃ h w₂, h.kind = kind ∧ h.isOpen = true ∧ Act.perform operation w₁ =
        (.ok ⟨w.directory.handles.handles.size + new.length⟩, w₂) ∧
      Loan w w₂ (new ++ [h]) released) ∨
    ∃ e w₂, Act.perform operation w₁ = (.error e, w₂) ∧ Loan w w₂ new released := by
  unfold Act.perform
  generalize operation w₁.directory = step at lends ⊢
  cases lends with
  | @issued h call kind isOpen =>
      have added := loan.add (loan.tenure.issue isOpen) [.called call true]
      have named : (w₁.directory.issue h).1 =
          ⟨w.directory.handles.handles.size + new.length⟩ := by
        rw [← loan.tenure.size]
        rfl
      refine Or.inl ⟨h, _, kind, isOpen, ?_, (List.append_nil released) ▸ added⟩
      rw [← named]
      rfl
  | @failed e call =>
      have added := loan.add loan.tenure [.called call false]
      exact Or.inr ⟨e, _, rfl, (List.append_nil released) ▸ added⟩

/-- Closing the last object of a kind at the end of an act takes its handle out of the loan. -/
theorem Loan.closing {act : Act Memory H α} {r : Except Failure α}
    (before after : List (Handle Memory.Ref)) (ran : act w₁ = (r, w₂))
    (loan : Loan w w₂ (before ++ h :: after) released) (tracked : w.directory.Tracked)
    (isOpen : h.isOpen = true) :
    ∃ w₃, Act.closing ⟨w.directory.handles.handles.size + before.length⟩ act w₁ = (r, w₃) ∧
      Loan w w₃ (before ++ h.closed :: after) (released ++ [h.kind]) := by
  obtain ⟨tenure, events⟩ := loan.tenure.close tracked isOpen
  have closed := Memory.close_eq ⟨w.directory.handles.handles.size + before.length⟩ w₂.directory
  have added := loan.add tenure [.released h.kind]
  refine ⟨_, Act.always_of_ok ran (Prod.ext closed.1 rfl), ?_⟩
  change Loan w { w₂ with directory := _, journal := w₂.journal ++ _ } _ _
  rw [show (Directory.close _ w₂.directory).events = _ from events]
  exact added

theorem findRecord_loan (loan : Loan w w₁ new released) (node : HandleId) (username : String) :
    (∃ h w₂, h.kind = .record ∧ h.isOpen = true ∧ findRecord node username w₁ =
        (.ok ⟨w.directory.handles.handles.size + new.length⟩, w₂) ∧
      Loan w w₂ (new ++ [h]) released) ∨
    ∃ e w₂, findRecord node username w₁ = (.error e, w₂) ∧ Loan w w₂ new released := by
  have performed {step : Step Memory (Option HandleId)}
      (same : w₁.directory.copyRecord node Directory.userRecords username = step) :
      Act.perform (Directory.copyRecord node Directory.userRecords username) w₁ =
        (step.outcome,
          { w₁ with directory := step.state, journal := w₁.journal ++ step.events }) := by
    rw [← same]
    rfl
  rcases w₁.directory.copyRecord_cases node Directory.userRecords username with
    ⟨h, kind, isOpen, found⟩ | ⟨outcome, accepted, none, missed⟩
  · have added := loan.add (loan.tenure.issue isOpen)
      [.called (.copyRecord Directory.userRecords username) true]
    have named : (w₁.directory.issue h).1 =
        ⟨w.directory.handles.handles.size + new.length⟩ := by
      rw [← loan.tenure.size]
      rfl
    refine Or.inl ⟨h, _, kind, isOpen, (Act.andThen_of_ok (performed found)).trans ?_,
      (List.append_nil released) ▸ added⟩
    rw [← named]
    rfl
  · have added := loan.add loan.tenure
      [.called (.copyRecord Directory.userRecords username) accepted]
    rw [show Journal.released _ = [] from rfl, List.append_nil] at added
    rcases outcome with e | _ | record
    · exact Or.inr ⟨e, _, Act.andThen_of_error (performed missed), added⟩
    · exact Or.inr ⟨_, _, Act.andThen_of_ok (performed missed), added⟩
    · exact absurd rfl (none record)

theorem serve_loan (loan : Loan w w₁ new released) (c : Changer) (record : HandleId)
    (request : Request) (searched : Location) :
    Loan w (c.serve record request searched w₁).2 new released := by
  have kept := c.serve_keeps (H := H) Memory.serviceFrame.covers record request searched w₁
  obtain ⟨added, grown, others⟩ := kept.journal
  obtain ⟨earlier, before, counted⟩ := loan.journal
  refine ⟨loan.tenure.mono kept.directory.1 kept.directory.2, earlier ++ added, ?_, ?_⟩
  · rw [grown, before, List.append_assoc]
  · rw [Journal.released_append, counted, Journal.released_eq_nil others, List.append_nil]

/-! ## The handles of a run -/

theorem openSession_loan (c : Changer) (request : Request) (w : World Memory Host.Scripted) :
    (∃ h location w₁, h.kind = .session ∧ h.isOpen = true ∧ c.openSession request w =
        (.ok (⟨w.directory.handles.handles.size⟩, location), w₁) ∧ Loan w w₁ [h] []) ∨
    ∃ e w₁, c.openSession request w = (.error e, w₁) ∧ Loan w w₁ [] [] := by
  obtain ⟨events, d, result, way, opened⟩ := c.openSession_opens request w
  rw [opened]
  have start : Loan w w [] [] := ⟨.refl _, [], (List.append_nil _).symm, rfl⟩
  cases way with
  | direct succeeded =>
      have lends := Memory.lends_createSession [] w.directory
      generalize w.directory.createSession [] = step at lends succeeded ⊢
      cases lends with
      | @issued h call kind isOpen =>
          cases succeeded
          exact Or.inl ⟨h, _, _, kind, isOpen, rfl,
            start.add (start.tenure.issue isOpen) [.called (.createSession []) true]⟩
      | failed => cases succeeded
  | refused | multiUser | unstarted | unasked | exited =>
      exact Or.inr ⟨_, _, rfl, start.add start.tenure _⟩
  | @loaded error second _ _ _ _ tried =>
      obtain ⟨handles, openHandles⟩ :=
        Memory.underwent_handles w.host.deeds w.directory
      have lends := Memory.lends_createSession c.localOptions
        (w.directory.underwent w.host.deeds)
      rw [← tried] at lends
      have before : w.directory.Tenure (w.directory.underwent w.host.deeds) [] :=
        start.tenure.mono handles openHandles
      cases lends with
      | @issued h call kind isOpen =>
          have added := start.add (before.issue isOpen)
            (c.loadingEvents ++ [.called (.createSession c.localOptions) true])
          refine Or.inl ⟨h, c.openedLocation request false, _, kind, isOpen, ?_, added⟩
          rw [← handles]
          rfl
      | @failed e call =>
          have added := start.add before
            (c.loadingEvents ++ [.called (.createSession c.localOptions) false])
          exact Or.inr ⟨e, _, rfl, added⟩

theorem openNode_loan (loan : Loan w w₁ new released) (session : HandleId)
    (location : Location) :
    (∃ h w₂, h.kind = .node ∧ h.isOpen = true ∧ openNode session location w₁ =
        (.ok ⟨w.directory.handles.handles.size + new.length⟩, w₂) ∧
      Loan w w₂ (new ++ [h]) released) ∨
    ∃ e w₂, openNode session location w₁ = (.error e, w₂) ∧ Loan w w₂ new released := by
  unfold openNode
  rcases location.name? with _ | name
  · exact loan.perform (Memory.lends_openNodeByType ..)
  · exact loan.perform (Memory.lends_openNodeByName ..)

/-- The handles of a piece of work that came this far are closed again, each of them was released
once, and all others are as they were. -/
structure Returned (stage : Stage) (w w' : World Memory H) : Prop where
  openHandles : w'.directory.openHandles = w.directory.openHandles
  handles : ∃ new, w'.directory.handles.handles.toList =
      w.directory.handles.handles.toList ++ new ∧
    new.map Handle.kind = stage.opened ∧ (∀ h ∈ new, h.isOpen = false) ∧
    (w.since w').released.Perm (new.map Handle.kind)
  released : (w.since w').released = stage.released

theorem Loan.returned (stage : Stage) (loan : Loan w w₁ new stage.released)
    (kinds : new.map Handle.kind = stage.opened) (closed : ∀ h ∈ new, h.isOpen = false) :
    Returned stage w w₁ := by
  obtain ⟨added, grown, counted⟩ := loan.journal
  have released : (w.since w₁).released = stage.released := by
    rw [World.since_of_journal_eq grown, counted]
  refine ⟨?_, ⟨new, loan.tenure.handles, kinds, closed, ?_⟩, released⟩
  · rw [loan.tenure.openHandles, Memory.openIds_of_closed closed, List.append_nil]
  · rw [released, kinds]
    exact stage.released_perm

theorem enter_returned (c : Changer) (request : Request) (location : Location)
    {s n : Handle Memory.Ref} (loan : Loan w w₁ [s, n] [.session])
    (tracked : w.directory.Tracked) (kinds : s.kind = .session ∧ n.kind = .node)
    (sClosed : s.isOpen = false) (nOpen : n.isOpen = true) :
    let node : HandleId := ⟨w.directory.handles.handles.size + 1⟩
    Returned (stageIn node request w₁) w (c.enter request location node w₁).2 := by
  intro node
  rcases findRecord_loan loan node request.username with
    ⟨r, w₂, rKind, rOpen, found, later⟩ | ⟨e, w₂, missed, later⟩
  · let record : HandleId := ⟨w.directory.handles.handles.size + 2⟩
    rcases served : c.serve record request location w₂ with ⟨result, w₃⟩
    have kept := serve_loan later c record request location
    rw [served] at kept
    obtain ⟨w₄, closedRecord, returned⟩ := Loan.closing [s, n] [] served kept tracked rOpen
    have inside : (findRecord node request.username >>= fun record =>
        Act.closing record (c.serve record request location)) w₁ = (result, w₄) :=
      (Act.andThen_of_ok found).trans closedRecord
    obtain ⟨w₅, closedNode, last⟩ := Loan.closing [s] [r.closed] inside returned tracked nOpen
    have stage : stageIn node request w₁ = .record := by
      simp only [stageIn, found]
    rw [stage, show c.enter request location node w₁ = (result, w₅) from closedNode]
    rw [rKind, kinds.2] at last
    refine Loan.returned .record last ?_ ?_
    · simp [Handle.closed, Stage.opened, kinds, rKind]
    · simp [sClosed]
  · have inside : (findRecord node request.username >>= fun record =>
        Act.closing record (c.serve record request location)) w₁ = (.error e, w₂) :=
      Act.andThen_of_error missed
    obtain ⟨w₃, closedNode, last⟩ := Loan.closing [s] [] inside later tracked nOpen
    have stage : stageIn node request w₁ = .node := by
      simp only [stageIn, missed]
    rw [stage, show c.enter request location node w₁ = (.error e, w₃) from closedNode]
    rw [kinds.2] at last
    refine Loan.returned .node last ?_ ?_
    · simp [Handle.closed, Stage.opened, kinds]
    · simp [sClosed]

/-- **A run returns all handles that it was lent.** -/
theorem run_returned (c : Changer) (request : Request) {w : World Memory Host.Scripted}
    (tracked : w.directory.Tracked) :
    Returned (c.stage request w) w (c.run request w).2 := by
  rw [run_eq_proceed, Act.bind_eq_andThen]
  rcases c.openSession_loan request w with
    ⟨s, location, w₁, sKind, sOpen, opened, loan⟩ | ⟨e, w₁, opened, loan⟩
  case inr =>
    have stage : c.stage request w = .outside := by
      simp only [stage, opened]
    rw [Act.andThen_of_error opened, stage]
    exact Loan.returned .outside loan rfl (fun _ => nofun)
  rw [Act.andThen_of_ok opened]
  let session : HandleId := ⟨w.directory.handles.handles.size⟩
  rcases openNode_loan loan session location with
    ⟨n, w₂, nKind, nOpen, entered, later⟩ | ⟨e, w₂, entered, later⟩
  · obtain ⟨w₃, closedSession, returned⟩ :=
      Loan.closing [] [n] entered later tracked sOpen
    have stage : c.stage request w =
        stageIn ⟨w.directory.handles.handles.size + 1⟩ request w₃ := by
      simp only [stage, opened]
      rw [show Act.closing session (openNode session location) w₁ = _ from closedSession]
      rfl
    rw [stage, proceed, Act.bind_eq_andThen,
      Act.andThen_of_ok (show Act.closing session (openNode session location) w₁ = _ from
        closedSession)]
    rw [sKind] at returned
    exact enter_returned c request location returned tracked ⟨sKind, nKind⟩ rfl nOpen
  · obtain ⟨w₃, closedSession, returned⟩ :=
      Loan.closing [] [] entered later tracked sOpen
    have stage : c.stage request w = .session := by
      simp only [stage, opened]
      rw [show Act.closing session (openNode session location) w₁ = _ from closedSession]
    rw [stage, proceed, Act.bind_eq_andThen,
      Act.andThen_of_error (show Act.closing session (openNode session location) w₁ = _ from
        closedSession)]
    rw [sKind] at returned
    exact Loan.returned .session returned (by simp [Handle.closed, Stage.opened, sKind]) (by simp)

/-- Work aside makes no difference to the handles. -/
theorem Returned.around {stage : Stage} {w w₀ w₁ w' : World Memory H}
    (returned : Returned stage w₀ w₁) (before : Aside w w₀) (grows : w₀.journal <+: w₁.journal)
    (after : Aside w₁ w') : Returned stage w w' := by
  have start : w₀.directory = w.directory := before.directory
  have finish : w'.directory = w₁.directory := after.directory
  obtain ⟨_, _, released⟩ := before.since grows after
  refine ⟨?_, ?_, released.trans returned.released⟩
  · rw [finish, returned.openHandles, start]
  · rw [finish, ← start, released]
    exact returned.handles

end Changer

/-! ## The handles of an errand -/

namespace Errand

open Directory (Memory)
open Changer (Stage Returned)

/-- How far the run inside an errand comes. -/
def stage (w : World Memory Host.Scripted) (errand : Errand) : Stage :=
  match errand.inner? w with
  | none => .outside
  | some (c, request, w) => c.stage request w

/-- **Whatever way a call ends, its handles have been released and nothing else has.** -/
theorem handles_returned (errand : Errand) (w : World Memory Host.Scripted)
    (reachable : w.directory.Reachable) :
    Returned (errand.stage w) w (errand.act w).2 := by
  rcases errand.act_cases w with ⟨none, aside, _⟩ | ⟨c, request, w₀, inner, before, after, _⟩
  · have stage : errand.stage w = .outside := by
      simp only [stage, none]
    rw [stage]
    obtain ⟨added, grown, kind⟩ := aside.journal
    have released : (w.since (errand.act w).2).released = [] := by
      rw [World.since_of_journal_eq grown]
      exact Journal.released_of_isAside kind
    refine ⟨congrArg Memory.openHandles aside.directory,
      ⟨[], ?_, rfl, fun _ => nofun, released ▸ .refl _⟩, released⟩
    rw [show (errand.act w).2.directory = w.directory from aside.directory, List.append_nil]
  · have stage : errand.stage w = c.stage request w₀ := by
      simp only [stage, inner]
    have tracked : w₀.directory.Tracked := by
      rw [show w₀.directory = w.directory from before.directory]
      exact reachable.tracked
    rw [stage]
    exact (c.run_returned request tracked).around before
      (c.run_grows Memory.lookupFrame Host.Scripted.emits request w₀) after

/-- A directory in which a session is open. -/
def occupied : Memory :=
  ((Memory.addUser "/Local/Default" "dora" "old" false {}).createSession []).state

def occupiedWorld : World Memory Host.Scripted :=
  { directory := occupied, host := {}, answers := [.text "old", .interrupt] }

def interruptedErrand : Errand :=
  report {} "passwd" { username := some "dora" }

theorem session_stays_open :
    occupied.Reachable ∧ occupiedWorld.directory.openHandles = [⟨0⟩] ∧
      Returned .record occupiedWorld (interruptedErrand.act occupiedWorld).2 := by
  have reachable : occupied.Reachable :=
    .move (.move (.fresh true "/Local/") (.addUser _ _ _ _)) (.createSession [])
  have stage : interruptedErrand.stage occupiedWorld = .record := by
    decide +kernel
  have returned := handles_returned interruptedErrand occupiedWorld reachable
  rw [stage] at returned
  exact ⟨reachable, by decide +kernel, returned⟩

end Errand

end PasswordChange
