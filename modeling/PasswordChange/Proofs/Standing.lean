import PasswordChange.Proofs.Ledger

/-!
# What a handle stands for, for good

A handle stands for what it was issued for until it is closed, whatever is done to the directory
meanwhile. It is a reference by name: neither a write to the entry of a record nor a change of the
search makes it stand for something else.

* `Memory.get?_carryOut` is the step, `Memory.get?_replay` the run.
* `Memory.Holds.stays` says it of what an open handle stands for.
-/

namespace PasswordChange.Directory.Memory

variable {d : Memory} {i : HandleId} {h : Handle Ref} {kind : Handle.Kind} {ref : Ref}

theorem get?_issue_of_issued (issued : d.handles.get? i = some h) (h' : Handle Ref) :
    (d.issue h').2.handles.get? i = some h := by
  have other : i ≠ (d.handles.issue h').1 := by
    rintro rfl
    simp [Registry.get?, Registry.issue] at issued
  exact (Registry.get?_issue h' d.handles i).trans ((if_neg other).trans issued)

theorem Lends.get?_state {step : Step Memory HandleId} (lends : Lends kind d step)
    (issued : d.handles.get? i = some h) : step.state.handles.get? i = some h := by
  cases lends with
  | @issued h' => exact get?_issue_of_issued issued h'
  | failed => exact issued

/-- Closing a handle that was issued leaves it closed. -/
theorem get?_close_self (issued : d.handles.get? i = some h) :
    (d.close i).state.handles.get? i = some h.closed := by
  cases isOpen : h.isOpen with
  | true => exact (close_of_isOpen issued isOpen).2.2
  | false =>
      have noRef : h.ref = none := by
        simpa [Handle.isOpen] using isOpen
      have shut : d.close i = .ok () d [] := close_of_not_isOpen fun h' found => by
        rw [issued] at found
        cases found
        exact isOpen
      have same : h.closed = h := by
        unfold Handle.closed
        rw [← noRef]
      rw [shut, same]
      exact issued

/-- **An operation leaves a handle that was issued as it is, unless it closes it.** -/
theorem get?_carryOut (issued : d.handles.get? i = some h) (operation : Operation) :
    (operation.carryOut d).state.handles.get? i = some h ∨
      operation = .close i ∧ (operation.carryOut d).state.handles.get? i = some h.closed := by
  have aside (same : (operation.carryOut d).state.handles = d.handles) :
      (operation.carryOut d).state.handles.get? i = some h := by
    rw [same]
    exact issued
  cases operation with
  | addNode | addUser | configure => exact Or.inl issued
  | undergo deed => exact Or.inl (aside (undergo_handles deed d).1)
  | createSession options => exact Or.inl ((lends_createSession options d).get?_state issued)
  | openNodeByName session name =>
      exact Or.inl ((lends_openNodeByName session name d).get?_state issued)
  | openNodeByType session nodeType =>
      exact Or.inl ((lends_openNodeByType session nodeType d).get?_state issued)
  | copyRecord node recordType name =>
      left
      change (d.copyRecord node recordType name).state.handles.get? i = some h
      rcases d.copyRecord_cases node recordType name with
        ⟨h', _, _, found⟩ | ⟨outcome, accepted, _, missed⟩
      · rw [found]
        exact get?_issue_of_issued issued h'
      · rw [missed]
        exact issued
  | copyValues record attributeName =>
      exact Or.inl (aside (congrArg Memory.handles (copyValues_state record attributeName d)))
  | setCredentials v record recordType authType items =>
      exact Or.inl
        (aside (credited_setCredentials v record recordType authType items d).handles.1)
  | changePassword v record old new =>
      exact Or.inl (aside (credited_changePassword v record old new d).handles.1)
  | close j =>
      by_cases same : j = i
      · subst same
        exact Or.inr ⟨rfl, get?_close_self issued⟩
      · exact Or.inl ((get?_close_of_other same d).trans issued)

/-- A handle that was issued is as it was after any operations, or one of them has closed it. -/
theorem get?_replay (issued : d.handles.get? i = some h) (operations : List Operation) :
    (replay operations d).handles.get? i = some h ∨
      .close i ∈ operations ∧ (replay operations d).handles.get? i = some h.closed := by
  induction operations generalizing d h with
  | nil => exact Or.inl issued
  | cons operation rest ih =>
      rcases get?_carryOut issued operation with same | ⟨rfl, shut⟩
      · refine (ih same).imp id fun later => ⟨List.mem_cons_of_mem _ later.1, later.2⟩
      · refine Or.inr ⟨List.mem_cons_self, ?_⟩
        -- Closing a closed handle again makes no difference to it.
        rcases ih shut with same | ⟨_, again⟩
        · exact same
        · exact again

/-- Whatever is behind a handle that can be accessed is what it stands for. -/
theorem holds_of_access (behind : d.handles.access i = .ok ref) : ∃ kind, d.Holds kind i ref := by
  unfold Registry.access at behind
  rcases issued : d.handles.get? i with _ | h <;> rw [issued] at behind
  · cases behind
  · obtain ⟨kind, name, _ | held⟩ := h <;> cases behind
    exact ⟨kind, _, issued, rfl, rfl⟩

theorem holds_of_recordOf {node user : String} (denotes : d.recordOf i = .ok (node, user)) :
    ∃ kind, d.Holds kind i (.record node user) := by
  obtain ⟨ref, behind, isRecord⟩ := Failure.bind_eq_ok_iff.1 denotes
  cases ref <;> cases isRecord
  exact holds_of_access behind

/-- **An open handle stands for the same after any operations, or it is closed.** -/
theorem Holds.stays (holds : d.Holds kind i ref) (operations : List Operation) :
    (replay operations d).Holds kind i ref ∨
      .close i ∈ operations ∧
        (replay operations d).handles.access i = .error (.handleClosed kind) := by
  obtain ⟨h, issued, rfl, isOpen⟩ := holds
  rcases get?_replay issued operations with same | ⟨member, shut⟩
  · exact Or.inl ⟨h, same, rfl, isOpen⟩
  · refine Or.inr ⟨member, ?_⟩
    unfold Registry.access
    rw [shut]
    rfl

end PasswordChange.Directory.Memory
