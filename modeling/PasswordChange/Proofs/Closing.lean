import PasswordChange.Handle.Pool
import PasswordChange.Proofs.Scoped

/-!
# Closing handles whose releasers fail

A handle of a pool is closed by an explicit attempt or at the end of a scope. If its releaser fails,
it stays open and can be closed again later.

* `Pool.discipline` is the use of a pool; its moves are the attempts to close a handle.
* `Pool.visiting` is the work of a visit as a use: `Pool.perform_visiting` ties `Pool.visit` to the
  discipline, and `Pool.carryOut_visiting` ties a visit in a scope to it.
* `Pool.Closes` are the four ways in which an attempt can go.
* `Pool.Attempted` is what a number of attempts makes of an open handle: it stays open for as many
  as its releaser fails, and is closed by the next one. `Attempted.close` and `Attempted.close_of_ne`
  are one attempt more, on this handle and on another one; `Attempted.replay` is any number of them.
* `handles_close_once` has the life of every handle under every script.
-/

namespace PasswordChange.Handle.Pool

variable {ρ : Type} {p : Pool ρ} {i j : HandleId} {h : Handle ρ} {r : ρ}

/-! ## The use of a pool -/

/-- Something that is done with a pool. -/
inductive Action where
  | close (i : HandleId)
  | access (i : HandleId)

/-- Does something with a pool; the value is the reference that is read. -/
def Action.carryOut : Action → Pool ρ → Except Failure (Option ρ) × Pool ρ
  | close i, p => ((p.close i).1.map fun _ => none, (p.close i).2)
  | access i, p => ((p.access i).map some, p)

/-- The handles that something attempts to close. -/
def Action.attempts : Action → List HandleId
  | close i => [i]
  | access _ => []

/-- At the end of a scope its handle is closed; the outcome is that of the work unless this
fails. -/
theorem within_eq {α : Type} (i : HandleId) (work : Pool ρ → Except Failure α × Pool ρ)
    (p : Pool ρ) :
    p.within i work =
      (((work p).2.close i).1.bind fun _ => (work p).1, ((work p).2.close i).2) := by
  unfold within
  dsimp only
  split
  case h_1 closed => rw [closed]; rfl
  case h_2 closed => rw [closed]; rfl

/-- How a pool is used. A scope ends with an attempt to close the handle. -/
def discipline (ρ : Type) : Discipline Action HandleId (Pool ρ) (Option ρ) HandleId where
  act := Action.carryOut
  scope i work p := p.within i work
  idle := none
  make i p := (p.close i).2
  moves := Action.attempts
  leave i := i
  act_eq action p := by cases action <;> rfl
  scope_eq i work p := by rw [within_eq]

/-- The work of a visit: it may close the handle, and then fails or reads the reference. -/
def visiting (i : HandleId) (closing failing : Bool) : List (Use Action HandleId) :=
  (if closing then [.act (.close i)] else []) ++ [if failing then .fail .body else .act (.access i)]

/-- A visit does this work, and tells the reference as well. -/
theorem perform_visiting (i : HandleId) (closing failing : Bool) (p : Pool ρ) :
    (discipline ρ).perform (visiting i closing failing) p =
      ((visit i closing failing p).1.map fun _ => none, (visit i closing failing p).2) := by
  have ending (q : Pool ρ) : (discipline ρ).perform (visiting i false failing) q =
      ((visit i false failing q).1.map fun _ => none, q) := by
    cases failing with
    | true => rfl
    | false =>
        unfold visit
        cases read : q.access i <;>
          simp [visiting, Discipline.perform, Discipline.carryOut, discipline, Action.carryOut, read,
            Except.map]
  cases closing with
  | false => exact (ending p).trans (by cases failing <;> rfl)
  | true =>
      have first : visiting i true failing = .act (.close i) :: visiting i false failing := rfl
      rw [first]
      rcases closed : p.close i with ⟨e | _, q⟩
      · have failed : (discipline ρ).carryOut (.act (.close i)) p = (.error e, q) := by
          simp [Discipline.carryOut, discipline, Action.carryOut, closed, Except.map]
        rw [Discipline.perform_of_error _ failed]
        simp [visit, closed, Except.map]
      · have done : (discipline ρ).carryOut (.act (.close i)) p = (.ok none, q) := by
          simp [Discipline.carryOut, discipline, Action.carryOut, closed, Except.map]
        rw [Discipline.perform_of_ok _ done, ending]
        cases failing <;> simp [visit, closed]

/-- **A visit in a scope is a use**: what the theory says of every script, it says of visits. -/
theorem carryOut_visiting (i : HandleId) (closing failing : Bool) (p : Pool ρ) :
    (discipline ρ).carryOut (.within i (visiting i closing failing)) p =
      ((p.within i (visit i closing failing)).1.map fun _ => none,
        (p.within i (visit i closing failing)).2) := by
  have scope : (discipline ρ).carryOut (.within i (visiting i closing failing)) p =
      p.within i ((discipline ρ).perform (visiting i closing failing)) := rfl
  rw [scope, within_eq, within_eq, perform_visiting]
  cases ((visit i closing failing p).2.close i).1 <;> rfl

/-! ## What closing does -/

/-- The pool with one of its handles closed. -/
def shut (i : HandleId) (h : Handle ρ) (p : Pool ρ) : Pool ρ :=
  { p with registry := ⟨p.registry.handles.setIfInBounds i.index { h with ref := none }⟩ }

/-- A handle that is not open is left alone. -/
theorem close_of_not_isOpen (idle : ∀ h, p.registry.get? i = some h → h.ref = none) :
    p.close i = (.ok (), p) := by
  unfold close Registry.close
  cases got : p.registry.get? i with
  | none => rfl
  | some h =>
      obtain ⟨inside, rfl⟩ := Array.getElem?_eq_some_iff.1 got
      simp only [Handle.close, idle _ got, Array.setIfInBounds, inside, dite_true,
        Array.set_getElem_self]

/-- An open handle is closed if its releaser does not fail, and is left open if it does. -/
theorem close_eq (got : p.registry.get? i = some h) (ref : h.ref = some r) :
    p.close i =
      match release i r (p.failures, p.released) with
      | (.ok _, failures, released) => (.ok (), { p.shut i h with failures, released })
      | (.error e, failures, released) => (.error e, { p with failures, released }) := by
  obtain ⟨inside, rfl⟩ := Array.getElem?_eq_some_iff.1 got
  unfold close Registry.close Handle.close
  rw [got]
  simp only [ref]
  rcases release i r (p.failures, p.released) with ⟨_ | _, _, _⟩
  · simp only [Array.setIfInBounds, inside, dite_true, Array.set_getElem_self]
  · rfl

/-- The four ways in which an attempt to close a handle can go. -/
inductive Closes (i : HandleId) (p : Pool ρ) : Except Failure Unit × Pool ρ → Prop where
  /-- The handle is not open. -/
  | idle (shut : ∀ h, p.registry.get? i = some h → h.ref = none) : Closes i p (.ok (), p)
  /-- The handle has no releaser. -/
  | unreleased {h : Handle ρ} {r : ρ} (got : p.registry.get? i = some h) (ref : h.ref = some r)
      (none : p.failures? i = none) : Closes i p (.ok (), p.shut i h)
  | released {h : Handle ρ} {r : ρ} (got : p.registry.get? i = some h) (ref : h.ref = some r)
      (ready : p.failures? i = some 0) :
      Closes i p (.ok (), { p.shut i h with released := p.released ++ [(i, r)] })
  | failed {h : Handle ρ} {r : ρ} {k : Nat} (got : p.registry.get? i = some h)
      (ref : h.ref = some r) (failing : p.failures? i = some (k + 1)) :
      Closes i p (.error .release, { p with
        failures := p.failures.setIfInBounds i.index (some k)
        released := p.released ++ [(i, r)] })

/-- **Every attempt to close a handle goes one of the four ways.** -/
theorem closes (i : HandleId) (p : Pool ρ) : Closes i p (p.close i) := by
  by_cases shut : ∀ h, p.registry.get? i = some h → h.ref = none
  · rw [close_of_not_isOpen shut]
    exact .idle shut
  · obtain ⟨h, r, got, ref⟩ : ∃ h r, p.registry.get? i = some h ∧ h.ref = some r := by
      simpa [Option.eq_none_iff_forall_ne_some] using shut
    rw [close_eq got ref, release]
    cases failures : p.failures? i with
    | none =>
        unfold failures? at failures
        rw [failures]
        exact .unreleased got ref failures
    | some k =>
        have pending := failures
        unfold failures? at pending
        rw [pending]
        cases k with
        | zero => exact .released got ref failures
        | succ k => exact .failed got ref failures

/-! ## How a handle stands -/

/-- The calls of a handle's releaser, by the references that it was given. -/
def calls (p : Pool ρ) (i : HandleId) : List ρ :=
  p.released.filterMap fun call => if call.1 = i then some call.2 else none

/-- How many attempts an open handle survives. -/
def patience (p : Pool ρ) (i : HandleId) : Nat :=
  (p.failures? i).getD 0

/-- Between the two pools there was a number of attempts to close a handle with the given
reference. -/
structure Attempted (p q : Pool ρ) (i : HandleId) (h : Handle ρ) (r : ρ) (attempts : Nat) :
    Prop where
  handle_eq : q.registry.get? i =
    some (if attempts ≤ p.patience i then h else { h with ref := none })
  failures_eq : q.failures? i = (p.failures? i).map (· - attempts)
  /-- A releaser is called at every attempt up to the first at which it does not fail. -/
  calls_eq : q.calls i = p.calls i ++
    List.replicate ((p.failures? i).elim 0 fun failures => min attempts (failures + 1)) r

theorem attempted_zero (got : p.registry.get? i = some h) : p.Attempted p i h r 0 where
  handle_eq := by rw [got, if_pos (Nat.zero_le _)]
  failures_eq := by cases p.failures? i <;> rfl
  calls_eq := by cases p.failures? i <;> simp

/-! ## One attempt -/

/-- A call is one of the releaser that was called, and of no other. -/
theorem calls_append (j : HandleId) (r : ρ) (p : Pool ρ) (i : HandleId) :
    calls { p with released := p.released ++ [(j, r)] } i =
      p.calls i ++ if j = i then [r] else [] := by
  unfold calls
  rw [List.filterMap_append]
  by_cases same : j = i <;> simp [same]

/-- The failures to come of a releaser are counted anew. -/
theorem failures?_setIfInBounds {n : Nat} (pending : p.failures? i = some n) (k : Nat) :
    (p.failures.setIfInBounds i.index (some k))[i.index]?.join = some k := by
  have inside : i.index < p.failures.size := by
    apply Nat.lt_of_not_le
    intro outside
    unfold failures? at pending
    rw [Array.getElem?_eq_none outside] at pending
    cases pending
  rw [Array.getElem?_setIfInBounds_self_of_lt inside]
  rfl

theorem get?_shut (got : p.registry.get? i = some h) :
    (p.shut i h).registry.get? i = some { h with ref := none } :=
  Array.getElem?_setIfInBounds_self_of_lt (Array.getElem?_eq_some_iff.1 got).1

/-- **An attempt to close another handle changes nothing about this one.** -/
theorem close_of_ne (other : j ≠ i) (p : Pool ρ) :
    (p.close j).2.registry.get? i = p.registry.get? i ∧
      (p.close j).2.failures? i = p.failures? i ∧ (p.close j).2.calls i = p.calls i := by
  refine ⟨Registry.get?_close_of_ne _ other _ _, ?_⟩
  have apart : j.index ≠ i.index := fun same => other (by cases i; cases j; exact congrArg _ same)
  have step := closes j p
  generalize p.close j = out at step ⊢
  cases step with
  | idle => exact ⟨rfl, rfl⟩
  | unreleased => exact ⟨rfl, rfl⟩
  | @released h r got ref ready =>
      refine ⟨rfl, (calls_append j r p i).trans ?_⟩
      rw [if_neg other, List.append_nil]
  | @failed h r k got ref failing =>
      refine ⟨?_, (calls_append j r p i).trans ?_⟩
      · unfold failures?
        rw [Array.getElem?_setIfInBounds_ne apart]
      · rw [if_neg other, List.append_nil]

namespace Attempted

variable {q : Pool ρ} {n : Nat}

/-- The attempts so far were too few if the handle is open. -/
theorem of_isOpen {h' : Handle ρ} {r' : ρ} (before : p.Attempted q i h r n)
    (ref : h.ref = some r) (got : q.registry.get? i = some h') (ref' : h'.ref = some r') :
    n ≤ p.patience i ∧ h' = h ∧ r' = r := by
  have handle := before.handle_eq
  rw [got] at handle
  split at handle
  case isTrue early =>
    cases handle
    rw [ref] at ref'
    cases ref'
    exact ⟨early, rfl, rfl⟩
  case isFalse =>
    cases handle
    cases ref'

/-- The attempts so far were enough if the handle is not open. -/
theorem of_not_isOpen (before : p.Attempted q i h r n) (ref : h.ref = some r)
    (shut : ∀ h, q.registry.get? i = some h → h.ref = none) : p.patience i < n := by
  apply Nat.lt_of_not_le
  intro early
  have handle := before.handle_eq
  rw [if_pos early] at handle
  have closed := shut h handle
  rw [ref] at closed
  cases closed

/-- An attempt to close another handle does not count. -/
theorem close_of_ne (before : p.Attempted q i h r n) (other : j ≠ i) :
    p.Attempted (q.close j).2 i h r n := by
  obtain ⟨handle, failures, calls⟩ := Pool.close_of_ne other q
  exact ⟨handle.trans before.handle_eq, failures.trans before.failures_eq,
    calls.trans before.calls_eq⟩

/-- One attempt more changes nothing once the handle is closed. -/
theorem late (before : p.Attempted q i h r n) (late : p.patience i < n) :
    p.Attempted q i h r (n + 1) := by
  obtain ⟨handle, failures, calls⟩ := before
  have spent (k : Nat) (releaser : p.failures? i = some k) : k < n := by
    rw [patience, releaser, Option.getD_some] at late
    exact late
  refine ⟨by rw [handle, if_neg (by omega), if_neg (by omega)], failures.trans ?_, calls.trans ?_⟩
  · cases releaser : p.failures? i with
    | none => rfl
    | some k =>
        have := spent k releaser
        simp only [Option.map_some, Option.some.injEq]
        omega
  · cases releaser : p.failures? i with
    | none => rfl
    | some k =>
        have := spent k releaser
        simp only [Option.elim_some]
        rw [Nat.min_eq_right (by omega), Nat.min_eq_right (by omega)]

/-- An attempt at which the releaser is called counts as one call more. -/
theorem calls_of_early {k : Nat} (before : p.Attempted q i h r n) (releaser : p.failures? i = some k)
    (early : n ≤ k) :
    calls { q with released := q.released ++ [(i, r)] } i = p.calls i ++
      List.replicate ((p.failures? i).elim 0 fun failures => min (n + 1) (failures + 1)) r := by
  rw [calls_append, before.calls_eq, releaser, if_pos rfl, List.append_assoc]
  simp only [Option.elim_some]
  rw [Nat.min_eq_left (by omega), Nat.min_eq_left (by omega), List.replicate_succ']

/-- **One more attempt.** -/
theorem close (before : p.Attempted q i h r n) (ref : h.ref = some r) :
    p.Attempted (q.close i).2 i h r (n + 1) := by
  have step := closes i q
  generalize q.close i = out at step ⊢
  cases step with
  | idle shut => exact before.late (before.of_not_isOpen ref shut)
  | unreleased got ref' none =>
      obtain ⟨early, rfl, rfl⟩ := before.of_isOpen ref got ref'
      rw [before.failures_eq, Option.map_eq_none_iff] at none
      refine ⟨?_, ?_, ?_⟩
      · rw [get?_shut got, patience, none, if_neg (by simp)]
      · rw [none]
        exact before.failures_eq.trans (by rw [none]; rfl)
      · rw [none]
        exact before.calls_eq.trans (by rw [none]; rfl)
  | released got ref' ready =>
      obtain ⟨early, rfl, rfl⟩ := before.of_isOpen ref got ref'
      rw [before.failures_eq, Option.map_eq_some_iff] at ready
      obtain ⟨k, releaser, spent⟩ := ready
      rw [patience, releaser, Option.getD_some] at early
      refine ⟨?_, ?_, before.calls_of_early releaser early⟩
      · rw [patience, releaser, Option.getD_some, if_neg (by omega)]
        exact get?_shut got
      · refine before.failures_eq.trans ?_
        rw [releaser, Option.map_some, Option.map_some, Option.some.injEq]
        omega
  | failed got ref' failing =>
      obtain ⟨early, rfl, rfl⟩ := before.of_isOpen ref got ref'
      have fewer := failures?_setIfInBounds failing
      rw [before.failures_eq, Option.map_eq_some_iff] at failing
      obtain ⟨k, releaser, spent⟩ := failing
      refine ⟨?_, (fewer _).trans ?_, before.calls_of_early releaser (by omega)⟩
      · rw [patience, releaser, Option.getD_some, if_pos (by omega)]
        exact got
      · rw [releaser, Option.map_some, Option.some.injEq]
        omega

/-- **Any number of attempts, on any handles: those on this one count.** -/
theorem replay (attempts : List HandleId) (before : p.Attempted q i h r n)
    (ref : h.ref = some r) :
    p.Attempted ((discipline ρ).replay attempts q) i h r (n + attempts.count i) := by
  induction attempts generalizing q n with
  | nil => exact before
  | cons j rest ih =>
      rw [Discipline.replay_cons]
      by_cases same : j = i
      · subst same
        rw [List.count_cons_self, Nat.add_comm (rest.count j), ← Nat.add_assoc]
        exact ih (before.close ref)
      · rw [List.count_cons_of_ne same]
        exact ih (before.close_of_ne same)

end Attempted

/-! ## Every script -/

theorem access_of_get? (got : p.registry.get? i = some h) : p.access i = h.access := by
  unfold access Registry.access
  rw [got]

/-- **A handle is closed once, whatever its releaser does.** Whatever a script does to a pool is in
its history of attempts to close a handle. An open handle keeps its reference for as many attempts as
its releaser fails, and is closed for good by the next one; until then every attempt calls the
releaser with this reference, and none does so afterwards. An attempt goes one of four ways, and
changes nothing about other handles. A scope ends as its work ends, unless the releaser fails. -/
theorem handles_close_once (script : List (Use Action HandleId)) (p : Pool ρ) :
    (discipline ρ).run script p = (discipline ρ).replay ((discipline ρ).history script p) p ∧
      (∀ before after i h r, (discipline ρ).history script p = before ++ after →
        p.registry.get? i = some h → h.ref = some r →
        let q := (discipline ρ).replay before p
        let attempts := before.count i
        (attempts ≤ p.patience i → q.access i = .ok r) ∧
          (p.patience i < attempts → ∃ e, q.access i = .error e ∧ e = .handleClosed h.kind ∧
            e.message? = some (h.kind.noun ++ " handle is closed")) ∧
          q.calls i = p.calls i ++
            List.replicate ((p.failures? i).elim 0 fun failures => min attempts (failures + 1)) r) ∧
      (∀ before i after, (discipline ρ).history script p = before ++ i :: after →
        let q := (discipline ρ).replay before p
        let q' := (discipline ρ).replay (before ++ [i]) p
        q' = (q.close i).2 ∧ Closes i q (q.close i) ∧
          ∀ j, i ≠ j → q'.registry.get? j = q.registry.get? j ∧
            q'.failures? j = q.failures? j ∧ q'.calls j = q.calls j) ∧
      (∀ (u : Pool ρ) (i : HandleId), (∀ h, u.registry.get? i = some h → h.ref = none) →
        u.close i = (.ok (), u)) ∧
      ∀ (u : Pool ρ) (i : HandleId) (work : List (Use Action HandleId)),
        let (outcome, u') := (discipline ρ).perform work u
        let left := (discipline ρ).carryOut (.within i work) u
        left.2 = (u'.close i).2 ∧ ((u'.close i).1 = .ok () → left.1 = outcome) ∧
          ∀ e, (u'.close i).1 = .error e → left.1 = .error e := by
  refine ⟨(discipline ρ).run_eq_replay script p, ?life, ?attempt,
    fun _ _ => close_of_not_isOpen, ?scopes⟩
  case life =>
    intro before after i h r _ got ref q attempts
    obtain ⟨handle, _, calls⟩ := (attempted_zero (r := r) got).replay before ref
    rw [Nat.zero_add] at handle calls
    refine ⟨?_, ?_, calls⟩
    · intro early
      rw [if_pos early] at handle
      rw [access_of_get? handle, Handle.access, ref]
    · intro late
      rw [if_neg (Nat.not_le.2 late)] at handle
      refine ⟨.handleClosed h.kind, ?_, rfl, rfl⟩
      rw [access_of_get? handle, Handle.access]
  case attempt =>
    intro before i after _
    rw [(discipline ρ).replay_append]
    exact ⟨rfl, closes i _, fun j other => close_of_ne other _⟩
  case scopes =>
    intro u i work
    have left : (discipline ρ).carryOut (.within i work) u = _ :=
      within_eq i ((discipline ρ).perform work) u
    dsimp only
    rw [left]
    refine ⟨rfl, ?_, ?_⟩
    · intro closed
      rw [closed]
      rfl
    · intro e failed
      rw [failed]
      rfl

/-- One handle, whose releaser fails once. -/
def stubborn : Pool Nat :=
  (({} : Pool Nat).issue .node .null 7 (some 1)).2

theorem stubborn_closed :
    ((discipline Nat).run [.within ⟨0⟩ [.fail .body], .act (.close ⟨0⟩)] stubborn).access ⟨0⟩ =
        .error (.handleClosed .node) ∧
      ((discipline Nat).run [.within ⟨0⟩ [.fail .body], .act (.close ⟨0⟩)] stubborn).calls ⟨0⟩ =
        [7, 7] := by
  obtain ⟨ran, life, _⟩ :=
    handles_close_once [.within ⟨0⟩ [.fail .body], .act (.close ⟨0⟩)] stubborn
  have attempted : (discipline Nat).history [.within ⟨0⟩ [.fail .body], .act (.close ⟨0⟩)] stubborn =
      [⟨0⟩, ⟨0⟩] ++ [] := rfl
  obtain ⟨_, closed, calls⟩ := life _ _ ⟨0⟩ _ 7 attempted rfl rfl
  obtain ⟨_, refused, rfl, _⟩ := closed (by decide)
  rw [ran, attempted]
  exact ⟨refused, calls⟩

end PasswordChange.Handle.Pool
