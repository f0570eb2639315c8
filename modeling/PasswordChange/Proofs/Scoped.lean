import PasswordChange.Failure

/-!
# Work in scopes

Secrets and handles are used in scopes, at whose end a secret is wiped and a handle is closed.
Scopes may lie inside each other, and the work in a scope may end early.

* `Use` is anything that is done, in scopes or outside. `Discipline` says what the actions and the
  scopes of some resource are, and of which moves they consist.
* `Discipline.carryOut` carries out a use, and `Discipline.perform` the work in a scope, which ends
  with the first failure (`perform_of_ok`, `perform_of_error`). A script at the top goes on after
  failures.
* `Discipline.moves` and `Discipline.history` are the moves that are made. `run_eq_replay` says that
  they account for every change.
-/

namespace PasswordChange

/-- A use of a resource: an action, a failure that has nothing to do with the resource, or a scope
around some work. -/
inductive Use (α ι : Type) where
  | act (action : α)
  | fail (cause : Failure)
  | within (scope : ι) (work : List (Use α ι))

/-- The actions and the scopes of a resource. Whatever they change, they change by moves; to leave a
scope is one move. -/
structure Discipline (α ι σ β μ : Type) where
  act : α → σ → Except Failure β × σ
  scope : ι → (σ → Except Failure β × σ) → σ → Except Failure β × σ
  /-- The value of no work at all. -/
  idle : β
  make : μ → σ → σ
  moves : α → List μ
  leave : ι → μ
  act_eq (action : α) (s : σ) :
    (act action s).2 = (moves action).foldl (fun s move => make move s) s
  scope_eq (i : ι) (work : σ → Except Failure β × σ) (s : σ) :
    (scope i work s).2 = make (leave i) (work s).2

namespace Discipline

variable {α ι σ β μ : Type} (d : Discipline α ι σ β μ)

/-! ## Moves -/

/-- The state after one move after the other. -/
def replay (moves : List μ) (s : σ) : σ :=
  moves.foldl (fun s move => d.make move s) s

theorem replay_cons (move : μ) (rest : List μ) (s : σ) :
    d.replay (move :: rest) s = d.replay rest (d.make move s) := rfl

theorem replay_append (moves more : List μ) (s : σ) :
    d.replay (moves ++ more) s = d.replay more (d.replay moves s) :=
  List.foldl_append

/-! ## Uses -/

mutual

/-- Carries out a use. -/
def carryOut : Use α ι → σ → Except Failure β × σ
  | .act action, s => d.act action s
  | .fail cause, s => (.error cause, s)
  | .within i work, s => d.scope i (perform work) s

/-- Carries out the work in a scope, up to the first failure. -/
def perform : List (Use α ι) → σ → Except Failure β × σ
  | [], s => (.ok d.idle, s)
  | use :: rest, s =>
    match carryOut use s with
    | (.ok _, s) => perform rest s
    | (.error e, s) => (.error e, s)

end

theorem perform_of_ok {use : Use α ι} {s s' : σ} {value : β}
    (done : d.carryOut use s = (.ok value, s')) (rest : List (Use α ι)) :
    d.perform (use :: rest) s = d.perform rest s' := by
  rw [perform, done]

theorem perform_of_error {use : Use α ι} {s s' : σ} {e : Failure}
    (failed : d.carryOut use s = (.error e, s')) (rest : List (Use α ι)) :
    d.perform (use :: rest) s = (.error e, s') := by
  rw [perform, failed]

mutual

/-- The moves that a use makes. -/
def made : Use α ι → σ → List μ
  | .act action, _ => d.moves action
  | .fail _, _ => []
  | .within i work, s => performed work s ++ [d.leave i]

/-- The moves that are made in a scope. -/
def performed : List (Use α ι) → σ → List μ
  | [], _ => []
  | use :: rest, s =>
    match d.carryOut use s with
    | (.ok _, s') => made use s ++ performed rest s'
    | (.error _, _) => made use s

end

theorem made_within (i : ι) (work : List (Use α ι)) (s : σ) :
    d.made (.within i work) s = d.performed work s ++ [d.leave i] := by
  rw [made]

mutual

/-- **A use changes nothing but by the moves that it makes.** -/
theorem carryOut_eq_replay (use : Use α ι) (s : σ) :
    (d.carryOut use s).2 = d.replay (d.made use s) s := by
  cases use with
  | act action => exact d.act_eq action s
  | fail cause => rfl
  | within i work =>
      rw [made_within, replay_append, ← perform_eq_replay work s]
      exact d.scope_eq i (d.perform work) s

theorem perform_eq_replay (work : List (Use α ι)) (s : σ) :
    (d.perform work s).2 = d.replay (d.performed work s) s := by
  cases work with
  | nil => rfl
  | cons use rest =>
      have first := carryOut_eq_replay use s
      unfold perform performed
      split
      case h_1 s' carried =>
        rw [carried] at first
        rw [replay_append, ← first]
        exact perform_eq_replay rest s'
      case h_2 s' carried =>
        rw [carried] at first
        exact first

end

/-! ## Scripts -/

/-- The state after one use after the other, whether or not they fail. -/
def run (script : List (Use α ι)) (s : σ) : σ :=
  script.foldl (fun s use => (d.carryOut use s).2) s

/-- The moves that a script makes. -/
def history : List (Use α ι) → σ → List μ
  | [], _ => []
  | use :: rest, s => d.made use s ++ history rest (d.carryOut use s).2

/-- **Every change that a script makes is in its history.** -/
theorem run_eq_replay (script : List (Use α ι)) (s : σ) :
    d.run script s = d.replay (d.history script s) s := by
  induction script generalizing s with
  | nil => rfl
  | cons use rest ih =>
      rw [history, replay_append, ← d.carryOut_eq_replay use s]
      exact ih (d.carryOut use s).2

end Discipline

end PasswordChange
