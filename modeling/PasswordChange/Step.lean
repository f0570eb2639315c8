import PasswordChange.Journal

/-!
# Steps

A directory and a host are state machines: an operation takes the state and gives a `Step`,
which tells how the operation ended, the state afterwards, and what was seen of it. A failing
operation has a state afterwards as well.
-/

namespace PasswordChange

/-- How an operation on a `σ` ended. -/
structure Step (σ α : Type) where
  outcome : Except Failure α
  state : σ
  events : List Event := []

namespace Step

variable {σ α : Type}

def ok (a : α) (s : σ) (events : List Event) : Step σ α :=
  ⟨.ok a, s, events⟩

def fail (e : Failure) (s : σ) (events : List Event) : Step σ α :=
  ⟨.error e, s, events⟩

end Step

end PasswordChange
