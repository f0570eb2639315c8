import PasswordChange.Handle

/-!
# Handles with releasers of their own

In a `Pool` every handle may have a releaser, which fails a given number of times before it
succeeds. The pool remembers every call of a releaser, so that one can see what closing did.

* `Pool.close` and `Pool.access` act on one handle.
* `Pool.within` closes a handle at the end of a piece of work; a failing releaser there hides
  how the work ended.
-/

namespace PasswordChange.Handle

variable {ρ : Type}

/-- Handles, the failures each releaser has still to come (none for a handle without a
releaser), and the releaser calls made so far. -/
structure Pool (ρ : Type) where
  registry : Registry ρ := {}
  failures : Array (Option Nat) := #[]
  released : List (HandleId × ρ) := []

namespace Pool

/-- The failures that the releaser of a handle has still to come. -/
def failures? (p : Pool ρ) (i : HandleId) : Option Nat :=
  p.failures[i.index]?.join

/-- A pool with one more open handle. -/
def issue (kind : Kind) (name : Value) (ref : ρ) (failures : Option Nat) (p : Pool ρ) :
    HandleId × Pool ρ :=
  let (i, registry) := p.registry.issue { kind, name, ref := some ref }
  (i, { p with registry, failures := p.failures.push failures })

/-- What the releasers of a pool keep between their calls. -/
abbrev Ledger (ρ : Type) := Array (Option Nat) × List (HandleId × ρ)

/-- Calls the releaser of a handle: it notes the call, and fails while it has failures to come. -/
def release (i : HandleId) (ref : ρ) (ledger : Ledger ρ) : Except Failure Unit × Ledger ρ :=
  match ledger.1[i.index]?.join with
  | none => (.ok (), ledger)
  | some 0 => (.ok (), ledger.1, ledger.2 ++ [(i, ref)])
  | some (n + 1) =>
    (.error .release, ledger.1.setIfInBounds i.index (some n), ledger.2 ++ [(i, ref)])

/-- Closes a handle. -/
def close (i : HandleId) (p : Pool ρ) : Except Failure Unit × Pool ρ :=
  let (result, registry, failures, released) :=
    p.registry.close (release i) i (p.failures, p.released)
  (result, { registry, failures, released })

/-- The reference behind an open handle. -/
def access (p : Pool ρ) (i : HandleId) : Except Failure ρ :=
  p.registry.access i

/-- Does some work and closes the handle afterwards. A failure to close replaces the result of
the work. -/
def within {α : Type} (i : HandleId) (work : Pool ρ → Except Failure α × Pool ρ) (p : Pool ρ) :
    Except Failure α × Pool ρ :=
  let (result, p) := work p
  match p.close i with
  | (.ok _, p) => (result, p)
  | (.error e, p) => (.error e, p)

/-- The work inside a scope: it may close the handle, may fail for a reason of its own, and
else reads the reference. -/
def visit (i : HandleId) (closing failing : Bool) (p : Pool ρ) : Except Failure ρ × Pool ρ :=
  let (closed, p) := if closing then p.close i else (.ok (), p)
  match closed with
  | .error e => (.error e, p)
  | .ok _ => if failing then (.error .body, p) else (p.access i, p)

end Pool

end PasswordChange.Handle
