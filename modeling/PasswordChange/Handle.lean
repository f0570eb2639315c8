import PasswordChange.Failure
import PasswordChange.Value

/-!
# Handles

A `Handle` stands for a directory object and is open as long as it holds a reference to it.
Closing runs a release action on the reference; the handle closes only if the action succeeds,
and closing a closed handle does nothing.

A `Registry` is a list of handles that grows: handles are named by the order in which they
were issued, and every handle keeps its name for good.
-/

namespace PasswordChange

/-- A handle on an object of type `ρ`; a closed one holds no reference. -/
structure Handle (ρ : Type) where
  kind : Handle.Kind
  name : Value
  ref : Option ρ
  deriving DecidableEq, Repr

namespace Handle

variable {ρ σ : Type}

def isOpen (h : Handle ρ) : Bool :=
  h.ref.isSome

/-- The reference behind an open handle. -/
def access (h : Handle ρ) : Except Failure ρ :=
  match h.ref with
  | some r => .ok r
  | none => .error (.handleClosed h.kind)

/-- The displayed form: what the handle stands for, its name, and whether it is open. -/
def quoted (h : Handle ρ) : String :=
  "<" ++ h.kind.title ++ " " ++ h.name.quoted ++ " "
    ++ (if h.isOpen then "open" else "closed") ++ ">"

/-- Closes an open handle by a release action, which may change a state of its own and may fail;
then the handle stays open. -/
def close (release : ρ → σ → Except Failure Unit × σ) (h : Handle ρ) (s : σ) :
    Except Failure Unit × Handle ρ × σ :=
  match h.ref with
  | none => (.ok (), h, s)
  | some r =>
    match release r s with
    | (.ok _, s) => (.ok (), { h with ref := none }, s)
    | (.error e, s) => (.error e, h, s)

end Handle

/-! ## Registries -/

/-- Names a handle of a registry. -/
structure HandleId where
  index : Nat
  deriving DecidableEq, Repr, Inhabited

/-- All handles ever issued, in order. -/
structure Registry (ρ : Type) where
  handles : Array (Handle ρ) := #[]

namespace Registry

variable {ρ σ : Type}

def get? (r : Registry ρ) (i : HandleId) : Option (Handle ρ) :=
  r.handles[i.index]?

/-- A registry with one more handle. -/
def issue (h : Handle ρ) (r : Registry ρ) : HandleId × Registry ρ :=
  (⟨r.handles.size⟩, ⟨r.handles.push h⟩)

theorem get?_issue (h : Handle ρ) (r : Registry ρ) (i : HandleId) :
    (r.issue h).2.get? i = if i = (r.issue h).1 then some h else r.get? i := by
  obtain ⟨i⟩ := i
  simp only [issue, get?, Array.getElem?_push]
  by_cases e : i = r.handles.size <;> simp [e]

/-- The reference behind a handle, refused if the handle is closed or was never issued. -/
def access (r : Registry ρ) (i : HandleId) : Except Failure ρ :=
  match r.get? i with
  | some h => h.access
  | none => .error (.handleClosed .plain)

def quoted (r : Registry ρ) (i : HandleId) : String :=
  match r.get? i with
  | some h => h.quoted
  | none => Value.null.quoted

/-- Closes a handle and leaves all others as they are. -/
def close (release : ρ → σ → Except Failure Unit × σ) (i : HandleId) (r : Registry ρ) (s : σ) :
    Except Failure Unit × Registry ρ × σ :=
  match r.get? i with
  | none => (.ok (), r, s)
  | some h =>
    let (result, h, s) := h.close release s
    (result, ⟨r.handles.setIfInBounds i.index h⟩, s)

theorem get?_close_of_ne (release : ρ → σ → Except Failure Unit × σ) {i j : HandleId}
    (ne : i ≠ j) (r : Registry ρ) (s : σ) : (r.close release i s).2.1.get? j = r.get? j := by
  unfold close
  split
  · rfl
  · have : i.index ≠ j.index := fun e => ne (by cases i; cases j; simp_all)
    simp [get?, this]

end Registry

end PasswordChange
