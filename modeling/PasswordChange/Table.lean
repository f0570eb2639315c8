/-!
# Tables

A `Table` finds a value by its key, a text, and keeps the order in which the keys were first
added. `Table.get?` is its view: `get?_put` says what adding an entry does to it, and
`keys_put` what it does to the order.
-/

namespace PasswordChange

/-- Entries in the order in which their keys were first added. -/
abbrev Table (α : Type) := List (String × α)

namespace Table

variable {α : Type}

def get? (t : Table α) (key : String) : Option α :=
  match t with
  | [] => none
  | (k, v) :: rest => if k = key then some v else get? rest key

def has (t : Table α) (key : String) : Bool :=
  (t.get? key).isSome

def keys (t : Table α) : List String :=
  t.map Prod.fst

/-- Gives a key a value: in place if it has one, at the end otherwise. -/
def put (t : Table α) (key : String) (value : α) : Table α :=
  match t with
  | [] => [(key, value)]
  | (k, v) :: rest => if k = key then (k, value) :: rest else (k, v) :: put rest key value

@[simp]
theorem get?_nil (key : String) : get? ([] : Table α) key = none := rfl

theorem get?_put (t : Table α) (key other : String) (value : α) :
    (t.put key value).get? other = if key = other then some value else t.get? other := by
  induction t with
  | nil => rfl
  | cons entry rest ih =>
    obtain ⟨k, v⟩ := entry
    by_cases hk : k = key <;> by_cases ho : k = other <;> grind [put, get?]

theorem has_iff_mem_keys (t : Table α) (key : String) : t.has key = true ↔ key ∈ t.keys := by
  induction t with
  | nil => simp [has, keys]
  | cons entry rest ih =>
    obtain ⟨k, v⟩ := entry
    by_cases h : k = key
    · simp [has, get?, keys, h]
    · have : key ≠ k := fun e => h e.symm
      simpa [has, get?, keys, h, this] using ih

/-- A key that is there keeps its place, a new one comes last. -/
theorem keys_put (t : Table α) (key : String) (value : α) :
    (t.put key value).keys = if key ∈ t.keys then t.keys else t.keys ++ [key] := by
  induction t with
  | nil => rfl
  | cons entry rest ih =>
    obtain ⟨k, v⟩ := entry
    by_cases h : k = key
    · simp [put, keys, h]
    · have : key ≠ k := fun e => h e.symm
      simp only [put, h, if_false, keys, List.map_cons, List.mem_cons, this, false_or] at ih ⊢
      by_cases member : key ∈ rest.map Prod.fst <;> simp [ih, member]

end Table

end PasswordChange
