import PasswordChange.Value

/-!
# Locations

A `Location` says where in the directory to look. It may be left open, asked for without a name,
or named; `Location.name?` is the node to open, which only the last of these has.
-/

namespace PasswordChange

/-- Where to look: nothing was said, a location was asked for but not named, or one was named. -/
inductive Location where
  | unspecified
  | unnamed
  | named (name : String)
  deriving DecidableEq, Repr, Inhabited

namespace Location

def ofText? : Option String → Location
  | none => unspecified
  | some name => named name

/-- The node to open, if there is one; an empty name names none. -/
def name? : Location → Option String
  | unspecified | unnamed => none
  | named name => if name.isEmpty then none else some name

/-- The location as a value: a location without a name is an empty list. -/
def toValue : Location → Value
  | unspecified => .null
  | unnamed => .list []
  | named name => .text name

/-- The location inside a line. -/
def shown (l : Location) : String :=
  l.toValue.shown

def quoted (l : Location) : String :=
  l.toValue.quoted

/-- An optional name is the same value before and after it is taken for a location. -/
@[simp] theorem toValue_ofText? (s : Option String) : (ofText? s).toValue = Value.ofText? s := by
  cases s <;> rfl

/-- There is a node to open exactly if the location's value says something. -/
theorem isSome_name? (l : Location) : l.name?.isSome = l.toValue.isSet := by
  cases l with
  | unspecified => rfl
  | unnamed => rfl
  | named name => by_cases h : name.isEmpty <;> simp [name?, toValue, Value.isSet, h]

/-- Only a named location has a node to open, and its name is that node. -/
theorem name?_eq_some_iff {l : Location} {name : String} :
    l.name? = some name ↔ l = named name ∧ name ≠ "" := by
  cases l with
  | unspecified => simp [name?]
  | unnamed => simp [name?]
  | named other => grind [name?, String.isEmpty_iff]

end Location

end PasswordChange
