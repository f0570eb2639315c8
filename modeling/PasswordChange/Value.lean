import PasswordChange.Text.Quoted

/-!
# Loosely typed values

Session options and the answers of a native framework carry values whose kind is not known
in advance. `Value` is such a value; `Value.quoted` is its form in a log line and
`Value.shown` its form where a text is wanted.
-/

namespace PasswordChange

/-- A value of any kind; the fields of a record keep the order in which they were given. -/
inductive Value where
  | null
  | bool (b : Bool)
  | int (n : Int)
  | text (s : String)
  | list (items : List Value)
  | record (fields : List (String × Value))
  deriving Repr, Inhabited

namespace Value

/-- An optional text as a value. -/
def ofText? : Option String → Value
  | none => null
  | some s => text s

/-- The value says something: it is not null, false, zero, or empty. -/
def isSet : Value → Bool
  | null => false
  | bool b => b
  | int n => n != 0
  | text s => !s.isEmpty
  | list items => !items.isEmpty
  | record fields => !fields.isEmpty

/-- The two truth values as they are displayed. -/
def quotedBool (b : Bool) : String :=
  if b then "True" else "False"

mutual

/-- The written form: texts in quotation marks, lists and records in brackets. -/
def quoted : Value → String
  | null => "None"
  | bool b => quotedBool b
  | int n => toString n
  | text s => Text.quoted s
  | list items => "[" ++ ", ".intercalate (quotedItems items) ++ "]"
  | record fields => "\x7b" ++ ", ".intercalate (quotedFields fields) ++ "\x7d"

def quotedItems : List Value → List String
  | [] => []
  | v :: rest => v.quoted :: quotedItems rest

def quotedFields : List (String × Value) → List String
  | [] => []
  | (k, v) :: rest => (Text.quoted k ++ ": " ++ v.quoted) :: quotedFields rest

end

/-- The value as a text: a text is itself, any other value its written form. -/
def shown : Value → String
  | text s => s
  | v => v.quoted

/-- The value as an optional text; only null has none. -/
def text? : Value → Option String
  | null => none
  | v => some v.shown

/-- An optional text in its written form. -/
def quotedText? (s : Option String) : String :=
  (ofText? s).quoted

/-! ## Equality is decidable -/

mutual

def decEq : (a b : Value) → Decidable (a = b)
  | null, b => match b with
    | null => isTrue rfl
    | bool _ | int _ | text _ | list _ | record _ => isFalse nofun
  | bool x, b => match b with
    | bool y => if h : x = y then isTrue (h ▸ rfl) else isFalse fun e => h (bool.inj e)
    | null | int _ | text _ | list _ | record _ => isFalse nofun
  | int x, b => match b with
    | int y => if h : x = y then isTrue (h ▸ rfl) else isFalse fun e => h (int.inj e)
    | null | bool _ | text _ | list _ | record _ => isFalse nofun
  | text x, b => match b with
    | text y => if h : x = y then isTrue (h ▸ rfl) else isFalse fun e => h (text.inj e)
    | null | bool _ | int _ | list _ | record _ => isFalse nofun
  | list x, b => match b with
    | list y => match decEqItems x y with
      | isTrue h => isTrue (h ▸ rfl)
      | isFalse h => isFalse fun e => h (list.inj e)
    | null | bool _ | int _ | text _ | record _ => isFalse nofun
  | record x, b => match b with
    | record y => match decEqFields x y with
      | isTrue h => isTrue (h ▸ rfl)
      | isFalse h => isFalse fun e => h (record.inj e)
    | null | bool _ | int _ | text _ | list _ => isFalse nofun

def decEqItems : (a b : List Value) → Decidable (a = b)
  | [], [] => isTrue rfl
  | [], _ :: _ => isFalse nofun
  | _ :: _, [] => isFalse nofun
  | x :: xs, y :: ys => match decEq x y with
    | isFalse h => isFalse fun e => h (List.cons.inj e).1
    | isTrue h => match decEqItems xs ys with
      | isFalse h' => isFalse fun e => h' (List.cons.inj e).2
      | isTrue h' => isTrue (h ▸ h' ▸ rfl)

def decEqFields : (a b : List (String × Value)) → Decidable (a = b)
  | [], [] => isTrue rfl
  | [], _ :: _ => isFalse nofun
  | _ :: _, [] => isFalse nofun
  | (k, x) :: xs, (l, y) :: ys =>
    if hk : k = l then
      match decEq x y with
      | isFalse h => isFalse fun e => h (Prod.mk.inj (List.cons.inj e).1).2
      | isTrue h => match decEqFields xs ys with
        | isFalse h' => isFalse fun e => h' (List.cons.inj e).2
        | isTrue h' => isTrue (hk ▸ h ▸ h' ▸ rfl)
    else isFalse fun e => hk (Prod.mk.inj (List.cons.inj e).1).1

end

instance : DecidableEq Value := decEq

end Value

end PasswordChange
