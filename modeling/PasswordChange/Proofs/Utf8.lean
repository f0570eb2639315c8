/-!
# Strict UTF-8

Which bytes are a text, said of the bytes alone.

* `Sequence` is the layout of the bytes for one number, whether or not the number is a character and
  needs that many bytes. `Encodes` adds what strictness demands: as few bytes as there can be, no
  surrogate, and no number that is too large.
* `Strict` is a series of such encodings, and `Faulty` lists what can be wrong with bytes.
* `strict_iff` says that exactly the encodings of texts are strict, and `not_strict_iff` that all
  other bytes have one of the faults.
-/

namespace PasswordChange.Utf8

/-! ## The layout of a number -/

/-- A byte that goes on with a number; it carries six bits. -/
def continuation (bits : Nat) : UInt8 :=
  UInt8.ofNat (0x80 + bits % 0x40)

/-- The bytes are laid out for the number. The number may have a shorter layout, and need not be a
character. -/
inductive Sequence : List UInt8 → Nat → Prop where
  | one {n : Nat} (lt : n < 0x80) : Sequence [UInt8.ofNat n] n
  | two {n : Nat} (lt : n < 0x800) :
      Sequence [UInt8.ofNat (0xc0 + n / 0x40), continuation n] n
  | three {n : Nat} (lt : n < 0x10000) :
      Sequence [UInt8.ofNat (0xe0 + n / 0x1000), continuation (n / 0x40), continuation n] n
  | four {n : Nat} (lt : n < 0x200000) :
      Sequence [UInt8.ofNat (0xf0 + n / 0x40000), continuation (n / 0x1000),
        continuation (n / 0x40), continuation n] n

/-- How many bytes begin with the given one. -/
def widthFrom (lead : UInt8) : Nat :=
  if lead.toNat < 0x80 then 1 else if lead.toNat < 0xe0 then 2
  else if lead.toNat < 0xf0 then 3 else 4

/-- The number that bytes are laid out for. -/
def number : List UInt8 → Nat
  | [a] => a.toNat
  | [a, b] => (a.toNat - 0xc0) * 0x40 + (b.toNat - 0x80)
  | [a, b, c] => (a.toNat - 0xe0) * 0x1000 + (b.toNat - 0x80) * 0x40 + (c.toNat - 0x80)
  | [a, b, c, d] =>
    (a.toNat - 0xf0) * 0x40000 + (b.toNat - 0x80) * 0x1000 + (c.toNat - 0x80) * 0x40 +
      (d.toNat - 0x80)
  | _ => 0

theorem toNat_byte {n : Nat} (lt : n < 0x100) : (UInt8.ofNat n).toNat = n :=
  UInt8.toNat_ofNat_of_lt' lt

theorem toNat_continuation (bits : Nat) : (continuation bits).toNat = 0x80 + bits % 0x40 :=
  toNat_byte (by omega)

namespace Sequence

variable {bytes bytes' rest rest' : List UInt8} {n n' : Nat}

/-- The first byte tells how many there are. -/
theorem cons (sequence : Sequence bytes n) :
    ∃ lead tail, bytes = lead :: tail ∧ bytes.length = widthFrom lead := by
  cases sequence with
  | one lt =>
      refine ⟨_, _, rfl, ?_⟩
      rw [widthFrom, toNat_byte (by omega), if_pos lt]
      rfl
  | two lt =>
      refine ⟨_, _, rfl, ?_⟩
      rw [widthFrom, toNat_byte (by omega), if_neg (by omega), if_pos (by omega)]
      rfl
  | three lt =>
      refine ⟨_, _, rfl, ?_⟩
      rw [widthFrom, toNat_byte (by omega), if_neg (by omega), if_neg (by omega), if_pos (by omega)]
      rfl
  | four lt =>
      refine ⟨_, _, rfl, ?_⟩
      rw [widthFrom, toNat_byte (by omega), if_neg (by omega), if_neg (by omega), if_neg (by omega)]
      rfl

theorem number_eq (sequence : Sequence bytes n) : number bytes = n := by
  cases sequence with
  | one lt =>
      unfold number
      dsimp only
      rw [toNat_byte (by omega)]
  | two lt =>
      unfold number
      dsimp only
      rw [toNat_byte (by omega), toNat_continuation]
      omega
  | three lt =>
      unfold number
      dsimp only
      rw [toNat_byte (by omega), toNat_continuation, toNat_continuation]
      omega
  | four lt =>
      unfold number
      dsimp only
      rw [toNat_byte (by omega), toNat_continuation, toNat_continuation, toNat_continuation]
      omega

/-- **Bytes begin with at most one sequence.** -/
theorem unique (first : Sequence bytes n) (second : Sequence bytes' n')
    (same : bytes ++ rest = bytes' ++ rest') : bytes = bytes' ∧ n = n' ∧ rest = rest' := by
  obtain ⟨lead, tail, shape, width⟩ := first.cons
  obtain ⟨lead', tail', shape', width'⟩ := second.cons
  have leads : lead = lead' := by
    rw [shape, shape'] at same
    exact (List.cons.inj same).1
  have lengths : bytes.length = bytes'.length := by rw [width, width', leads]
  obtain ⟨parts, rests⟩ := List.append_inj same lengths
  exact ⟨parts, by rw [← first.number_eq, parts, second.number_eq], rests⟩

end Sequence

/-! ## One character -/

/-- How many bytes a number takes at least. -/
def bytesFor (n : Nat) : Nat :=
  if n < 0x80 then 1 else if n < 0x800 then 2 else if n < 0x10000 then 3 else 4

/-- How many bytes a series of numbers takes at least. -/
def bytesForAll : List Nat → Nat
  | [] => 0
  | n :: numbers => bytesFor n + bytesForAll numbers

/-- The number is in the range that is kept free for pairs of two-byte units. -/
def IsSurrogate (n : Nat) : Prop :=
  0xd800 ≤ n ∧ n < 0xe000

/-- The bytes are the strict encoding of the number. -/
structure Encodes (bytes : List UInt8) (n : Nat) : Prop where
  sequence : Sequence bytes n
  shortest : bytes.length = bytesFor n
  not_surrogate : ¬ IsSurrogate n
  in_range : n ≤ 0x10ffff

/-- The strict encoding of a number that has one. -/
def shortest (n : Nat) : List UInt8 :=
  if n < 0x80 then [UInt8.ofNat n]
  else if n < 0x800 then [UInt8.ofNat (0xc0 + n / 0x40), continuation n]
  else if n < 0x10000 then
    [UInt8.ofNat (0xe0 + n / 0x1000), continuation (n / 0x40), continuation n]
  else
    [UInt8.ofNat (0xf0 + n / 0x40000), continuation (n / 0x1000), continuation (n / 0x40),
      continuation n]

theorem length_shortest (n : Nat) : (shortest n).length = bytesFor n := by
  unfold shortest bytesFor
  split
  · rfl
  split
  · rfl
  split <;> rfl

theorem sequence_shortest {n : Nat} (small : n < 0x200000) : Sequence (shortest n) n := by
  unfold shortest
  split
  · exact .one ‹_›
  split
  · exact .two ‹_›
  split
  · exact .three ‹_›
  · exact .four small

/-- A sequence that is as short as can be is the shortest one. -/
theorem Sequence.eq_shortest {bytes : List UInt8} {n : Nat} (sequence : Sequence bytes n)
    (length : bytes.length = bytesFor n) : bytes = shortest n := by
  unfold bytesFor at length
  unfold shortest
  cases sequence with
  | one lt => rw [if_pos lt]
  | two lt =>
      split at length
      · cases length
      rw [if_neg ‹_›, if_pos lt]
  | three lt =>
      split at length
      · cases length
      split at length
      · cases length
      rw [if_neg ‹_›, if_neg ‹_›, if_pos lt]
  | four lt =>
      split at length
      · cases length
      split at length
      · cases length
      split at length
      · cases length
      rw [if_neg ‹_›, if_neg ‹_›, if_neg ‹_›]

/-- A character is encoded by the shortest bytes for its number. -/
theorem utf8EncodeChar_eq (c : Char) : String.utf8EncodeChar c = shortest c.toNat := by
  have small : c.toNat < 0x110000 := by
    have valid : c.toNat < 0xd800 ∨ 0xdfff < c.toNat ∧ c.toNat < 0x110000 := c.valid
    omega
  have toNat : c.val.toNat = c.toNat := rfl
  unfold String.utf8EncodeChar shortest continuation
  rw [toNat]
  generalize c.toNat = n at small
  dsimp only
  split
  · rw [if_pos (by omega)]
  split
  · have lead : n / 64 % 0x20 + 0xc0 = 0xc0 + n / 0x40 := by omega
    rw [if_neg (by omega), if_pos (by omega), lead, Nat.add_comm (n % 0x40)]
  split
  · have lead : n / 4096 % 0x10 + 0xe0 = 0xe0 + n / 0x1000 := by omega
    rw [if_neg (by omega), if_neg (by omega), if_pos (by omega), lead, Nat.add_comm (n % 0x40),
      Nat.add_comm (n / 64 % 0x40)]
  · have lead : n / 262144 % 0x08 + 0xf0 = 0xf0 + n / 0x40000 := by omega
    rw [if_neg (by omega), if_neg (by omega), if_neg (by omega), lead, Nat.add_comm (n % 0x40),
      Nat.add_comm (n / 64 % 0x40), Nat.add_comm (n / 4096 % 0x40)]

/-- **The bytes of a character are its strict encoding.** -/
theorem encodes_utf8EncodeChar (c : Char) : Encodes (String.utf8EncodeChar c) c.toNat := by
  have valid : c.toNat < 0xd800 ∨ 0xdfff < c.toNat ∧ c.toNat < 0x110000 := c.valid
  rw [utf8EncodeChar_eq]
  refine ⟨sequence_shortest (by omega), length_shortest _, ?_, by omega⟩
  unfold IsSurrogate
  omega

/-- **Every strict encoding is that of a character.** -/
theorem Encodes.exists_char {bytes : List UInt8} {n : Nat} (encodes : Encodes bytes n) :
    ∃ c : Char, c.toNat = n ∧ String.utf8EncodeChar c = bytes := by
  have valid : n.isValidChar := by
    have free := encodes.not_surrogate
    have small := encodes.in_range
    unfold IsSurrogate at free
    unfold Nat.isValidChar
    omega
  have numbered : (Char.ofNatAux n valid).toNat = n := rfl
  refine ⟨Char.ofNatAux n valid, numbered, ?_⟩
  rw [utf8EncodeChar_eq, numbered, encodes.sequence.eq_shortest encodes.shortest]

/-! ## Texts -/

/-- The bytes are the strict encodings of the numbers, one after the other. -/
inductive Strict : List UInt8 → List Nat → Prop where
  | nil : Strict [] []
  | cons {bytes rest : List UInt8} {n : Nat} {numbers : List Nat} (first : Encodes bytes n)
      (others : Strict rest numbers) : Strict (bytes ++ rest) (n :: numbers)

/-- The numbers of the characters of a text. -/
def codePoints (text : String) : List Nat :=
  text.toList.map Char.toNat

theorem toList_toUTF8 (text : String) :
    text.toUTF8.data.toList = text.toList.flatMap String.utf8EncodeChar := by
  rw [String.toUTF8_eq_toByteArray, ← String.utf8Encode_toList, List.utf8Encode,
    List.toList_data_toByteArray]

theorem strict_toUTF8 (text : String) : Strict text.toUTF8.data.toList (codePoints text) := by
  rw [toList_toUTF8, codePoints]
  induction text.toList with
  | nil => exact .nil
  | cons c rest ih => exact .cons (encodes_utf8EncodeChar c) ih

/-- **Strict bytes are the bytes of a text, and the numbers those of its characters.** -/
theorem Strict.exists_text {bytes : List UInt8} {numbers : List Nat} (strict : Strict bytes numbers) :
    ∃ text : String, codePoints text = numbers ∧ text.toUTF8.data.toList = bytes := by
  obtain ⟨chars, numbered, encoded⟩ : ∃ chars : List Char,
      chars.map Char.toNat = numbers ∧ chars.flatMap String.utf8EncodeChar = bytes := by
    induction strict with
    | nil => exact ⟨[], rfl, rfl⟩
    | cons first others ih =>
        obtain ⟨c, number, bytes⟩ := first.exists_char
        obtain ⟨chars, numbers, rest⟩ := ih
        exact ⟨c :: chars, by rw [List.map_cons, number, numbers],
          by rw [List.flatMap_cons, bytes, rest]⟩
  refine ⟨String.ofList chars, ?_, ?_⟩
  · rw [codePoints, String.toList_ofList, numbered]
  · rw [toList_toUTF8, String.toList_ofList, encoded]

/-- No byte is wasted. -/
theorem Strict.length_eq {bytes : List UInt8} {numbers : List Nat} (strict : Strict bytes numbers) :
    bytes.length = bytesForAll numbers := by
  induction strict with
  | nil => rfl
  | cons first _ ih => rw [List.length_append, first.shortest, ih, bytesForAll]

/-- The bytes of a text can be read in one way only. -/
theorem strict_iff {content : ByteArray} {text : String} :
    content = text.toUTF8 ↔ Strict content.data.toList (codePoints text) := by
  constructor
  · rintro rfl
    exact strict_toUTF8 text
  · intro strict
    obtain ⟨read, numbered, encoded⟩ := strict.exists_text
    have same : read = text := by
      apply String.toList_inj.1
      exact (List.map_inj_right fun _ _ => Char.toNat_inj.1).1 numbered
    rw [← same]
    exact ByteArray.ext (Array.toList_inj.1 encoded.symm)

/-! ## Faults -/

/-- What can be wrong with bytes where a character should begin. -/
inductive Fault : List UInt8 → Prop where
  /-- No sequence begins there, or it breaks off. -/
  | malformed {bytes : List UInt8} (some : bytes ≠ [])
      (none : ∀ first n rest, bytes = first ++ rest → ¬ Sequence first n) : Fault bytes
  | overlong {bytes rest : List UInt8} {n : Nat} (sequence : Sequence bytes n)
      (longer : bytesFor n < bytes.length) : Fault (bytes ++ rest)
  | surrogate {bytes rest : List UInt8} {n : Nat} (sequence : Sequence bytes n)
      (surrogate : IsSurrogate n) : Fault (bytes ++ rest)
  | tooLarge {bytes rest : List UInt8} {n : Nat} (sequence : Sequence bytes n)
      (large : 0x10ffff < n) : Fault (bytes ++ rest)

/-- After some characters there is a fault. -/
def Faulty (bytes : List UInt8) : Prop :=
  ∃ good numbers rest, bytes = good ++ rest ∧ Strict good numbers ∧ Fault rest

/-- No sequence is shorter than it can be. -/
theorem Sequence.bytesFor_le {bytes : List UInt8} {n : Nat} (sequence : Sequence bytes n) :
    bytesFor n ≤ bytes.length := by
  cases sequence <;> grind [bytesFor]

/-- A sequence at the beginning of strict bytes is an encoding, and what follows is strict. -/
theorem Strict.of_append {bytes rest : List UInt8} {n : Nat} {numbers : List Nat}
    (strict : Strict (bytes ++ rest) numbers) (sequence : Sequence bytes n) :
    Encodes bytes n ∧ ∃ others, Strict rest others := by
  generalize whole : bytes ++ rest = all at strict
  cases strict with
  | nil =>
      obtain ⟨lead, tail, shape, _⟩ := sequence.cons
      rw [shape] at whole
      cases whole
  | @cons first others m numbers encodes strict =>
      obtain ⟨rfl, rfl, rfl⟩ := sequence.unique encodes.sequence whole
      exact ⟨encodes, numbers, strict⟩

/-- Strict bytes have no fault at their beginning. -/
theorem Fault.not_strict {bytes : List UInt8} (fault : Fault bytes) (numbers : List Nat) :
    ¬ Strict bytes numbers := by
  intro strict
  cases fault with
  | malformed some none =>
      cases strict with
      | nil => exact some rfl
      | cons first others => exact none _ _ _ rfl first.sequence
  | overlong sequence longer =>
      obtain ⟨encodes, _⟩ := strict.of_append sequence
      rw [encodes.shortest] at longer
      exact Nat.lt_irrefl _ longer
  | surrogate sequence surrogate =>
      obtain ⟨encodes, _⟩ := strict.of_append sequence
      exact encodes.not_surrogate surrogate
  | tooLarge sequence large =>
      obtain ⟨encodes, _⟩ := strict.of_append sequence
      exact Nat.not_lt.2 encodes.in_range large

/-- Bytes begin with a character, or with a fault, or there are none. -/
theorem starts (bytes : List UInt8) :
    bytes = [] ∨ Fault bytes ∨ ∃ first n rest, bytes = first ++ rest ∧ Encodes first n := by
  by_cases empty : bytes = []
  · exact .inl empty
  by_cases begun : ∃ first n rest, bytes = first ++ rest ∧ Sequence first n
  · obtain ⟨first, n, rest, rfl, sequence⟩ := begun
    right
    by_cases longer : bytesFor n < first.length
    · exact .inl (.overlong sequence longer)
    by_cases surrogate : IsSurrogate n
    · exact .inl (.surrogate sequence surrogate)
    by_cases large : 0x10ffff < n
    · exact .inl (.tooLarge sequence large)
    have shortest : first.length = bytesFor n :=
      Nat.le_antisymm (Nat.not_lt.1 longer) sequence.bytesFor_le
    exact .inr ⟨first, n, rest, rfl, sequence, shortest, surrogate, Nat.not_lt.1 large⟩
  · refine .inr (.inl (.malformed empty ?_))
    intro first n rest shape sequence
    exact begun ⟨first, n, rest, shape, sequence⟩

theorem strict_or_faulty (bytes : List UInt8) :
    (∃ numbers, Strict bytes numbers) ∨ Faulty bytes := by
  rcases starts bytes with empty | fault | ⟨first, n, rest, shape, encodes⟩
  · exact .inl ⟨[], empty ▸ .nil⟩
  · exact .inr ⟨[], [], bytes, rfl, .nil, fault⟩
  · have shorter : rest.length < bytes.length := by
      obtain ⟨lead, tail, begun, _⟩ := encodes.sequence.cons
      rw [shape, begun, List.length_append, List.length_cons]
      omega
    rw [shape]
    rcases strict_or_faulty rest with ⟨numbers, others⟩ | ⟨good, numbers, bad, rfl, others, fault⟩
    · exact .inl ⟨n :: numbers, .cons encodes others⟩
    · exact .inr ⟨first ++ good, n :: numbers, bad, (List.append_assoc ..).symm,
        .cons encodes others, fault⟩
termination_by bytes.length

/-- **Bytes are not strict exactly if they have a fault.** -/
theorem not_strict_iff {bytes : List UInt8} :
    (¬ ∃ numbers, Strict bytes numbers) ↔ Faulty bytes := by
  constructor
  · intro refused
    exact (strict_or_faulty bytes).resolve_left refused
  · rintro ⟨good, read, rest, rfl, strict, fault⟩ ⟨numbers, whole⟩
    induction strict generalizing numbers with
    | nil => exact fault.not_strict numbers whole
    | cons first others ih =>
        rw [List.append_assoc] at whole
        obtain ⟨_, numbers, rest⟩ := whole.of_append first.sequence
        exact ih numbers rest

end PasswordChange.Utf8
