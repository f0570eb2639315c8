import PasswordChange.Failure

/-!
# Secrets in wipeable buffers

Passwords are kept as UTF-8 bytes in buffers that can be overwritten. A `Vault` holds the
buffers and the secrets; several secrets may share one buffer.

* `Vault.issue` makes a secret from a text, `Vault.adopt` one that shares an existing buffer.
* `Vault.reveal` gives the text back, `Vault.wipe` overwrites the buffer with zeros and takes
  it away from the secret, which is empty from then on.
* `Vault.within` wipes a secret at the end of a piece of work, however the work ends.
-/

namespace PasswordChange

/-- Names a buffer of a vault. -/
structure BufferId where
  index : Nat
  deriving DecidableEq, Repr, Inhabited

/-- Names a secret of a vault. -/
structure SecretId where
  index : Nat
  deriving DecidableEq, Repr, Inhabited

/-- The bytes of every buffer, and for every secret the buffer it uses; an empty secret may use
none. -/
structure Vault where
  buffers : Array ByteArray := #[]
  secrets : Array (Option BufferId) := #[]

namespace Vault

def empty : Vault := {}

/-! ## Reading -/

def bytes (v : Vault) (b : BufferId) : ByteArray :=
  v.buffers[b.index]?.getD ByteArray.empty

/-- The buffer that a secret uses. -/
def buffer? (v : Vault) (s : SecretId) : Option BufferId :=
  v.secrets[s.index]?.join

/-- The bytes of a secret. -/
def contents (v : Vault) (s : SecretId) : ByteArray :=
  match v.buffer? s with
  | some b => v.bytes b
  | none => ByteArray.empty

def size (v : Vault) (s : SecretId) : Nat :=
  (v.contents s).size

def isEmpty (v : Vault) (s : SecretId) : Bool :=
  v.size s == 0

/-- Two secrets hold the same bytes. -/
def agree (v : Vault) (s t : SecretId) : Bool :=
  decide ((v.contents s).data = (v.contents t).data)

/-- The text of a secret, refused if its bytes are not UTF-8. -/
def reveal (v : Vault) (s : SecretId) : Except Failure String :=
  match String.fromUTF8? (v.contents s) with
  | some text => .ok text
  | none => .error .undecodable

/-- The text of a secret that there may be. -/
def reveal? (v : Vault) (s? : Option SecretId) : Except Failure (Option String) :=
  s?.elim (.ok none) fun s => (v.reveal s).map some

/-- Bytes are read as a text exactly if they are the text's bytes. -/
theorem fromUTF8?_eq_some_iff {content : ByteArray} {text : String} :
    String.fromUTF8? content = some text ↔ content = text.toUTF8 := by
  unfold String.fromUTF8?
  constructor
  · intro h
    split at h
    · cases h
      rfl
    · cases h
  · rintro rfl
    have valid : text.toUTF8.IsValidUTF8 := text.isValidUTF8
    rw [dif_pos valid]
    rfl

/-- The text of a secret is the one whose bytes it holds. -/
theorem reveal_eq_ok_iff {v : Vault} {s : SecretId} {text : String} :
    v.reveal s = .ok text ↔ v.contents s = text.toUTF8 := by
  rw [← fromUTF8?_eq_some_iff]
  unfold reveal
  split <;> simp_all

/-- The displayed form tells whether there are any bytes, and nothing else. -/
def quoted (v : Vault) (s : SecretId) : String :=
  if v.isEmpty s then "Secret()" else "Secret(***)"

/-- Secrets cannot be hashed, so that they cannot become keys of a table. -/
def hash (_ : Vault) (_ : SecretId) : Except Failure Int :=
  .error .unhashable

/-! ## Making secrets -/

/-- A new buffer with the given bytes. -/
def allocate (content : ByteArray) (v : Vault) : BufferId × Vault :=
  (⟨v.buffers.size⟩, { v with buffers := v.buffers.push content })

/-- A new secret that uses the given buffer. -/
def adopt (b : BufferId) (v : Vault) : SecretId × Vault :=
  (⟨v.secrets.size⟩, { v with secrets := v.secrets.push (some b) })

/-- A new secret without bytes. -/
def issueEmpty (v : Vault) : SecretId × Vault :=
  (⟨v.secrets.size⟩, { v with secrets := v.secrets.push none })

/-- A new secret with the given text in a buffer of its own. -/
def issue (text : String) (v : Vault) : SecretId × Vault :=
  if text.isEmpty then v.issueEmpty
  else
    let (b, v) := v.allocate text.toUTF8
    v.adopt b

theorem bytes_allocate (content : ByteArray) (v : Vault) :
    (v.allocate content).2.bytes (v.allocate content).1 = content := by
  simp [allocate, bytes]

theorem buffer?_adopt (b : BufferId) (v : Vault) :
    (v.adopt b).2.buffer? (v.adopt b).1 = some b := by
  simp [adopt, buffer?]

/-- A secret made from a text holds the text's bytes. -/
theorem contents_issue (text : String) (v : Vault) :
    (v.issue text).2.contents (v.issue text).1 = text.toUTF8 := by
  by_cases h : text = ""
  · subst h
    simp [issue, issueEmpty, contents, buffer?]
  · simp [issue, h, contents, buffer?_adopt]
    exact bytes_allocate _ v

/-! ## Overwriting -/

/-- As many zeros as there are bytes. -/
def zeroed (content : ByteArray) : ByteArray :=
  ⟨Array.replicate content.size 0⟩

/-- Overwrites the buffer of a secret with zeros and takes it away from the secret. Other
secrets go on using the buffer. -/
def wipe (s : SecretId) (v : Vault) : Vault :=
  match v.buffer? s with
  | none => v
  | some b =>
    { buffers := v.buffers.modify b.index zeroed
      secrets := v.secrets.setIfInBounds s.index none }

/-- The wiped secret uses no buffer; every other secret goes on using its own. -/
theorem buffer?_wipe (s t : SecretId) (v : Vault) :
    (v.wipe s).buffer? t = if s = t then none else v.buffer? t := by
  unfold wipe
  split
  next h => split <;> simp_all
  next b h =>
    obtain ⟨i⟩ := s
    obtain ⟨j⟩ := t
    by_cases e : i = j
    · subst e
      simp [buffer?, Array.getElem?_setIfInBounds]
      split <;> rfl
    · simp [buffer?, e]

/-- The buffer of the wiped secret holds zeros, every other buffer what it held before. -/
theorem bytes_wipe (s : SecretId) (b : BufferId) (v : Vault) :
    (v.wipe s).bytes b = if v.buffer? s = some b then zeroed (v.bytes b) else v.bytes b := by
  unfold wipe
  split
  next h => simp [h]
  next c h =>
    obtain ⟨i⟩ := b
    obtain ⟨j⟩ := c
    by_cases e : j = i
    · subst e
      simp only [h, bytes, Array.getElem?_modify, if_true]
      cases v.buffers[j]? <;> rfl
    · simp [h, bytes, Array.getElem?_modify, e]

theorem isEmpty_wipe (s : SecretId) (v : Vault) : (v.wipe s).isEmpty s = true := by
  simp [isEmpty, size, contents, buffer?_wipe]

/-- The least number that is too large to be a position. -/
def positionBound : Int := 0x8000000000000000

/-- The position that an index stands for in a buffer of `size` bytes; negative indices count
from the end. -/
def position? (size : Nat) (index : Int) : Option Nat :=
  let i := if index < 0 then index + size else index
  if 0 ≤ i ∧ i < size then some i.toNat else none

/-- Overwrites one byte of a buffer. An index too large to be a position at all is refused
before the value is looked at, one outside the buffer after it. -/
def setByte (b : BufferId) (index value : Int) (v : Vault) : Except Failure Vault :=
  if index < -positionBound ∨ positionBound ≤ index then .error (.outOfBounds index)
  else if value < 0 ∨ 255 < value then .error (.notAByte value)
  else match position? (v.bytes b).size index with
    | none => .error (.outOfBounds index)
    | some i =>
      .ok { v with
        buffers := v.buffers.modify b.index fun content =>
          ⟨content.data.setIfInBounds i (UInt8.ofNat value.toNat)⟩ }

/-! ## Scopes -/

/-- Does some work and wipes the secret afterwards, also if the work fails. -/
def within {α : Type} (s : SecretId) (work : Vault → Except Failure α × Vault) (v : Vault) :
    Except Failure α × Vault :=
  let (result, v) := work v
  (result, v.wipe s)

end Vault

end PasswordChange
