import PasswordChange.Vault

/-!
# Secrets in custody

A piece of work that makes secrets and wipes them again leaves alone the secrets and the buffers
that were there before. `Vault.Extends` is the relation between the vaults before and after such
work, and `Vault.Fresh` says of a secret that it was made in between, with a buffer of its own.
So a fresh secret can be wiped without touching anything older (`Extends.wipe`), and an older
secret still holds its bytes afterwards (`Extends.contents_eq`).
-/

namespace PasswordChange.Vault

variable {v v₁ v₂ v₃ : Vault} {s t : SecretId}

/-- The second vault still has every secret and every buffer of the first as it was. -/
structure Extends (v v' : Vault) : Prop where
  secrets_le : v.secrets.size ≤ v'.secrets.size
  buffers_le : v.buffers.size ≤ v'.buffers.size
  buffer?_eq (s : SecretId) : s.index < v.secrets.size → v'.buffer? s = v.buffer? s
  bytes_eq (b : BufferId) : b.index < v.buffers.size → v'.bytes b = v.bytes b

/-- The secret is one of the second vault but not of the first, and so is its buffer. -/
structure Fresh (v v' : Vault) (s : SecretId) : Prop where
  le_index : v.secrets.size ≤ s.index
  index_lt : s.index < v'.secrets.size
  buffer_new (b : BufferId) : v'.buffer? s = some b →
    v.buffers.size ≤ b.index ∧ b.index < v'.buffers.size

theorem Extends.refl (v : Vault) : v.Extends v :=
  ⟨Nat.le_refl _, Nat.le_refl _, fun _ _ => rfl, fun _ _ => rfl⟩

theorem Extends.trans (first : v₁.Extends v₂) (second : v₂.Extends v₃) : v₁.Extends v₃ where
  secrets_le := Nat.le_trans first.secrets_le second.secrets_le
  buffers_le := Nat.le_trans first.buffers_le second.buffers_le
  buffer?_eq s present := by
    rw [second.buffer?_eq s (Nat.lt_of_lt_of_le present first.secrets_le),
      first.buffer?_eq s present]
  bytes_eq b present := by
    rw [second.bytes_eq b (Nat.lt_of_lt_of_le present first.buffers_le),
      first.bytes_eq b present]

/-- A secret that was made early is still fresh later on. -/
theorem Fresh.mono (fresh : v₁.Fresh v₂ s) (later : v₂.Extends v₃) : v₁.Fresh v₃ s where
  le_index := fresh.le_index
  index_lt := Nat.lt_of_lt_of_le fresh.index_lt later.secrets_le
  buffer_new b used := by
    rw [later.buffer?_eq s fresh.index_lt] at used
    obtain ⟨lower, upper⟩ := fresh.buffer_new b used
    exact ⟨lower, Nat.lt_of_lt_of_le upper later.buffers_le⟩

/-- A secret that was made late is fresh from the beginning. -/
theorem Fresh.of_extends (early : v₁.Extends v₂) (fresh : v₂.Fresh v₃ s) : v₁.Fresh v₃ s where
  le_index := Nat.le_trans early.secrets_le fresh.le_index
  index_lt := fresh.index_lt
  buffer_new b used := by
    obtain ⟨lower, upper⟩ := fresh.buffer_new b used
    exact ⟨Nat.le_trans early.buffers_le lower, upper⟩

/-- Later work does not change what a secret holds. -/
theorem Extends.contents_eq (fresh : v₁.Fresh v₂ s) (later : v₂.Extends v₃) :
    v₃.contents s = v₂.contents s := by
  unfold contents
  rw [later.buffer?_eq s fresh.index_lt]
  split
  case h_1 b used => exact later.bytes_eq b (fresh.buffer_new b used).2
  case h_2 => rfl

/-! ## Making and wiping -/

/-- The secrets and the buffers after a text was made a secret. -/
theorem issue_eq (text : String) (v : Vault) :
    (v.issue text).1.index = v.secrets.size ∧
      (v.issue text).2.secrets =
        v.secrets.push (if text = "" then none else some ⟨v.buffers.size⟩) ∧
      (v.issue text).2.buffers = if text = "" then v.buffers else v.buffers.push text.toUTF8 := by
  unfold issue
  by_cases blank : text = ""
  · simp [blank, issueEmpty]
  · simp [blank, allocate, adopt]

theorem extends_issueEmpty (v : Vault) : v.Extends v.issueEmpty.2 where
  secrets_le := by
    unfold issueEmpty
    rw [Array.size_push]
    omega
  buffers_le := Nat.le_refl _
  buffer?_eq s present := by
    unfold issueEmpty buffer?
    rw [Array.getElem?_push_lt present, Array.getElem?_eq_getElem present]
  bytes_eq _ _ := rfl

theorem extends_allocate (content : ByteArray) (v : Vault) : v.Extends (v.allocate content).2 where
  secrets_le := Nat.le_refl _
  buffers_le := by
    unfold allocate
    rw [Array.size_push]
    omega
  buffer?_eq _ _ := rfl
  bytes_eq b present := by
    unfold allocate bytes
    rw [Array.getElem?_push_lt present, Array.getElem?_eq_getElem present]

theorem extends_adopt (b : BufferId) (v : Vault) : v.Extends (v.adopt b).2 where
  secrets_le := by
    unfold adopt
    rw [Array.size_push]
    omega
  buffers_le := Nat.le_refl _
  buffer?_eq s present := by
    unfold adopt buffer?
    rw [Array.getElem?_push_lt present, Array.getElem?_eq_getElem present]
  bytes_eq _ _ := rfl

theorem extends_issue (text : String) (v : Vault) : v.Extends (v.issue text).2 := by
  unfold issue
  split
  · exact extends_issueEmpty v
  · exact (extends_allocate text.toUTF8 v).trans (extends_adopt _ _)

theorem fresh_issue (text : String) (v : Vault) : v.Fresh (v.issue text).2 (v.issue text).1 := by
  obtain ⟨index, secrets, buffers⟩ := issue_eq text v
  refine ⟨Nat.le_of_eq index.symm, ?_, ?_⟩
  · rw [index, secrets, Array.size_push]
    omega
  · intro b used
    unfold buffer? at used
    rw [index, secrets, Array.getElem?_push_size] at used
    rw [buffers]
    split at used
    · cases used
    · cases used
      rw [if_neg ‹_›, Array.size_push]
      exact ⟨Nat.le_refl _, Nat.lt_succ_self _⟩

theorem secrets_size_wipe (s : SecretId) (v : Vault) :
    (v.wipe s).secrets.size = v.secrets.size := by
  unfold wipe
  split <;> simp

theorem buffers_size_wipe (s : SecretId) (v : Vault) :
    (v.wipe s).buffers.size = v.buffers.size := by
  unfold wipe
  split <;> simp

/-- A fresh secret is wiped without a trace in what was there before. -/
theorem Extends.wipe (before : v₁.Extends v₂) (fresh : v₁.Fresh v₂ s) :
    v₁.Extends (v₂.wipe s) := by
  refine ⟨?_, ?_, ?_, ?_⟩
  · rw [secrets_size_wipe]
    exact before.secrets_le
  · rw [buffers_size_wipe]
    exact before.buffers_le
  · intro t present
    have other : s ≠ t := by
      rintro rfl
      exact absurd present (Nat.not_lt.2 fresh.le_index)
    rw [buffer?_wipe, if_neg other, before.buffer?_eq t present]
  · intro b present
    have other : v₂.buffer? s ≠ some b := fun used =>
      absurd present (Nat.not_lt.2 (fresh.buffer_new b used).1)
    rw [bytes_wipe, if_neg other, before.bytes_eq b present]

theorem isEmpty_of_buffer?_eq_none (none : v.buffer? s = none) : v.isEmpty s = true := by
  simp [isEmpty, size, contents, none]

theorem reveal_of_contents_eq {text : String} (held : v.contents s = text.toUTF8) :
    v.reveal s = .ok text :=
  reveal_eq_ok_iff.2 held

/-- Two secrets agree exactly if they hold the same text. -/
theorem agree_iff {text other : String} (first : v.contents s = text.toUTF8)
    (second : v.contents t = other.toUTF8) : v.agree s t = true ↔ text = other := by
  unfold agree
  rw [decide_eq_true_iff, ← ByteArray.ext_iff, first, second]
  constructor
  · intro same
    have read : String.fromUTF8? text.toUTF8 = some text := fromUTF8?_eq_some_iff.2 rfl
    rw [same, fromUTF8?_eq_some_iff.2 rfl] at read
    exact (Option.some.inj read).symm
  · rintro rfl
    rfl

/-- Only the empty text makes an empty secret. -/
theorem isEmpty_iff {text : String} (held : v.contents s = text.toUTF8) :
    v.isEmpty s = true ↔ text = "" := by
  have sized : v.size s = text.utf8ByteSize := by
    unfold size
    rw [held]
    rfl
  unfold isEmpty
  rw [sized, beq_iff_eq, String.utf8ByteSize_eq_zero_iff]

/-- An older secret is wiped without a trace in what a newer one holds. -/
theorem contents_wipe_of_fresh (older : v₁.Fresh v₂ s) (kept : v₂.Extends v₃)
    (newer : v₂.Fresh v₃ t) : (v₃.wipe s).contents t = v₃.contents t := by
  have different : s ≠ t := by
    rintro rfl
    exact absurd older.index_lt (Nat.not_lt.2 newer.le_index)
  unfold contents
  rw [buffer?_wipe, if_neg different]
  split
  case h_1 b used =>
    have apart : v₃.buffer? s ≠ some b := by
      intro shared
      rw [kept.buffer?_eq s older.index_lt] at shared
      exact absurd (older.buffer_new b shared).2 (Nat.not_lt.2 (newer.buffer_new b used).1)
    rw [bytes_wipe, if_neg apart]
  case h_2 => rfl

/-! ## Keeping track of what was made -/

/-- Between the two vaults the secrets `issued` were made, and all of them but those `held` have
been wiped again. -/
structure Custody (v v' : Vault) (issued held : List SecretId) : Prop where
  kept : v.Extends v'
  fresh (s : SecretId) : s ∈ issued → v.Fresh v' s
  wiped (s : SecretId) : s ∈ issued → s ∈ held ∨ v'.buffer? s = none

variable {issued issued' held held' : List SecretId}

theorem Custody.refl (v : Vault) : v.Custody v [] [] :=
  ⟨.refl v, by simp, by simp⟩

theorem Custody.trans (first : v₁.Custody v₂ issued held) (second : v₂.Custody v₃ issued' held') :
    v₁.Custody v₃ (issued ++ issued') (held ++ held') where
  kept := first.kept.trans second.kept
  fresh s member := by
    rcases List.mem_append.1 member with early | late
    · exact (first.fresh s early).mono second.kept
    · exact (second.fresh s late).of_extends first.kept
  wiped s member := by
    rcases List.mem_append.1 member with early | late
    · rcases first.wiped s early with inside | gone
      · exact Or.inl (List.mem_append_left _ inside)
      · rw [second.kept.buffer?_eq s (first.fresh s early).index_lt]
        exact Or.inr gone
    · rcases second.wiped s late with inside | gone
      · exact Or.inl (List.mem_append_right _ inside)
      · exact Or.inr gone

theorem Custody.issue (text : String) (v : Vault) :
    v.Custody (v.issue text).2 [(v.issue text).1] [(v.issue text).1] where
  kept := extends_issue text v
  fresh s member := by
    rw [List.mem_singleton.1 member]
    exact fresh_issue text v
  wiped s member := Or.inl member

theorem Fresh.wipe (fresh : v₁.Fresh v₂ s) (t : SecretId) : v₁.Fresh (v₂.wipe t) s where
  le_index := fresh.le_index
  index_lt := by
    rw [secrets_size_wipe]
    exact fresh.index_lt
  buffer_new b used := by
    rw [buffer?_wipe] at used
    rw [buffers_size_wipe]
    split at used
    · cases used
    · exact fresh.buffer_new b used

/-- Wiping takes a secret out of those held. -/
theorem Custody.wipe (custody : v₁.Custody v₂ issued held) (made : s ∈ issued)
    (others : ∀ t ∈ held, t = s ∨ t ∈ held') : v₁.Custody (v₂.wipe s) issued held' where
  kept := custody.kept.wipe (custody.fresh s made)
  fresh t member := (custody.fresh t member).wipe s
  wiped t member := by
    rw [buffer?_wipe]
    by_cases same : s = t
    · exact Or.inr (if_pos same)
    · rw [if_neg same]
      rcases custody.wiped t member with inside | gone
      · rcases others t inside with rfl | left
        · exact absurd rfl same
        · exact Or.inl left
      · exact Or.inr gone

/-- A secret that was just made is wiped without leaving anything behind. -/
theorem Custody.wiped_again (custody : v₁.Custody v₂ issued [s]) (made : s ∈ issued := by simp) :
    v₁.Custody (v₂.wipe s) issued [] :=
  custody.wipe made fun _ member => Or.inl (List.mem_singleton.1 member)

end PasswordChange.Vault
