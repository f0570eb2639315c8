import PasswordChange.Proofs.Custody
import PasswordChange.Proofs.Scoped
import PasswordChange.Value

/-!
# Wiping secrets that share a buffer

Several secrets may use one buffer, so that wiping one of them has to be told apart from what
becomes of the others.

* `Vault.discipline` is the use of a vault: buffers and secrets are made, bytes are set, secrets are
  read, compared, wiped and used in scopes.
* `Vault.Erased` says all that a wipe does: to the wiped secret, to those that share its buffer,
  and to all other buffers.
* `buffer?_make` and `bytes_make` are the two laws of a single move: a secret changes its buffer
  only by being wiped, and a buffer changes its bytes only by a byte that is set or by a wipe.
* `buffer?_replay_of_none` says that a secret without a buffer never gets one again.
* `wiping_under_sharing` has these laws for every script.
-/

namespace PasswordChange.Vault

variable {v : Vault} {s t : SecretId} {b : BufferId}

/-! ## The use of a vault -/

/-- A part of the use of a vault that may change it. -/
inductive Move where
  | issue (text : String)
  | issueEmpty
  | allocate (content : ByteArray)
  | adopt (b : BufferId)
  | setByte (b : BufferId) (index value : Int)
  | wipe (s : SecretId)

/-- Makes a move. Only setting a byte can fail, and then nothing is changed. -/
def Move.make : Move → Vault → Except Failure Unit × Vault
  | issue text, v => (.ok (), (v.issue text).2)
  | issueEmpty, v => (.ok (), v.issueEmpty.2)
  | allocate content, v => (.ok (), (v.allocate content).2)
  | adopt b, v => (.ok (), (v.adopt b).2)
  | setByte b index value, v =>
    match v.setByte b index value with
    | .ok v => (.ok (), v)
    | .error e => (.error e, v)
  | wipe s, v => (.ok (), v.wipe s)

/-- Something that is done with a vault. -/
inductive Action where
  | move (move : Move)
  | reveal (s : SecretId)
  | agree (s t : SecretId)

/-- Does something with a vault; the value is what it tells. -/
def Action.carryOut : Action → Vault → Except Failure Value × Vault
  | move m, v => ((m.make v).1.map fun _ => .null, (m.make v).2)
  | reveal s, v => ((v.reveal s).map .text, v)
  | agree s t, v => (.ok (.bool (v.agree s t)), v)

/-- The moves that something consists of. -/
def Action.moves : Action → List Move
  | move m => [m]
  | reveal _ | agree _ _ => []

/-- How a vault is used. A scope ends with the secret wiped. -/
def discipline : Discipline Action SecretId Vault Value Move where
  act := Action.carryOut
  scope s work v := v.within s work
  idle := .null
  make move v := (move.make v).2
  moves := Action.moves
  leave := .wipe
  act_eq action v := by cases action <;> rfl
  scope_eq _ _ _ := rfl

/-! ## Zeros -/

/-- Every byte is zero. -/
def Blank (content : ByteArray) : Prop :=
  ∀ byte ∈ content.data, byte = 0

theorem size_zeroed (content : ByteArray) : (zeroed content).size = content.size := by
  exact Array.size_replicate

theorem blank_zeroed (content : ByteArray) : Blank (zeroed content) := by
  intro byte member
  exact (Array.mem_replicate.1 member).2

/-- Bytes that are zero already are not changed by zeros. -/
theorem zeroed_eq_self_iff {content : ByteArray} : zeroed content = content ↔ Blank content := by
  constructor
  · intro same
    rw [← same]
    exact blank_zeroed content
  · intro blank
    apply ByteArray.ext
    exact (Array.eq_replicate_iff.2 ⟨rfl, blank⟩).symm

/-! ## What a wipe does -/

/-- Between the two vaults the secret was wiped, and nothing else happened. -/
structure Erased (s : SecretId) (v v' : Vault) : Prop where
  buffer?_eq_none : v'.buffer? s = none
  isEmpty : v'.isEmpty s = true
  /-- The buffer that the secret used holds as many zeros as it held bytes. -/
  zeroed (b : BufferId) : v.buffer? s = some b →
    (v'.bytes b).size = (v.bytes b).size ∧ Blank (v'.bytes b)
  /-- Every other buffer is as it was. -/
  apart (b : BufferId) : v.buffer? s ≠ some b → v'.bytes b = v.bytes b
  /-- Every other secret goes on using its own buffer. -/
  others (t : SecretId) : t ≠ s → v'.buffer? t = v.buffer? t
  /-- A secret that shares the buffer holds zeros, which is something else than before unless it
  held zeros already. -/
  sharing (t : SecretId) (b : BufferId) : t ≠ s → v.buffer? s = some b → v.buffer? t = some b →
    v'.size t = v.size t ∧ Blank (v'.contents t) ∧
      (v'.contents t = v.contents t ↔ Blank (v.contents t))
  secrets_size : v'.secrets.size = v.secrets.size
  buffers_size : v'.buffers.size = v.buffers.size

theorem contents_of_buffer? (used : v.buffer? s = some b) : v.contents s = v.bytes b := by
  unfold contents
  rw [used]

/-- **A wipe erases the secret.** -/
theorem erased_wipe (s : SecretId) (v : Vault) : v.Erased s (v.wipe s) where
  buffer?_eq_none := by
    rw [buffer?_wipe, if_pos rfl]
  isEmpty := isEmpty_wipe s v
  zeroed b used := by
    rw [bytes_wipe, if_pos used]
    exact ⟨size_zeroed _, blank_zeroed _⟩
  apart b unused := by
    rw [bytes_wipe, if_neg unused]
  others t other := by
    rw [buffer?_wipe, if_neg (Ne.symm other)]
  sharing t b other used shared := by
    have still : (v.wipe s).buffer? t = some b := by
      rw [buffer?_wipe, if_neg (Ne.symm other), shared]
    have after : (v.wipe s).contents t = Vault.zeroed (v.contents t) := by
      rw [contents_of_buffer? still, contents_of_buffer? shared, bytes_wipe, if_pos used]
    unfold size
    rw [after]
    exact ⟨size_zeroed _, blank_zeroed _, zeroed_eq_self_iff⟩
  secrets_size := secrets_size_wipe s v
  buffers_size := buffers_size_wipe s v

/-! ## What a move does -/

/-- A byte that was set is in the given buffer; nothing else is changed. -/
theorem setByte_eq_ok {index value : Int} {v' : Vault} (set : v.setByte b index value = .ok v') :
    v'.secrets = v.secrets ∧ v'.buffers.size = v.buffers.size ∧
      ∀ c, c ≠ b → v'.bytes c = v.bytes c := by
  unfold setByte at set
  split at set
  · cases set
  split at set
  · cases set
  split at set
  · cases set
  cases set
  refine ⟨rfl, Array.size_modify, ?_⟩
  intro c other
  have apart : b.index ≠ c.index := by
    intro same
    apply other
    cases b
    cases c
    exact congrArg BufferId.mk same.symm
  unfold bytes
  rw [Array.getElem?_modify, if_neg apart]

/-- What a move does: it adds secrets and buffers, changes bytes of one buffer, or wipes. -/
theorem Move.make_cases (move : Move) (v : Vault) :
    v.Extends (move.make v).2 ∨
      (∃ b index value, move = .setByte b index value ∧
        (move.make v).2.secrets = v.secrets ∧
        (move.make v).2.buffers.size = v.buffers.size ∧
        ∀ c, c ≠ b → (move.make v).2.bytes c = v.bytes c) ∨
      ∃ s, move = .wipe s ∧ (move.make v).2 = v.wipe s := by
  cases move with
  | issue text => exact .inl (extends_issue text v)
  | issueEmpty => exact .inl (extends_issueEmpty v)
  | allocate content => exact .inl (extends_allocate content v)
  | adopt b => exact .inl (extends_adopt b v)
  | wipe s => exact .inr (.inr ⟨s, rfl, rfl⟩)
  | setByte b index value =>
      cases set : v.setByte b index value with
      | ok v' =>
          have made : ((Move.setByte b index value).make v).2 = v' := by
            simp only [Move.make, set]
          rw [made]
          exact .inr (.inl ⟨b, index, value, rfl, setByte_eq_ok set⟩)
      | error e =>
          have made : ((Move.setByte b index value).make v).2 = v := by
            simp only [Move.make, set]
          rw [made]
          exact .inl (.refl v)

/-- No secret and no buffer is ever lost. -/
theorem sizes_le_make (move : Move) (v : Vault) :
    v.secrets.size ≤ (move.make v).2.secrets.size ∧
      v.buffers.size ≤ (move.make v).2.buffers.size := by
  rcases move.make_cases v with grown | ⟨_, _, _, _, secrets, buffers, _⟩ | ⟨s, _, wiped⟩
  · exact ⟨grown.secrets_le, grown.buffers_le⟩
  · rw [secrets, buffers]
    exact ⟨Nat.le_refl _, Nat.le_refl _⟩
  · rw [wiped, secrets_size_wipe, buffers_size_wipe]
    exact ⟨Nat.le_refl _, Nat.le_refl _⟩

/-- **A secret keeps its buffer until it is wiped.** -/
theorem buffer?_make (move : Move) (present : s.index < v.secrets.size) :
    (move.make v).2.buffer? s = v.buffer? s ∨
      move = .wipe s ∧ (move.make v).2.buffer? s = none := by
  rcases move.make_cases v with grown | ⟨_, _, _, _, secrets, _⟩ | ⟨t, rfl, wiped⟩
  · exact .inl (grown.buffer?_eq s present)
  · refine .inl ?_
    unfold buffer?
    rw [secrets]
  · rw [wiped, buffer?_wipe]
    by_cases same : t = s
    · exact .inr ⟨by rw [same], if_pos same⟩
    · exact .inl (if_neg same)

/-- **A buffer keeps its bytes until one is set in it or a secret that uses it is wiped.** -/
theorem bytes_make (move : Move) (present : b.index < v.buffers.size)
    (changed : (move.make v).2.bytes b ≠ v.bytes b) :
    (∃ index value, move = .setByte b index value) ∨
      ∃ s, move = .wipe s ∧ v.buffer? s = some b := by
  rcases move.make_cases v with grown | ⟨c, index, value, set, _, _, others⟩ | ⟨s, wiping, wiped⟩
  · exact absurd (grown.bytes_eq b present) changed
  · by_cases same : b = c
    · exact .inl ⟨index, value, by rw [set, same]⟩
    · exact absurd (others b same) changed
  · refine .inr ⟨s, wiping, Decidable.byContradiction fun unused => ?_⟩
    rw [wiped] at changed
    exact changed ((erased_wipe s v).apart b unused)

/-- **A secret without a buffer never gets one.** -/
theorem buffer?_replay_of_none (moves : List Move) (present : s.index < v.secrets.size)
    (none : v.buffer? s = none) : (discipline.replay moves v).buffer? s = Option.none := by
  induction moves generalizing v with
  | nil => exact none
  | cons move rest ih =>
      rw [Discipline.replay_cons]
      apply ih
      · exact Nat.lt_of_lt_of_le present (sizes_le_make move v).1
      · rcases buffer?_make move present with kept | ⟨_, gone⟩
        · exact kept.trans none
        · exact gone

/-- A wiped secret is empty after any further moves. -/
theorem isEmpty_replay_wipe (later : List Move) (present : s.index < v.secrets.size) :
    (discipline.replay later (v.wipe s)).isEmpty s = true := by
  have wiped := erased_wipe s v
  apply isEmpty_of_buffer?_eq_none
  apply buffer?_replay_of_none later
  · exact Nat.lt_of_lt_of_le present (Nat.le_of_eq wiped.secrets_size.symm)
  · exact wiped.buffer?_eq_none

/-! ## Every script -/

/-- **Wiping, whatever shares a buffer with what.** Whatever a script does with a vault is in its
history. Wherever a secret is wiped there, it is erased, and stays empty whatever follows. An
existing buffer changes only where a byte is set in it or a secret that uses it is wiped. A scope
ends as its work ends, with the secret wiped. -/
theorem wiping_under_sharing (script : List (Use Action SecretId)) (v : Vault) :
    discipline.run script v = discipline.replay (discipline.history script v) v ∧
      (∀ before s after, discipline.history script v = before ++ .wipe s :: after →
        let u := discipline.replay before v
        let u' := discipline.replay (before ++ [.wipe s]) v
        u.Erased s u' ∧
          (s.index < u.secrets.size → ∀ later, (discipline.replay later u').isEmpty s = true)) ∧
      (∀ before move after, discipline.history script v = before ++ move :: after →
        let u := discipline.replay before v
        let u' := discipline.replay (before ++ [move]) v
        ∀ b : BufferId, b.index < u.buffers.size → u'.bytes b ≠ u.bytes b →
          (∃ index value, move = .setByte b index value) ∨
            ∃ s, move = .wipe s ∧ u.buffer? s = some b) ∧
      ∀ (u : Vault) (s : SecretId) (work : List (Use Action SecretId)),
        let (outcome, u') := discipline.perform work u
        let left := discipline.carryOut (.within s work) u
        left.1 = outcome ∧ u'.Erased s left.2 ∧
          discipline.made (.within s work) u = discipline.performed work u ++ [.wipe s] := by
  refine ⟨discipline.run_eq_replay script v, ?wiped, ?changed, ?scopes⟩
  case wiped =>
    intro before s after _
    rw [discipline.replay_append]
    refine ⟨erased_wipe s _, ?_⟩
    intro present later
    exact isEmpty_replay_wipe later present
  case changed =>
    intro before move after _
    rw [discipline.replay_append]
    intro u u' b present changed
    exact bytes_make move present changed
  case scopes =>
    intro u s work
    exact ⟨rfl, erased_wipe s _, discipline.made_within s work u⟩

/-- A secret and another one that shares its buffer; the scope of the first fails, and then a byte
is set in the buffer. -/
def sharedScope : List (Use Action SecretId) :=
  [.act (.move (.allocate ⟨#[104, 105]⟩)), .act (.move (.adopt ⟨0⟩)), .act (.move (.adopt ⟨0⟩)),
    .within ⟨0⟩ [.act (.agree ⟨0⟩ ⟨1⟩), .fail .body], .act (.move (.setByte ⟨0⟩ 1 65))]

theorem sharedScope_settled :
    (discipline.run sharedScope .empty).isEmpty ⟨0⟩ = true ∧
      ((discipline.run sharedScope .empty).contents ⟨1⟩).data = #[0, 65] := by
  obtain ⟨replayed, wiped, _⟩ := wiping_under_sharing sharedScope .empty
  have split : discipline.history sharedScope .empty =
      [.allocate ⟨#[104, 105]⟩, .adopt ⟨0⟩, .adopt ⟨0⟩] ++ .wipe ⟨0⟩ :: [.setByte ⟨0⟩ 1 65] := rfl
  obtain ⟨_, emptied⟩ := wiped _ _ _ split
  refine ⟨?_, by decide⟩
  rw [replayed, split]
  exact emptied (by decide) [.setByte ⟨0⟩ 1 65]

end PasswordChange.Vault
