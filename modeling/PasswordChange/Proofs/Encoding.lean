import PasswordChange.Proofs.Change
import PasswordChange.Proofs.Credentials
import PasswordChange.Proofs.Sharing
import PasswordChange.Proofs.Utf8

/-!
# Texts and the bytes of secrets

A secret is made from a text, or uses a buffer with any bytes; it is read, compared and measured by
its bytes.

* `reveal_eq_ok_iff_strict` and `reveal_eq_error_iff` say which secrets have a text, and which.
* `size_of_reveal` is the length of a secret, `agree_of_reveal` the comparison of two.
* `collect_eq_ok` says what the collected passwords are, and `collect_reveals` that both kinds of
  directory get them as they were typed.
* `texts_and_bytes_correspond` puts this together.
-/

namespace PasswordChange

/-! ## Secrets -/

namespace Vault

open Utf8

variable {v : Vault} {s t : SecretId} {text other : String}

/-- The bytes of a secret, in order. -/
def octets (v : Vault) (s : SecretId) : List UInt8 :=
  (v.contents s).data.toList

/-- **A secret has a text exactly if its bytes are the strict encoding of one.** -/
theorem reveal_eq_ok_iff_strict :
    v.reveal s = .ok text ↔ Strict (v.octets s) (codePoints text) :=
  reveal_eq_ok_iff.trans strict_iff

/-- **A secret without a text has a fault in its bytes.** -/
theorem reveal_eq_error_iff :
    v.reveal s = .error .undecodable ↔ Faulty (v.octets s) := by
  rw [← not_strict_iff]
  constructor
  · intro refused readable
    obtain ⟨numbers, strict⟩ := readable
    obtain ⟨text, rfl, _⟩ := strict.exists_text
    rw [reveal_eq_ok_iff_strict.2 strict] at refused
    cases refused
  · intro faulty
    unfold reveal
    split
    case h_1 text read =>
      have encoded := fromUTF8?_eq_some_iff.1 read
      exact absurd ⟨codePoints text, strict_iff.1 encoded⟩ faulty
    case h_2 => rfl

/-- A secret is as long as the encoding of its text. -/
theorem size_of_reveal (read : v.reveal s = .ok text) :
    v.size s = bytesForAll (codePoints text) :=
  (reveal_eq_ok_iff_strict.1 read).length_eq

/-- Two secrets with texts agree exactly if their texts do. -/
theorem agree_of_reveal (read : v.reveal s = .ok text) (read' : v.reveal t = .ok other) :
    v.agree s t = true ↔ text = other :=
  agree_iff (reveal_eq_ok_iff.1 read) (reveal_eq_ok_iff.1 read')

/-- A reading tells the text, if there is one, and changes nothing. -/
theorem carryOut_reveal (s : SecretId) (v : Vault) :
    discipline.carryOut (.act (.reveal s)) v = ((v.reveal s).map .text, v) := by
  rw [Discipline.carryOut]
  rfl

theorem carryOut_reveal_eq_ok_iff :
    discipline.carryOut (.act (.reveal s)) v = (.ok (.text text), v) ↔
      Strict (v.octets s) (codePoints text) := by
  rw [carryOut_reveal, ← reveal_eq_ok_iff_strict]
  cases v.reveal s <;> simp [Except.map]

theorem carryOut_reveal_eq_error_iff :
    discipline.carryOut (.act (.reveal s)) v = (.error .undecodable, v) ↔ Faulty (v.octets s) := by
  rw [carryOut_reveal, ← reveal_eq_error_iff]
  cases v.reveal s <;> simp [Except.map]

/-- A secret that uses a buffer has the bytes of the buffer. -/
theorem octets_adopt (b : BufferId) (v : Vault) :
    (v.adopt b).2.octets (v.adopt b).1 = (v.bytes b).data.toList := by
  rw [octets, contents_of_buffer? (buffer?_adopt b v)]
  rfl

end Vault

/-! ## Passwords that were typed -/

namespace Changer

open Confirmation
open Directory (Item Memory Native)

variable {D H : Type} {request : Request} {needsAuth : Bool} {w w' : World D H}
  {old? new? : Option SecretId}

/-- Passwords that were collected are those of the conversation. -/
theorem collect_eq_ok (collected : collect request needsAuth w = (.ok (old?, new?), w')) :
    let talk := Conversation.of needsAuth w.answers
    talk.resolution ≠ .interrupted ∧ old? = talk.old? w.vault ∧ new? = talk.new? w.vault ∧
      w' = talk.after (oldPrompt request) w := by
  intro talk
  rw [collect_eq, Conversation.collected, Conversation.left] at collected
  cases resolved : talk.resolution with
  | interrupted =>
      rw [resolved] at collected
      cases collected
  | declined | confirmed password =>
      rw [resolved] at collected
      cases collected
      exact ⟨Resolution.noConfusion, rfl, rfl, rfl⟩

/-- What a directory gets of the passwords that were collected: the old one is the text of the first
answer, if an identity must be proved, and a new one is what was typed twice in a row. -/
structure Handed (needsAuth : Bool) (w w' : World D H) (old? new? : Option SecretId) : Prop where
  old_memory : Memory.revealed? w'.vault (.ofSecret? old?) =
    .ok (if needsAuth then firstText? w.answers else none)
  old_native : Native.revealed? w'.vault (.ofSecret? old?) =
    .ok (if needsAuth then firstText? w.answers else none)
  new (s : SecretId) : new? = some s → ∃ password,
    TypedLast w.answers w'.answers (w.since w').prompts password ∧
      Memory.revealed w'.vault (.secret s) = .ok password ∧
      Native.revealed? w'.vault (.secret s) = .ok (some password)

/-- **The passwords reach a directory as they were typed.** -/
theorem collect_reveals (collected : collect request needsAuth w = (.ok (old?, new?), w')) :
    Handed needsAuth w w' old? new? := by
  obtain ⟨lasted, rfl, rfl, rfl⟩ := collect_eq_ok collected
  have opened : (Conversation.of needsAuth w.answers).opening.password? =
      if needsAuth then firstText? w.answers else none := by
    cases needsAuth with
    | true => exact Conversation.password?_of_true w.answers
    | false => rfl
  have old := (Conversation.of needsAuth w.answers).reveal_old? w.vault
  rw [opened] at old
  refine ⟨(Memory.revealed?_ofSecret? _ _).trans old, (Native.revealed?_ofSecret? _ _).trans old, ?_⟩
  intro s given
  cases resolved : (Conversation.of needsAuth w.answers).resolution with
  | interrupted => exact absurd resolved lasted
  | declined =>
      rw [(Conversation.held_of_declined resolved w.vault).1] at given
      cases given
  | confirmed password =>
      obtain ⟨new, same, _, contents⟩ := Conversation.new?_of_confirmed resolved w.vault
      rw [same] at given
      cases given
      have read := Vault.reveal_of_contents_eq contents
      have typed := Conversation.typedLast resolved (oldPrompt request)
      have since : w.since ((Conversation.of needsAuth w.answers).after (oldPrompt request) w) =
          (Conversation.of needsAuth w.answers).events (oldPrompt request) w.vault :=
        World.since_of_journal_eq rfl
      refine ⟨password, ?_, read, congrArg (Except.map some) read⟩
      rw [since, Conversation.prompts_events]
      exact typed

end Changer

/-! ## The correspondence -/

open Confirmation Utf8 Vault in
/-- **Texts and bytes correspond.** A secret made from a text reads as that text and is as long as
its encoding. A secret that uses a buffer reads as a text exactly if the buffer holds the strict
encoding of one, and then as that one; else the reading is refused, and in either case nothing is
changed. Comparing secrets is comparing their texts, so that the loop that compares the two passwords
that were typed plays the dialogue that compares their texts; and the passwords reach a directory as
they were typed. -/
theorem texts_and_bytes_correspond {D H : Type} :
    (∀ (text : String) (v : Vault),
      let (s, v') := v.issue text
      v'.reveal s = .ok text ∧ v'.octets s = text.toUTF8.data.toList ∧
        v'.size s = bytesForAll (codePoints text)) ∧
      (∀ (b : BufferId) (v : Vault),
        let (s, v') := v.adopt b
        let reading := discipline.carryOut (.act (.reveal s)) v'
        let bytes := (v.bytes b).data.toList
        (∀ text, reading = (.ok (.text text), v') ↔ Strict bytes (codePoints text)) ∧
          (∀ text, Strict bytes (codePoints text) → text.toUTF8 = v.bytes b) ∧
          (∀ numbers, Strict bytes numbers → ∃ text, codePoints text = numbers) ∧
          (reading = (.error .undecodable, v') ↔ ¬ ∃ numbers, Strict bytes numbers) ∧
          (reading = (.error .undecodable, v') ↔ Faulty bytes)) ∧
      (∀ (v : Vault) (s t : SecretId) (first second : String), v.reveal s = .ok first →
        v.reveal t = .ok second → (v.agree s t = true ↔ first = second)) ∧
      (∀ (first second : String) (v : Vault),
        let (s, v₁) := v.issue first
        let (t, v₂) := v₁.issue second
        v₂.agree t s = true ↔ second = first) ∧
      (∀ w : World D H, confirm w.answers w = (Dialogue.of w.answers).play w) ∧
      ∀ (request : Request) (needsAuth : Bool) (w w' : World D H) (old? new? : Option SecretId),
        collect request needsAuth w = (.ok (old?, new?), w') →
        Changer.Handed needsAuth w w' old? new? := by
  refine ⟨?texts, ?buffers, fun _ _ _ _ _ => agree_of_reveal, ?comparison, ?retyping, ?directory⟩
  case texts =>
    intro text v
    have read : (v.issue text).2.reveal (v.issue text).1 = .ok text :=
      reveal_of_contents_eq (contents_issue text v)
    have bytes : (v.issue text).2.octets (v.issue text).1 = text.toUTF8.data.toList := by
      rw [octets, contents_issue]
    exact ⟨read, bytes, size_of_reveal read⟩
  case buffers =>
    intro b v
    have bytes := octets_adopt b v
    refine ⟨?_, ?_, ?_, ?_, ?_⟩
    · intro text
      rw [← bytes]
      exact carryOut_reveal_eq_ok_iff
    · intro text strict
      exact (strict_iff.2 strict).symm
    · intro numbers strict
      obtain ⟨text, numbered, _⟩ := strict.exists_text
      exact ⟨text, numbered⟩
    · rw [not_strict_iff, ← bytes]
      exact carryOut_reveal_eq_error_iff
    · rw [← bytes]
      exact carryOut_reveal_eq_error_iff
  case comparison =>
    intro first second v
    have earlier := contents_issue first v
    have kept := Extends.contents_eq (fresh_issue first v) (extends_issue second (v.issue first).2)
    exact agree_iff (contents_issue second (v.issue first).2) (kept.trans earlier)
  case retyping =>
    intro w
    exact confirm_eq w.answers w
  case directory =>
    intro request needsAuth w w' old? new? collected
    exact Changer.collect_reveals collected

/-- A terminal at which a password with an accent is typed twice. -/
def accented : World Unit Unit :=
  { directory := (), host := (), answers := [.text "né", .text "né"] }

/-- A buffer with an overlong encoding. -/
def overlong : Vault :=
  { buffers := #[⟨#[0xc0, 0x80]⟩] }

open Confirmation Vault in
/-- The password is handed on; the overlong encoding is refused. -/
theorem accented_handed_overlong_refused :
    let request : Request := ⟨"peggy", .unspecified, "peggy", by decide, by decide⟩
    (∃ s w', collect request false accented = (.ok (none, some s), w') ∧
      Changer.Handed false accented w' none (some s)) ∧
      discipline.carryOut (.act (.reveal (overlong.adopt ⟨0⟩).1)) (overlong.adopt ⟨0⟩).2 =
        (.error .undecodable, (overlong.adopt ⟨0⟩).2) := by
  intro request
  obtain ⟨_, buffers, _, _, _, directory⟩ := texts_and_bytes_correspond (D := Unit) (H := Unit)
  have collected : collect request false accented = (.ok (none, some ⟨0⟩), _) := rfl
  refine ⟨⟨⟨0⟩, _, collected, directory request false accented _ none (some ⟨0⟩) collected⟩, ?_⟩
  obtain ⟨_, _, _, _, refused⟩ := buffers ⟨0⟩ overlong
  have pair : Utf8.Sequence [0xc0, 0x80] 0 := .two (n := 0) (by decide)
  have fault : Utf8.Fault ([0xc0, 0x80] ++ []) := .overlong pair (by decide)
  exact refused.2 ⟨[], [], _, rfl, .nil, fault⟩

end PasswordChange
