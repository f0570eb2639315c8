import PasswordChange.Proofs.Conversation

/-!
# Renaming the passwords

A `Renaming` replaces texts by others, one to one, and keeps the empty text. A conversation in
which all typed texts are renamed goes the same way as before: it treats passwords as equal or
unequal, empty or not, and does nothing else with them.

* `Conversation.of_rename` says that the conversation of renamed answers is the renamed
  conversation.
* `Vault.Alike` relates vaults in which the same secrets have been made, whatever they hold. From
  such vaults, a conversation and a renamed one make the same events (`Conversation.events_rename`)
  and the same secrets, and they come to vaults that are alike again.
-/

namespace PasswordChange

/-- A one-to-one map of texts that keeps the empty text. -/
structure Renaming where
  text : String → String
  injective (s t : String) : text s = text t → s = t
  blank : text "" = ""

namespace Renaming

def identity : Renaming :=
  ⟨id, fun _ _ => id, rfl⟩

variable (f : Renaming) {s t : String}

@[simp]
theorem text_eq_iff : f.text s = f.text t ↔ s = t :=
  ⟨f.injective s t, congrArg f.text⟩

@[simp]
theorem text_eq_blank_iff : f.text s = "" ↔ s = "" := by
  have same := f.text_eq_iff (s := s) (t := "")
  rw [f.blank] at same
  exact same

end Renaming

/-- The text of an answer is renamed; other answers have none. -/
def Answer.rename (f : Renaming) : Answer → Answer
  | text s => text (f.text s)
  | endOfInput => endOfInput
  | undecodable => undecodable
  | interrupt => interrupt

theorem Answer.map_rename_identity (answers : List Answer) :
    answers.map (Answer.rename .identity) = answers := by
  have same : Answer.rename .identity = id := by
    funext answer
    cases answer <;> rfl
  rw [same, List.map_id]

/-! ## Vaults in which the same secrets were made -/

namespace Vault

variable {v v' : Vault}

/-- As many secrets have been made in the one vault as in the other, so that the next one has the
same name. -/
def Alike (v v' : Vault) : Prop :=
  v'.secrets.size = v.secrets.size

theorem Alike.issue (alike : v.Alike v') (s t : String) :
    (v'.issue t).1 = (v.issue s).1 ∧ (v.issue s).2.Alike (v'.issue t).2 := by
  obtain ⟨index, secrets, _⟩ := issue_eq s v
  obtain ⟨index', secrets', _⟩ := issue_eq t v'
  refine ⟨?_, ?_⟩
  · refine (SecretId.mk.injEq ..).mpr ?_
    rw [index, index', alike]
  · unfold Alike
    rw [secrets, secrets', Array.size_push, Array.size_push, alike]

theorem Alike.wipe (alike : v.Alike v') (s t : SecretId) : (v.wipe s).Alike (v'.wipe t) := by
  unfold Alike
  rw [secrets_size_wipe, secrets_size_wipe]
  exact alike

end Vault

namespace Confirmation

variable (f : Renaming) {v v' : Vault}

/-! ## The dialogue -/

def Attempt.rename : Attempt → Attempt
  | unreadable => unreadable
  | abandoned first => abandoned (f.text first)
  | garbled first => garbled (f.text first)
  | mismatched first second => mismatched (f.text first) (f.text second)

def Ending.rename : Ending → Ending
  | ended => ended
  | blank => blank
  | confirmed password => confirmed (f.text password)
  | interrupted => interrupted
  | interruptedRetyping first => interruptedRetyping (f.text first)

def Dialogue.rename (d : Dialogue) : Dialogue :=
  ⟨d.attempts.map (Attempt.rename f), d.ending.rename f, d.rest.map (Answer.rename f)⟩

/-- **The dialogue of renamed answers is the renamed dialogue.** -/
theorem Dialogue.of_rename (answers : List Answer) :
    Dialogue.of (answers.map (Answer.rename f)) = (Dialogue.of answers).rename f := by
  induction answers using Dialogue.of.induct with
  | case1 | case2 | case3 => rfl
  | case4 rest ih =>
      change Dialogue.of (.undecodable :: rest.map _) = _
      rw [Dialogue.of, Dialogue.of, ih]
      rfl
  | case5 rest =>
      change Dialogue.of (.text (f.text "") :: rest.map _) = _
      rw [f.blank, Dialogue.of.eq_def, Dialogue.of.eq_def]
      rfl
  | case6 first typed =>
      have still := mt f.text_eq_blank_iff.1 typed
      change Dialogue.of [.text (f.text first)] = _
      rw [Dialogue.of, Dialogue.of, if_neg typed, if_neg still]
      rfl
  | case7 first typed rest ih =>
      have still := mt f.text_eq_blank_iff.1 typed
      change Dialogue.of (.text (f.text first) :: .endOfInput :: rest.map _) = _
      rw [Dialogue.of, Dialogue.of, if_neg typed, if_neg still, ih]
      rfl
  | case8 first typed rest =>
      have still := mt f.text_eq_blank_iff.1 typed
      change Dialogue.of (.text (f.text first) :: .interrupt :: rest.map _) = _
      rw [Dialogue.of, Dialogue.of, if_neg typed, if_neg still]
      rfl
  | case9 first typed rest ih =>
      have still := mt f.text_eq_blank_iff.1 typed
      change Dialogue.of (.text (f.text first) :: .undecodable :: rest.map _) = _
      rw [Dialogue.of, Dialogue.of, if_neg typed, if_neg still, ih]
      rfl
  | case10 first rest typed =>
      have still := mt f.text_eq_blank_iff.1 typed
      change Dialogue.of (.text (f.text first) :: .text (f.text first) :: rest.map _) = _
      rw [Dialogue.of, Dialogue.of, if_neg typed, if_neg still, if_pos rfl, if_pos rfl]
      rfl
  | case11 first typed second rest different ih =>
      have still := mt f.text_eq_blank_iff.1 typed
      have apart := mt f.text_eq_iff.1 different
      change Dialogue.of (.text (f.text first) :: .text (f.text second) :: rest.map _) = _
      rw [Dialogue.of, Dialogue.of, if_neg typed, if_neg still, if_neg different, if_neg apart, ih]
      rfl

theorem Attempt.events_rename (alike : v.Alike v') (attempt : Attempt) :
    (attempt.rename f).events v' = attempt.events v ∧
      (attempt.vault v).Alike ((attempt.rename f).vault v') := by
  cases attempt with
  | unreadable => exact ⟨rfl, alike⟩
  | abandoned first | garbled first =>
      obtain ⟨made, after⟩ := alike.issue first (f.text first)
      refine ⟨?_, after.wipe _ _⟩
      simp only [rename, events, made]
  | mismatched first second =>
      obtain ⟨made, after⟩ := alike.issue first (f.text first)
      obtain ⟨again, last⟩ := after.issue second (f.text second)
      refine ⟨?_, (last.wipe _ _).wipe _ _⟩
      simp only [rename, events, made, again]

theorem eventsOf_rename (alike : v.Alike v') (attempts : List Attempt) :
    eventsOf (attempts.map (Attempt.rename f)) v' = eventsOf attempts v ∧
      (vaultAfter attempts v).Alike (vaultAfter (attempts.map (Attempt.rename f)) v') := by
  induction attempts generalizing v v' with
  | nil => exact ⟨rfl, alike⟩
  | cons attempt rest ih =>
      obtain ⟨here, after⟩ := attempt.events_rename f alike
      obtain ⟨later, last⟩ := ih after
      refine ⟨?_, last⟩
      rw [List.map_cons, eventsOf, eventsOf, here, later]

theorem Ending.events_rename (alike : v.Alike v') (ending : Ending) :
    (ending.rename f).events v' = ending.events v ∧
      (ending.vault v).Alike ((ending.rename f).vault v') ∧
      (ending.rename f).result v' = ending.result v := by
  cases ending with
  | ended | interrupted => exact ⟨rfl, alike, rfl⟩
  | blank =>
      obtain ⟨made, after⟩ := alike.issue "" ""
      refine ⟨?_, after.wipe _ _, rfl⟩
      simp only [rename, events, made]
  | confirmed password =>
      obtain ⟨made, after⟩ := alike.issue password (f.text password)
      obtain ⟨again, last⟩ := after.issue password (f.text password)
      refine ⟨?_, last.wipe _ _, ?_⟩
      · simp only [rename, events, made, again]
      · simp only [rename, result, made]
  | interruptedRetyping first =>
      obtain ⟨made, after⟩ := alike.issue first (f.text first)
      refine ⟨?_, after, rfl⟩
      simp only [rename, events, made]

theorem Dialogue.events_rename (alike : v.Alike v') (d : Dialogue) :
    (d.rename f).events v' = d.events v ∧ (d.vault v).Alike ((d.rename f).vault v') ∧
      (d.rename f).result v' = d.result v := by
  obtain ⟨first, after⟩ := eventsOf_rename f alike d.attempts
  obtain ⟨last, settled, result⟩ := d.ending.events_rename f after
  refine ⟨?_, settled, result⟩
  unfold events
  rw [← last, ← first]
  rfl

/-! ## The conversation -/

def Opening.rename : Opening → Opening
  | skipped => skipped
  | typed password => typed (f.text password)
  | ended => ended
  | unreadable => unreadable
  | interrupted => interrupted

def Resolution.rename : Resolution → Resolution
  | interrupted => interrupted
  | declined => declined
  | confirmed password => confirmed (f.text password)

namespace Conversation

def rename (talk : Conversation) : Conversation :=
  ⟨talk.opening.rename f, talk.dialogue?.map (Dialogue.rename f), talk.rest.map (Answer.rename f)⟩

theorem rename_before (opening : Opening) (answers : List Answer) :
    (opening.rename f).before (answers.map (Answer.rename f)) =
      (opening.before answers).rename f := by
  unfold Opening.before
  rw [Dialogue.of_rename]
  rfl

/-- **The conversation of renamed answers is the renamed conversation.** -/
theorem of_rename (needsAuth : Bool) (answers : List Answer) :
    Conversation.of needsAuth (answers.map (Answer.rename f)) =
      (Conversation.of needsAuth answers).rename f := by
  cases needsAuth with
  | false => exact rename_before f .skipped answers
  | true =>
      match answers with
      | [] => exact rename_before f .ended []
      | .endOfInput :: rest => exact rename_before f .ended rest
      | .undecodable :: rest => exact rename_before f .unreadable rest
      | .text old :: rest => exact rename_before f (.typed old) rest
      | .interrupt :: rest => rfl

theorem resolution_rename (talk : Conversation) :
    (talk.rename f).resolution = talk.resolution.rename f := by
  obtain ⟨opening, _ | ⟨attempts, ending, left⟩, rest⟩ := talk
  · rfl
  · cases ending <;> rfl

theorem password?_rename (talk : Conversation) :
    (talk.rename f).opening.password? = talk.opening.password?.map f.text := by
  obtain ⟨opening, dialogue?, rest⟩ := talk
  cases opening <;> rfl

end Conversation

theorem Opening.events_rename (label : String) (alike : v.Alike v') (opening : Opening) :
    (opening.rename f).events label v' = opening.events label v ∧
      (opening.vault v).Alike ((opening.rename f).vault v') ∧
      (opening.rename f).secret? v' = opening.secret? v := by
  cases opening with
  | skipped | ended | unreadable | interrupted => exact ⟨rfl, alike, rfl⟩
  | typed password =>
      obtain ⟨made, after⟩ := alike.issue password (f.text password)
      refine ⟨?_, after, ?_⟩
      · simp only [rename, events, made]
      · simp only [rename, secret?, made]

namespace Conversation

variable (alike : v.Alike v') (talk : Conversation)

include alike

/-- **From vaults that are alike, a renamed conversation makes the same events.** -/
theorem events_rename (label : String) :
    (talk.rename f).events label v' = talk.events label v := by
  obtain ⟨opening, dialogue?, rest⟩ := talk
  obtain ⟨first, after, _⟩ := opening.events_rename f label alike
  cases dialogue? with
  | none => exact congrArg (· ++ []) first
  | some d =>
      have later := (d.events_rename f after).1
      change (opening.rename f).events label v' ++
        (d.rename f).events ((opening.rename f).vault v') = _
      rw [first, later]
      rfl

/-- It also makes the same secrets, and leaves alike vaults behind. -/
theorem secrets_rename :
    (talk.rename f).old? v' = talk.old? v ∧ (talk.rename f).new? v' = talk.new? v ∧
      (talk.vault v).Alike ((talk.rename f).vault v') := by
  obtain ⟨opening, dialogue?, rest⟩ := talk
  obtain ⟨_, after, secret⟩ := opening.events_rename f "" alike
  cases dialogue? with
  | none => exact ⟨secret, rfl, after⟩
  | some d =>
      obtain ⟨_, settled, result⟩ := d.events_rename f after
      refine ⟨secret, ?_, settled⟩
      change ((d.rename f).result _).toOption.join = (d.result _).toOption.join
      exact congrArg (fun r => (Except.toOption r).join) result

end Conversation

end Confirmation

end PasswordChange
