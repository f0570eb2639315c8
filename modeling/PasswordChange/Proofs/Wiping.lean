import PasswordChange.Proofs.Change
import PasswordChange.Proofs.Errand

/-!
# What becomes of the secrets

Every secret that a call of the library makes from the answers is wiped when the call ends, with
one exception: if the user interrupts the prompt to type the new password again, the new password
stays in its buffer.

* `Conversation.settled_custody` keeps track of the secrets of a conversation, and
  `Conversation.leak_cases` tells what it leaves behind.
* `World.Wiped` and `World.Leaks` are what can become of the secrets of a call.
* `Errand.wiped_iff_not_brokenOff` says when they are wiped, and which one remains if they are
  not.
-/

namespace PasswordChange

namespace Confirmation.Conversation

/-- The secrets that stay unwiped: the new password, if the prompt to type it again was
interrupted. -/
def leaked (v : Vault) (talk : Conversation) : List SecretId :=
  match talk.resolution with
  | .interrupted => talk.dialogue?.elim [] fun d => d.held (talk.opening.vault v)
  | .declined | .confirmed _ => []

theorem leaked_of_not_interrupted {talk : Conversation}
    (other : talk.resolution ≠ .interrupted) (v : Vault) : talk.leaked v = [] := by
  unfold leaked
  split
  · contradiction
  · rfl
  · rfl

/-- After the old and the new password were wiped, only what leaks is left. -/
theorem settled_custody (label : String) (v : Vault) (talk : Conversation) :
    v.Custody (talk.settled v) (Journal.issued (talk.events label v)) (talk.leaked v) := by
  have start := talk.custody label v
  -- The old password is wiped first: of those held, the ones after it are left.
  have first : v.Custody ((talk.old? v).elim (talk.vault v) fun s => (talk.vault v).wipe s)
      (Journal.issued (talk.events label v))
      (talk.dialogue?.elim [] fun d => d.held (talk.opening.vault v)) := by
    have made := fun s => talk.issued_of_held (s := s) (v := v) label
    unfold held at start made
    cases old : talk.old? v with
    | none =>
        rw [old] at start
        exact start
    | some s =>
        rw [old] at start made
        refine start.wipe (made s (List.mem_cons_self ..)) ?_
        intro t member
        exact (List.mem_cons.1 member).imp id id
  unfold settled leaked
  rcases resolved : talk.resolution with _ | _ | password
  case interrupted =>
    rw [talk.new?_of_interrupted resolved]
    exact first
  case declined =>
    obtain ⟨none, rest⟩ := talk.held_of_declined resolved v
    rw [none]
    unfold held at rest
    rw [List.append_right_eq_self.1 rest] at first
    exact first
  case confirmed =>
    obtain ⟨new, given, rest, _⟩ := talk.new?_of_confirmed resolved v
    rw [given]
    have made := talk.issued_of_held (s := new) (v := v) label (by rw [rest]; simp)
    unfold held at rest
    rw [List.append_cancel_left rest] at first
    exact first.wiped_again made

end Confirmation.Conversation

namespace Confirmation

/-- An interrupted dialogue leaves nothing behind, or the text that was to be typed again. -/
theorem Dialogue.interrupted_cases (answers : List Answer)
    (interrupted : (Dialogue.of answers).ending.resolution = .interrupted) (v : Vault) :
    ((Dialogue.of answers).held v = [] ∧
      (Dialogue.of answers).prompts.getLast? = some newPrompt) ∨
    ∃ s first before, (Dialogue.of answers).held v = [s] ∧
      (Dialogue.of answers).prompts.getLast? = some retypePrompt ∧
      (Journal.issued ((Dialogue.of answers).events v)).getLast? = some s ∧ first ≠ "" ∧
      ((Dialogue.of answers).vault v).contents s = first.toUTF8 ∧
      answers = before ++ [.text first, .interrupt] ++ (Dialogue.of answers).rest := by
  have possible := (Dialogue.possible_of answers).2
  have split := Dialogue.answers_eq answers fun ended => by
    rw [ended] at interrupted
    cases interrupted
  generalize Dialogue.of answers = d at interrupted possible split ⊢
  obtain ⟨attempts, ending, rest⟩ := d
  cases ending with
  | ended | blank | confirmed _ => cases interrupted
  | interrupted =>
      exact Or.inl ⟨rfl, List.getLast?_append⟩
  | interruptedRetyping first =>
      refine Or.inr ⟨_, first, _, rfl, ?_, ?_, possible, ?_, split⟩
      · exact List.getLast?_append
      · rw [Dialogue.events, Journal.issued_append]
        exact List.getLast?_append
      · exact Vault.contents_issue first _

namespace Conversation

/-- The conversation about the answers was interrupted at the prompt to type the new password
again, and the secret with the text to be typed again stays behind. -/
structure Leak (talk : Conversation) (label : String) (v : Vault) (answers : List Answer)
    (s : SecretId) (first : String) : Prop where
  leaked : talk.leaked v = [s]
  prompted : (talk.prompts label).getLast? = some retypePrompt
  issued : (Journal.issued (talk.events label v)).getLast? = some s
  nonempty : first ≠ ""
  holds : (talk.settled v).contents s = first.toUTF8
  typed : ∃ before, answers = before ++ [.text first, .interrupt] ++ talk.rest

theorem Leak.after {talk : Conversation} {label : String} {v : Vault} {answers : List Answer}
    {s : SecretId} {first : String} (leak : talk.Leak label v answers s first)
    (earlier : List Answer) : talk.Leak label v (earlier ++ answers) s first := by
  obtain ⟨before, split⟩ := leak.typed
  refine { leak with typed := ⟨earlier ++ before, ?_⟩ }
  rw [List.append_assoc, List.append_assoc, ← List.append_assoc before]
  exact congrArg _ split

/-- An interrupted conversation after its opening leaves nothing behind, or the text that was to
be typed again. -/
theorem leak_cases_before (opening : Opening) (label : String) {answers : List Answer}
    (interrupted : (opening.before answers).resolution = .interrupted) (v : Vault) :
    ((opening.before answers).leaked v = [] ∧
      ((opening.before answers).prompts label).getLast? = some newPrompt) ∨
    ∃ s first, (opening.before answers).Leak label v answers s first := by
  have leaked_eq : (opening.before answers).leaked v =
      (Dialogue.of answers).held (opening.vault v) := by
    unfold leaked
    rw [interrupted]
    rfl
  have last (lines : List String) {line : String} (some_line : lines.getLast? = some line) :
      (opening.prompts label ++ lines).getLast? = some line := by
    rw [List.getLast?_append, some_line]
    rfl
  rcases Dialogue.interrupted_cases answers interrupted (opening.vault v) with
    ⟨none, prompted⟩ | ⟨s, first, before, held, prompted, issued, nonempty, contents, split⟩
  · exact Or.inl ⟨leaked_eq.trans none, last _ prompted⟩
  · refine Or.inr ⟨s, first, leaked_eq.trans held, last _ prompted, ?_, nonempty, ?_, before, split⟩
    · unfold events
      rw [Journal.issued_append, List.getLast?_append]
      show Option.or (Journal.issued ((Dialogue.of answers).events
        (opening.vault v))).getLast? _ = _
      rw [issued]
      rfl
    · -- Wiping the old password, which is older, does not touch the secret of the new one.
      have custody := (Dialogue.of answers).custody (opening.vault v)
      have member := List.mem_of_getLast? issued
      unfold settled
      rw [new?_of_interrupted interrupted, ← contents]
      cases opening with
      | typed password =>
          exact Vault.contents_wipe_of_fresh (Vault.fresh_issue password v) custody.kept
            (custody.fresh s member)
      | skipped | ended | unreadable | interrupted => rfl

/-- **What leaks from an interrupted conversation is the text that was to be typed again.** -/
theorem leak_cases {label : String} (other : label ≠ retypePrompt) {needsAuth : Bool}
    {answers : List Answer} {talk : Conversation}
    (held : Conversation.of needsAuth answers = talk)
    (interrupted : talk.resolution = .interrupted) (v : Vault) :
    (talk.leaked v = [] ∧ (talk.prompts label).getLast? ≠ some retypePrompt) ∨
    ∃ s first, talk.Leak label v answers s first := by
  subst held
  have differ : newPrompt ≠ retypePrompt := by decide
  have follow (opening : Opening) (answers earlier : List Answer)
      (resolved : (opening.before answers).resolution = .interrupted) :
      ((opening.before answers).leaked v = [] ∧
        ((opening.before answers).prompts label).getLast? ≠ some retypePrompt) ∨
      ∃ s first, (opening.before answers).Leak label v (earlier ++ answers) s first := by
    rcases leak_cases_before opening label resolved v with ⟨none, prompted⟩ | ⟨s, first, leak⟩
    · refine Or.inl ⟨none, ?_⟩
      rw [prompted]
      intro same
      exact differ (Option.some.inj same)
    · exact Or.inr ⟨s, first, leak.after earlier⟩
  cases needsAuth with
  | false => exact follow .skipped answers [] interrupted
  | true =>
      match answers with
      | [] => exact follow .ended [] [] interrupted
      | .endOfInput :: rest => exact follow .ended rest [.endOfInput] interrupted
      | .undecodable :: rest => exact follow .unreadable rest [.undecodable] interrupted
      | .text old :: rest => exact follow (.typed old) rest [.text old] interrupted
      | .interrupt :: rest => exact Or.inl ⟨rfl, fun same => other (Option.some.inj same)⟩

end Conversation

end Confirmation

open Confirmation
open Directory (Memory)

/-- The prompt for an old password is another than the two for a new one. -/
theorem Changer.oldPrompt_ne (request : Request) :
    oldPrompt request ≠ newPrompt ∧ oldPrompt request ≠ retypePrompt := by
  unfold oldPrompt Policy.oldPasswordPrompt
  split
  · decide
  · constructor <;> intro same
    all_goals
      have first := congrArg (fun s : String => s.toList.head?) same
      simp [newPrompt, retypePrompt, String.toList_append] at first

/-! ## The secrets of a stretch of work -/

namespace World

variable {D H α β : Type} {w w₀ w₁ w' : World D H}

/-- Every secret made between the two worlds has been wiped in the second. -/
def Wiped (w w' : World D H) : Prop :=
  ∀ s ∈ (w.since w').issued, w'.vault.isEmpty s = true

/-- Of the secrets made between the two worlds, the last one still holds the new password as it
was typed the first time, and all others have been wiped. -/
structure Leaks (w w' : World D H) (s : SecretId) (password : String) : Prop where
  last : (w.since w').issued.getLast? = some s
  holds : w'.vault.contents s = password.toUTF8
  nonempty : password ≠ ""
  typed : ∃ before, w.answers = before ++ [.text password, .interrupt] ++ w'.answers
  others (t : SecretId) : t ∈ (w.since w').issued → t ≠ s → w'.vault.isEmpty t = true

/-- Between the two worlds, the user has interrupted the prompt to type the new password
again. -/
def BrokenOff (w w' : World D H) (result : Except Failure α) : Prop :=
  result = .error .interrupted ∧ (w.since w').prompts.getLast? = some retypePrompt

/-- The secrets are wiped, or the work was broken off and the new password leaks. -/
def Settles (w w' : World D H) (result : Except Failure α) : Prop :=
  ¬ w.BrokenOff w' result ∧ w.Wiped w' ∨
    w.BrokenOff w' result ∧ ∃ s password, w.Leaks w' s password

theorem Leaks.not_wiped {s : SecretId} {password : String} (leaks : w.Leaks w' s password) :
    ¬ w.Wiped w' := by
  intro wiped
  have empty := wiped s (List.mem_of_getLast? leaks.last)
  exact leaks.nonempty ((Vault.isEmpty_iff leaks.holds).1 empty)

/-- Work aside makes no difference to the secrets. -/
theorem Settles.around {result : Except Failure α} {result' : Except Failure β}
    (settles : w₀.Settles w₁ result) (before : Aside w w₀)
    (grows : w₀.journal <+: w₁.journal) (after : Aside w₁ w')
    (same : result' = .error .interrupted ↔ result = .error .interrupted) :
    w.Settles w' result' := by
  obtain ⟨prompts, issued, _⟩ := before.since grows after
  have broken : w.BrokenOff w' result' ↔ w₀.BrokenOff w₁ result := by
    unfold BrokenOff
    rw [prompts, same]
  rcases settles with ⟨whole, wiped⟩ | ⟨interrupted, s, password, leaks⟩
  · refine Or.inl ⟨fun contra => whole (broken.1 contra), ?_⟩
    unfold Wiped
    rw [issued, after.vault]
    exact wiped
  · refine Or.inr ⟨broken.2 interrupted, s, password, ?_, ?_, leaks.nonempty, ?_, ?_⟩
    · rw [issued, leaks.last]
    · rw [after.vault, leaks.holds]
    · rw [after.answers, ← before.answers]
      exact leaks.typed
    · rw [issued, after.vault]
      exact leaks.others

end World

/-! ## The secrets of a run and of an errand -/

namespace Changer

/-- A secret of a run leaks from its conversation, or it has been wiped. -/
theorem Course.isEmpty_of_issued {D H : Type} [Directory D] [Host H]
    (discreet : Directory.Discreet D) {R : D → D → Prop} {c : Changer} {request : Request}
    {w w₀ w₁ : World D H} {found : Found} {values : List (Option String)} {talk : Conversation}
    {prelude rest : List Event}
    (course : Course R c request w found values w₀ w₁ talk prelude rest) {s : SecretId}
    (made : s ∈ (w.since (c.run request w).2).issued) :
    s ∈ talk.leaked w.vault ∨ (c.run request w).2.vault.isEmpty s = true := by
  rw [(course.shown discreet).2] at made
  rw [course.talked.vault]
  have custody := talk.settled_custody (oldPrompt request) w.vault
  exact (custody.wiped s made).imp id Vault.isEmpty_of_buffer?_eq_none

theorem Stopped.settles {D H : Type} [Directory D] [Host H] {R : D → D → Prop} {c : Changer}
    {request : Request} {w : World D H} (stopped : Stopped R c request w) :
    w.Settles (c.run request w).2 (c.run request w).1 := by
  obtain ⟨prompts, issued⟩ := Journal.prompts_of_isSilent fun event member =>
    Event.isSilent_of_isBackstage (stopped.since event member)
  refine Or.inl ⟨?_, ?_⟩
  · intro broken
    have last := broken.2
    rw [prompts] at last
    cases last
  · unfold World.Wiped
    rw [issued]
    intro s member
    exact (List.not_mem_nil member).elim

theorem settles (c : Changer) (request : Request) (w : World Memory Host.Scripted) :
    w.Settles (c.run request w).2 (c.run request w).1 := by
  rcases c.run_course Memory.lookupFrame Host.Scripted.emits request w with
    stopped | ⟨found, values, w₀, w₁, talk, prelude, rest, course⟩
  · exact stopped.settles
  obtain ⟨node, denotes, held, concludes⟩ := course.denotes
  have interrupted_iff := concludes.interrupted_iff held denotes
  obtain ⟨prompts, issued⟩ := course.shown Memory.discreet
  have wiped (none : talk.leaked w.vault = []) : w.Wiped (c.run request w).2 := by
    intro s made
    rcases course.isEmpty_of_issued Memory.discreet made with leaks | empty
    · rw [none] at leaks
      exact (List.not_mem_nil leaks).elim
    · exact empty
  by_cases resolved : talk.resolution = .interrupted
  case neg =>
    refine Or.inl ⟨fun broken => resolved (interrupted_iff.1 broken.1), wiped ?_⟩
    exact talk.leaked_of_not_interrupted resolved w.vault
  case pos =>
    rcases Conversation.leak_cases (oldPrompt_ne request).2 held resolved w.vault with
      ⟨none, prompted⟩ | ⟨s, password, leak⟩
    · exact Or.inl ⟨fun broken => prompted (prompts ▸ broken.2), wiped none⟩
    · refine Or.inr ⟨⟨interrupted_iff.2 resolved, prompts ▸ leak.prompted⟩, s, password, ?_⟩
      refine ⟨issued ▸ leak.issued, ?_, leak.nonempty, ?_, ?_⟩
      · rw [course.talked.vault, leak.holds]
      · rw [course.talked.answers]
        exact leak.typed
      · intro t member other
        rcases course.isEmpty_of_issued Memory.discreet member with kept | empty
        · rw [leak.leaked] at kept
          exact absurd (List.mem_singleton.1 kept) other
        · exact empty

end Changer

namespace Errand

theorem settles (errand : Errand) (w : World Memory Host.Scripted) :
    w.Settles (errand.act w).2 (errand.act w).1 := by
  rcases errand.act_cases w with
    ⟨_, aside, uninterrupted⟩ | ⟨c, request, w₀, _, before, after, interrupted_iff⟩
  · obtain ⟨_, none, _⟩ := Aside.since (Aside.refl w) (List.prefix_refl _) aside
    refine Or.inl ⟨fun broken => uninterrupted broken.1, ?_⟩
    unfold World.Wiped
    rw [none, World.since_of_journal_eq (List.append_nil _).symm]
    intro s member
    exact (List.not_mem_nil member).elim
  · have grows := c.run_grows Memory.lookupFrame Host.Scripted.emits request w₀
    exact (c.settles request w₀).around before grows after interrupted_iff

/-- **A call wipes every secret that it has made unless it is broken off at the prompt to type the
new password again, and then exactly the new password leaks.** -/
theorem wiped_iff_not_brokenOff (errand : Errand) (w : World Memory Host.Scripted) :
    (w.Wiped (errand.act w).2 ↔ ¬ w.BrokenOff (errand.act w).2 (errand.act w).1) ∧
      (w.BrokenOff (errand.act w).2 (errand.act w).1 →
        ∃ s password, w.Leaks (errand.act w).2 s password) := by
  rcases errand.settles w with ⟨whole, wiped⟩ | ⟨broken, s, password, leaks⟩
  · exact ⟨⟨fun _ => whole, fun _ => wiped⟩, fun broken => absurd broken whole⟩
  · refine ⟨⟨?_, ?_⟩, fun _ => ⟨s, password, leaks⟩⟩
    · intro wiped
      exact absurd wiped leaks.not_wiped
    · intro whole
      exact absurd broken whole

/-- A user who interrupts the prompt to type the new password again. -/
def brokenOffWorld : World Memory Host.Scripted where
  directory := Memory.addUser "/Local/Default" "carol" "old" false {}
  host := {}
  answers := [.text "old", .text "new", .interrupt]

def brokenOffErrand : Errand :=
  run ⟨{}, false⟩ ⟨"carol", .unspecified, "carol", by decide, by decide⟩

theorem new_password_leaks :
    ∃ s password, brokenOffWorld.Leaks (brokenOffErrand.act brokenOffWorld).2 s password := by
  obtain ⟨wiped_iff, leaks⟩ := wiped_iff_not_brokenOff brokenOffErrand brokenOffWorld
  have made : ⟨1⟩ ∈ (brokenOffWorld.since (brokenOffErrand.act brokenOffWorld).2).issued := by
    decide +kernel
  have holds : (brokenOffErrand.act brokenOffWorld).2.vault.isEmpty ⟨1⟩ = false := by
    decide +kernel
  apply leaks
  apply Classical.byContradiction
  intro whole
  have empty := wiped_iff.2 whole ⟨1⟩ made
  rw [holds] at empty
  cases empty

end Errand

end PasswordChange
