import PasswordChange.Confirmation
import PasswordChange.Proofs.Custody

/-!
# The dialogue about the new password

The answers to the prompts for a new password fall into attempts that fail, one after the other,
and an ending. `Dialogue.of` reads this structure off the answers alone, without a world.

* `confirm_eq` says that the confirmation loop plays exactly the dialogue of its answers: what
  comes out, which events it makes and what becomes of the vault follow from the attempts and
  the ending.
* `Dialogue.answers_eq` says that a dialogue that did not outlast the input took the answers of
  its attempts and of its ending, in order.
-/

namespace PasswordChange.Confirmation

/-- An attempt that failed: the first password was unreadable, or it was typed and the input
ended, was unreadable or was another text when it should have been typed again. -/
inductive Attempt where
  | unreadable
  | abandoned (first : String)
  | garbled (first : String)
  | mismatched (first second : String)
  deriving DecidableEq, Repr

/-- How a dialogue ends: the input ended, nothing was typed, a password was typed twice, or the
user interrupted one of the two prompts. -/
inductive Ending where
  | ended
  | blank
  | confirmed (password : String)
  | interrupted
  | interruptedRetyping (first : String)
  deriving DecidableEq, Repr

/-- A dialogue, with the answers that it leaves over. -/
structure Dialogue where
  attempts : List Attempt
  ending : Ending
  rest : List Answer
  deriving DecidableEq, Repr

/-! ## The dialogue of given answers -/

/-- A dialogue with one more attempt at its beginning. -/
def Dialogue.after (attempt : Attempt) (d : Dialogue) : Dialogue :=
  { d with attempts := attempt :: d.attempts }

/-- The dialogue that answers make. -/
def Dialogue.of : List Answer → Dialogue
  | [] => ⟨[], .ended, []⟩
  | .endOfInput :: rest => ⟨[], .ended, rest⟩
  | .interrupt :: rest => ⟨[], .interrupted, rest⟩
  | .undecodable :: rest => (of rest).after .unreadable
  | .text first :: rest =>
    if first = "" then ⟨[], .blank, rest⟩
    else match rest with
      | [] => ⟨[.abandoned first], .ended, []⟩
      | .endOfInput :: rest => (of rest).after (.abandoned first)
      | .interrupt :: rest => ⟨[], .interruptedRetyping first, rest⟩
      | .undecodable :: rest => (of rest).after (.garbled first)
      | .text second :: rest =>
        if second = first then ⟨[], .confirmed first, rest⟩
        else (of rest).after (.mismatched first second)

/-- The answers of an attempt. -/
def Attempt.answers : Attempt → List Answer
  | unreadable => [.undecodable]
  | abandoned first => [.text first, .endOfInput]
  | garbled first => [.text first, .undecodable]
  | mismatched first second => [.text first, .text second]

def Ending.answers : Ending → List Answer
  | ended => [.endOfInput]
  | blank => [.text ""]
  | confirmed password => [.text password, .text password]
  | interrupted => [.interrupt]
  | interruptedRetyping first => [.text first, .interrupt]

/-- The prompts of an attempt. -/
def Attempt.prompts : Attempt → List String
  | unreadable => [newPrompt]
  | abandoned _ | garbled _ | mismatched .. => [newPrompt, retypePrompt]

def Ending.prompts : Ending → List String
  | ended | blank | interrupted => [newPrompt]
  | confirmed _ | interruptedRetyping _ => [newPrompt, retypePrompt]

def Dialogue.answers (d : Dialogue) : List Answer :=
  d.attempts.flatMap Attempt.answers ++ d.ending.answers

def Dialogue.prompts (d : Dialogue) : List String :=
  d.attempts.flatMap Attempt.prompts ++ d.ending.prompts

/-! ## What a dialogue does -/

/-- The vault after an attempt: whatever was typed has been wiped. -/
def Attempt.vault (v : Vault) : Attempt → Vault
  | unreadable => v
  | abandoned first | garbled first => (v.issue first).2.wipe (v.issue first).1
  | mismatched first second =>
    let new := v.issue first
    let again := new.2.issue second
    (again.2.wipe again.1).wipe new.1

/-- The events of an attempt that begins with the given vault. -/
def Attempt.events (v : Vault) : Attempt → List Event
  | unreadable => [.prompted newPrompt, .said mismatchLine]
  | abandoned first => [.prompted newPrompt, .issued (v.issue first).1, .prompted retypePrompt]
  | garbled first =>
    [.prompted newPrompt, .issued (v.issue first).1, .prompted retypePrompt, .said mismatchLine]
  | mismatched first second =>
    [.prompted newPrompt, .issued (v.issue first).1, .prompted retypePrompt,
      .issued ((v.issue first).2.issue second).1, .said mismatchLine]

/-- The vault after an ending: a confirmed password stays, once, and so does one whose second
prompt was interrupted. -/
def Ending.vault (v : Vault) : Ending → Vault
  | ended | interrupted => v
  | blank => (v.issue "").2.wipe (v.issue "").1
  | confirmed password =>
    let again := (v.issue password).2.issue password
    again.2.wipe again.1
  | interruptedRetyping first => (v.issue first).2

def Ending.events (v : Vault) : Ending → List Event
  | ended => [.prompted newPrompt, .said unchangedLine]
  | blank => [.prompted newPrompt, .issued (v.issue "").1, .said unchangedLine]
  | confirmed password =>
    [.prompted newPrompt, .issued (v.issue password).1, .prompted retypePrompt,
      .issued ((v.issue password).2.issue password).1]
  | interrupted => [.prompted newPrompt]
  | interruptedRetyping first =>
    [.prompted newPrompt, .issued (v.issue first).1, .prompted retypePrompt]

/-- What comes of an ending that begins with the given vault. -/
def Ending.result (v : Vault) : Ending → Except Failure (Option SecretId)
  | ended | blank => .ok none
  | confirmed password => .ok (some (v.issue password).1)
  | interrupted | interruptedRetyping _ => .error .interrupted

def vaultAfter (attempts : List Attempt) (v : Vault) : Vault :=
  attempts.foldl Attempt.vault v

def eventsOf : List Attempt → Vault → List Event
  | [], _ => []
  | attempt :: rest, v => attempt.events v ++ eventsOf rest (attempt.vault v)

def Dialogue.vault (d : Dialogue) (v : Vault) : Vault :=
  d.ending.vault (vaultAfter d.attempts v)

def Dialogue.events (d : Dialogue) (v : Vault) : List Event :=
  eventsOf d.attempts v ++ d.ending.events (vaultAfter d.attempts v)

def Dialogue.result (d : Dialogue) (v : Vault) : Except Failure (Option SecretId) :=
  d.ending.result (vaultAfter d.attempts v)

variable {D H : Type}

/-- A dialogue played in a world. -/
def Dialogue.play (d : Dialogue) : Act D H (Option SecretId) :=
  fun w =>
    (d.result w.vault,
      { w with
        vault := d.vault w.vault
        answers := d.rest
        journal := w.journal ++ d.events w.vault })

/-! ## The loop plays the dialogue -/

theorem Dialogue.play_after (attempt : Attempt) (d : Dialogue) (w : World D H) :
    (d.after attempt).play w =
      d.play { w with
        vault := attempt.vault w.vault
        journal := w.journal ++ attempt.events w.vault } := by
  simp [play, after, result, vault, events, vaultAfter, eventsOf]

/-- The world in which a text that was typed is to be typed again. -/
def retyping (first : String) (rest : List Answer) (w : World D H) : World D H :=
  { w with
    vault := (w.vault.issue first).2
    answers := rest
    journal := w.journal ++ [.prompted newPrompt, .issued (w.vault.issue first).1] }

section Rounds

variable {rest : List Answer} {restart : Act D H (Option SecretId)}

theorem choose_ended (next : SecretId → Act D H (Option SecretId)) (w : World D H) :
    choose .endOfInput rest restart next w =
      (.ok none, { w with
        answers := rest
        journal := w.journal ++ [.prompted newPrompt, .said unchangedLine] }) := by
  simp [choose, take, decline, Terminal.entry, Terminal.receive, Terminal.say,
    Act.bind_eq_andThen, Act.pure_eq_value, Act.andThen, Act.note, Act.value]

theorem choose_undecodable (next : SecretId → Act D H (Option SecretId)) (w : World D H) :
    choose .undecodable rest restart next w =
      restart { w with
        answers := rest
        journal := w.journal ++ [.prompted newPrompt, .said mismatchLine] } := by
  simp [choose, take, mismatch, Terminal.entry, Terminal.receive, Terminal.say,
    Act.bind_eq_andThen, Act.andThen, Act.note, Act.fail]

theorem choose_blank (next : SecretId → Act D H (Option SecretId)) (w : World D H) :
    choose (.text "") rest restart next w =
      (.ok none, { w with
        vault := (w.vault.issue "").2.wipe (w.vault.issue "").1
        answers := rest
        journal := w.journal ++
          [.prompted newPrompt, .issued (w.vault.issue "").1, .said unchangedLine] }) := by
  have blank := (Vault.isEmpty_iff (Vault.contents_issue "" w.vault)).2 rfl
  simp only [choose, take, Terminal.entry, Terminal.receive, Act.bind_eq_andThen, Act.andThen,
    Act.note, Act.inspect, blank]
  simp [decline, Terminal.say, Act.bind_eq_andThen, Act.pure_eq_value, Act.andThen, Act.note,
    Act.value, Act.wipe]

/-- A text that is not empty leads to the second prompt. -/
theorem choose_text {first : String} (typed : first ≠ "")
    (next : SecretId → Act D H (Option SecretId)) (w : World D H) :
    choose (.text first) rest restart next w =
      next (w.vault.issue first).1 (retyping first rest w) := by
  have held := Vault.contents_issue first w.vault
  have holds : (w.vault.issue first).2.isEmpty (w.vault.issue first).1 = false := by
    rw [Bool.eq_false_iff, ne_eq, Vault.isEmpty_iff held]
    exact typed
  simp only [choose, take, Terminal.entry, Terminal.receive, Act.bind_eq_andThen, Act.andThen,
    Act.note, Act.inspect, holds]
  simp [retyping]

theorem retype_ended (new : SecretId) (w : World D H) :
    retype new .endOfInput rest restart w =
      restart { w with
        vault := w.vault.wipe new
        answers := rest
        journal := w.journal ++ [.prompted retypePrompt] } := rfl

theorem retype_interrupt (new : SecretId) (w : World D H) :
    retype new .interrupt rest restart w =
      (.error .interrupted, { w with
        answers := rest
        journal := w.journal ++ [.prompted retypePrompt] }) := rfl

theorem retype_undecodable (new : SecretId) (w : World D H) :
    retype new .undecodable rest restart w =
      restart { w with
        vault := w.vault.wipe new
        answers := rest
        journal := w.journal ++ [.prompted retypePrompt, .said mismatchLine] } := by
  simp [retype, take, mismatch, Terminal.entry, Terminal.receive, Terminal.say,
    Act.bind_eq_andThen, Act.andThen, Act.note, Act.fail, Act.wipe]

/-- A text at the second prompt confirms the same text at the first. -/
theorem retype_text {first second : String} {new : SecretId} {v : Vault} {w : World D H}
    (fresh : v.Fresh w.vault new) (held : w.vault.contents new = first.toUTF8) :
    retype new (.text second) rest restart w =
      if second = first then
        (.ok (some new), { w with
          vault := (w.vault.issue second).2.wipe (w.vault.issue second).1
          answers := rest
          journal := w.journal ++
            [.prompted retypePrompt, .issued (w.vault.issue second).1] })
      else
        restart { w with
          vault := ((w.vault.issue second).2.wipe (w.vault.issue second).1).wipe new
          answers := rest
          journal := w.journal ++
            [.prompted retypePrompt, .issued (w.vault.issue second).1, .said mismatchLine] } := by
  have retyped := Vault.contents_issue second w.vault
  have kept : (w.vault.issue second).2.contents new = first.toUTF8 := by
    rw [Vault.Extends.contents_eq fresh (Vault.extends_issue second w.vault), held]
  have matched := Vault.agree_iff retyped kept
  simp only [retype, take, Terminal.entry, Terminal.receive, Act.bind_eq_andThen, Act.andThen,
    Act.note, Act.inspect, Act.wipe]
  by_cases same : second = first
  case pos =>
    rw [if_pos same]
    simp [matched.2 same, Act.pure_eq_value, Act.value]
  case neg =>
    have unmatched := mt matched.1 same
    simp [unmatched, same, mismatch, Terminal.say, Act.note, Act.andThen, Act.wipe,
      Act.bind_eq_andThen]

end Rounds

theorem confirm_text {first : String} (typed : first ≠ "") (second : Answer) (rest : List Answer)
    (w : World D H) :
    confirm (.text first :: second :: rest) w =
      retype (w.vault.issue first).1 second rest (confirm rest)
        (retyping first (second :: rest) w) :=
  choose_text typed _ w

theorem confirm_last_text {first : String} (typed : first ≠ "") (w : World D H) :
    confirm [.text first] w =
      retype (w.vault.issue first).1 .endOfInput [] (confirm []) (retyping first [] w) :=
  choose_text typed _ w

/-- **The loop plays the dialogue of its answers.** -/
theorem confirm_eq (answers : List Answer) (w : World D H) :
    confirm answers w = (Dialogue.of answers).play w := by
  induction answers using Dialogue.of.induct generalizing w with
  | case1 =>
      rw [confirm, choose_ended, Dialogue.of]
      rfl
  | case2 rest =>
      rw [confirm, choose_ended, Dialogue.of]
      rfl
  | case3 rest =>
      rw [confirm, Dialogue.of]
      rfl
  | case4 rest ih =>
      rw [confirm, choose_undecodable, ih, Dialogue.of, Dialogue.play_after]
      rfl
  | case5 rest =>
      rw [confirm, choose_blank, Dialogue.of.eq_def]
      rfl
  | case6 first typed =>
      rw [confirm_last_text typed, retype_ended, confirm, choose_ended, Dialogue.of,
        if_neg typed]
      simp [Dialogue.play, Dialogue.result, Dialogue.vault, Dialogue.events, vaultAfter, eventsOf,
        Attempt.vault, Attempt.events, Ending.vault, Ending.events, Ending.result, retyping]
  | case7 first typed rest ih =>
      rw [confirm_text typed, retype_ended, ih, Dialogue.of, if_neg typed, Dialogue.play_after]
      simp [Dialogue.play, Attempt.vault, Attempt.events, retyping]
  | case8 first typed rest =>
      rw [confirm_text typed, retype_interrupt, Dialogue.of, if_neg typed]
      simp [Dialogue.play, Dialogue.result, Dialogue.vault, Dialogue.events, vaultAfter, eventsOf,
        Ending.vault, Ending.events, Ending.result, retyping]
  | case9 first typed rest ih =>
      rw [confirm_text typed, retype_undecodable, ih, Dialogue.of, if_neg typed,
        Dialogue.play_after]
      simp [Dialogue.play, Attempt.vault, Attempt.events, retyping]
  | case10 first rest typed =>
      have fresh := Vault.fresh_issue first w.vault
      have held := Vault.contents_issue first w.vault
      rw [confirm_text typed, retype_text (w := retyping first _ w) fresh held, if_pos rfl,
        Dialogue.of, if_neg typed, if_pos rfl]
      simp [Dialogue.play, Dialogue.result, Dialogue.vault, Dialogue.events, vaultAfter, eventsOf,
        Ending.vault, Ending.events, Ending.result, retyping]
  | case11 first typed second rest different ih =>
      have fresh := Vault.fresh_issue first w.vault
      have held := Vault.contents_issue first w.vault
      rw [confirm_text typed, retype_text (w := retyping first _ w) fresh held, if_neg different,
        ih, Dialogue.of, if_neg typed, if_neg different, Dialogue.play_after]
      simp [Dialogue.play, Attempt.vault, Attempt.events, retyping]

/-! ## The answers of a dialogue -/

/-- The texts of an attempt are such that it fails: the first is not empty and the second is
another one. -/
def Attempt.Possible : Attempt → Prop
  | unreadable => True
  | abandoned first | garbled first => first ≠ ""
  | mismatched first second => first ≠ "" ∧ second ≠ first

/-- The text of an ending that is confirmed or interrupted at the second prompt is not empty. -/
def Ending.Possible : Ending → Prop
  | ended | blank | interrupted => True
  | confirmed text | interruptedRetyping text => text ≠ ""

theorem Dialogue.possible_of (answers : List Answer) :
    (∀ attempt ∈ (Dialogue.of answers).attempts, attempt.Possible) ∧
      (Dialogue.of answers).ending.Possible := by
  induction answers using Dialogue.of.induct with
  | case1 | case2 | case3 => exact ⟨fun _ member => (List.not_mem_nil member).elim, trivial⟩
  | case4 rest ih =>
      rw [Dialogue.of]
      exact ⟨List.forall_mem_cons.2 ⟨trivial, ih.1⟩, ih.2⟩
  | case5 rest =>
      rw [Dialogue.of.eq_def]
      exact ⟨fun _ member => (List.not_mem_nil member).elim, trivial⟩
  | case6 first typed =>
      rw [Dialogue.of, if_neg typed]
      exact ⟨List.forall_mem_singleton.2 typed, trivial⟩
  | case7 first typed rest ih | case9 first typed rest ih =>
      rw [Dialogue.of, if_neg typed]
      exact ⟨List.forall_mem_cons.2 ⟨typed, ih.1⟩, ih.2⟩
  | case8 first typed rest =>
      rw [Dialogue.of, if_neg typed]
      exact ⟨fun _ member => (List.not_mem_nil member).elim, typed⟩
  | case10 first rest typed =>
      rw [Dialogue.of, if_neg typed, if_pos rfl]
      exact ⟨fun _ member => (List.not_mem_nil member).elim, typed⟩
  | case11 first typed second rest different ih =>
      rw [Dialogue.of, if_neg typed, if_neg different]
      exact ⟨List.forall_mem_cons.2 ⟨⟨typed, different⟩, ih.1⟩, ih.2⟩

theorem Dialogue.answers_after (attempt : Attempt) (d : Dialogue) :
    (d.after attempt).answers = attempt.answers ++ d.answers := by
  simp [answers, after]

/-- A dialogue that did not outlast the input consumed exactly its own answers. -/
theorem Dialogue.answers_eq (answers : List Answer)
    (lasted : (Dialogue.of answers).ending ≠ .ended) :
    answers = (Dialogue.of answers).answers ++ (Dialogue.of answers).rest := by
  induction answers using Dialogue.of.induct with
  | case1 => exact absurd rfl lasted
  | case2 rest => exact absurd rfl lasted
  | case3 rest => rfl
  | case4 rest ih =>
      rw [Dialogue.of] at lasted ⊢
      rw [answers_after, List.append_assoc, after, ← ih lasted]
      rfl
  | case5 rest =>
      rw [Dialogue.of.eq_def]
      rfl
  | case6 first typed =>
      rw [Dialogue.of, if_neg typed] at lasted
      exact absurd rfl lasted
  | case7 first typed rest ih | case9 first typed rest ih =>
      rw [Dialogue.of, if_neg typed] at lasted ⊢
      rw [answers_after, List.append_assoc, after, ← ih lasted]
      rfl
  | case8 first typed rest =>
      rw [Dialogue.of, if_neg typed]
      rfl
  | case10 first rest typed =>
      rw [Dialogue.of, if_neg typed, if_pos rfl]
      rfl
  | case11 first typed second rest different ih =>
      rw [Dialogue.of, if_neg typed, if_neg different] at lasted ⊢
      rw [answers_after, List.append_assoc, after, ← ih lasted]
      rfl

theorem Dialogue.of_append {attempt : Attempt} (possible : attempt.Possible)
    (answers : List Answer) :
    Dialogue.of (attempt.answers ++ answers) = (Dialogue.of answers).after attempt := by
  cases attempt with
  | unreadable => rfl
  | abandoned first | garbled first =>
      show Dialogue.of (.text first :: _ :: answers) = _
      rw [Dialogue.of, if_neg possible]
  | mismatched first second =>
      show Dialogue.of (.text first :: .text second :: answers) = _
      rw [Dialogue.of, if_neg possible.1, if_neg possible.2]

/-- Any number of attempts that fail, and then a text twice in a row, confirm the text. -/
theorem Dialogue.of_confirmed {attempts : List Attempt} {password : String}
    (possible : ∀ attempt ∈ attempts, attempt.Possible) (typed : password ≠ "")
    (rest : List Answer) :
    Dialogue.of (attempts.flatMap Attempt.answers ++ .text password :: .text password :: rest) =
      ⟨attempts, .confirmed password, rest⟩ := by
  induction attempts with
  | nil =>
      rw [List.flatMap_nil, List.nil_append, Dialogue.of, if_neg typed, if_pos rfl]
  | cons attempt others ih =>
      obtain ⟨first, later⟩ := List.forall_mem_cons.1 possible
      rw [List.flatMap_cons, List.append_assoc, of_append first, ih later]
      rfl

/-- As many answers as prompts belong to an attempt. -/
theorem length_prompts (attempts : List Attempt) :
    (attempts.flatMap Attempt.prompts).length = (attempts.flatMap Attempt.answers).length := by
  induction attempts with
  | nil => rfl
  | cons attempt rest ih =>
      have here : attempt.prompts.length = attempt.answers.length := by
        cases attempt <;> rfl
      rw [List.flatMap_cons, List.flatMap_cons, List.length_append, List.length_append, here, ih]

/-! ## The prompts and the secrets of a dialogue -/

theorem prompts_eventsOf (attempts : List Attempt) (v : Vault) :
    Journal.prompts (eventsOf attempts v) = attempts.flatMap Attempt.prompts := by
  induction attempts generalizing v with
  | nil => rfl
  | cons attempt rest ih =>
      have here : Journal.prompts (attempt.events v) = attempt.prompts := by
        cases attempt <;> rfl
      rw [eventsOf, Journal.prompts_append, here, ih, List.flatMap_cons]

theorem Dialogue.prompts_events (d : Dialogue) (v : Vault) :
    Journal.prompts (d.events v) = d.prompts := by
  have last : ∀ v, Journal.prompts (d.ending.events v) = d.ending.prompts := by
    intro v
    cases d.ending <;> rfl
  rw [events, Journal.prompts_append, prompts_eventsOf, last]
  rfl

/-- Only the two prompts for the new password appear. -/
theorem Dialogue.mem_prompts (d : Dialogue) :
    ∀ label ∈ d.prompts, label = newPrompt ∨ label = retypePrompt := by
  intro label member
  rcases List.mem_append.1 member with early | late
  · obtain ⟨attempt, _, shown⟩ := List.mem_flatMap.1 early
    cases attempt <;> simp_all [Attempt.prompts]
  · cases ending : d.ending <;> simp_all [Ending.prompts]

/-- Whatever was typed in an attempt has been wiped at its end. -/
theorem Attempt.custody (attempt : Attempt) (v : Vault) :
    v.Custody (attempt.vault v) (Journal.issued (attempt.events v)) [] := by
  cases attempt with
  | unreadable => exact .refl v
  | abandoned first | garbled first => exact (Vault.Custody.issue first v).wiped_again
  | mismatched first second =>
      have inner := (Vault.Custody.issue second (v.issue first).2).wiped_again
      exact ((Vault.Custody.issue first v).trans inner).wipe (List.mem_cons_self ..)
        fun t member => Or.inl (List.mem_singleton.1 member)

theorem custody_eventsOf (attempts : List Attempt) (v : Vault) :
    v.Custody (vaultAfter attempts v) (Journal.issued (eventsOf attempts v)) [] := by
  induction attempts generalizing v with
  | nil => exact .refl v
  | cons attempt rest ih =>
      rw [eventsOf, Journal.issued_append]
      exact (attempt.custody v).trans (ih (attempt.vault v))

/-- The secrets that an ending leaves unwiped: the new password, if it was confirmed or if the
prompt for its confirmation was interrupted. -/
def Ending.held (v : Vault) : Ending → List SecretId
  | confirmed text | interruptedRetyping text => [(v.issue text).1]
  | ended | blank | interrupted => []

theorem Ending.custody (ending : Ending) (v : Vault) :
    v.Custody (ending.vault v) (Journal.issued (ending.events v)) (ending.held v) := by
  cases ending with
  | ended | interrupted => exact .refl v
  | blank => exact (Vault.Custody.issue "" v).wiped_again
  | confirmed password =>
      have again := (Vault.Custody.issue password (v.issue password).2).wiped_again
      exact (Vault.Custody.issue password v).trans again
  | interruptedRetyping first => exact .issue first v

/-- The secrets that a dialogue leaves unwiped. -/
def Dialogue.held (d : Dialogue) (v : Vault) : List SecretId :=
  d.ending.held (vaultAfter d.attempts v)

/-- A dialogue leaves no secret behind but those that its ending leaves. -/
theorem Dialogue.custody (d : Dialogue) (v : Vault) :
    v.Custody (d.vault v) (Journal.issued (d.events v)) (d.held v) := by
  rw [events, Journal.issued_append]
  exact (custody_eventsOf d.attempts v).trans (d.ending.custody _)

/-- A secret that an ending leaves unwiped was made from the text that was typed last at the
first prompt, and holds it. -/
theorem Ending.contents_held {ending : Ending} {v : Vault} {s : SecretId}
    (held : s ∈ ending.held v) :
    s ∈ Journal.issued (ending.events v) ∧ ∃ text,
      (ending = .confirmed text ∨ ending = .interruptedRetyping text) ∧
        (ending.vault v).contents s = text.toUTF8 := by
  cases ending with
  | ended | blank | interrupted => cases held
  | confirmed password =>
      cases List.mem_singleton.1 held
      have again := (Vault.Custody.issue password (v.issue password).2).wiped_again
      refine ⟨List.mem_cons_self .., password, Or.inl rfl, ?_⟩
      exact (Vault.Extends.contents_eq (Vault.fresh_issue password v) again.kept).trans
        (Vault.contents_issue password v)
  | interruptedRetyping first =>
      cases List.mem_singleton.1 held
      exact ⟨List.mem_cons_self .., first, Or.inr rfl, Vault.contents_issue first v⟩

end PasswordChange.Confirmation
