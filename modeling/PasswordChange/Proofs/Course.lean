import PasswordChange.Proofs.Service

/-!
# The course of a run

A run that comes to a record holds one conversation there. Its course is determined by what comes
of the conversation.

* `Changer.Talked` says what the conversation leaves in the world after the run: what answers are
  left, which secrets were made and wiped, and which events happened around it.
* `Changer.Concludes` lists the three ways in which the run can end, with the state of the
  directory.
* `Changer.run_course` says that every run takes this course, unless it is stopped before the
  conversation.
-/

namespace PasswordChange

/-- The events between two worlds. -/
def World.since {D H : Type} (w w' : World D H) : Journal :=
  w'.journal.drop w.journal.length

theorem World.since_of_journal_eq {D H : Type} {w w' : World D H} {added : Journal}
    (grown : w'.journal = w.journal ++ added) : w.since w' = added := by
  rw [since, grown, List.drop_left]

namespace Confirmation.Conversation

/-- The vault after a conversation whose secrets have been wiped. -/
def settled (v : Vault) (talk : Conversation) : Vault :=
  let v' := (talk.old? v).elim (talk.vault v) fun s => (talk.vault v).wipe s
  (talk.new? v).elim v' fun s => v'.wipe s

end Confirmation.Conversation

namespace Changer

open Confirmation

variable {D H : Type} [Directory D] [Host H]

/-- What the conversation leaves in the world: all but the directory and the host, which have
their own events before the conversation and after it. -/
structure Talked (request : Request) (talk : Conversation) (w w' : World D H)
    (prelude rest : List Event) : Prop where
  vault : w'.vault = talk.settled w.vault
  answers : w'.answers = talk.rest
  journal :
    w'.journal = w.journal ++ prelude ++ talk.events (oldPrompt request) w.vault ++ rest

/-- How a run concludes after its conversation: what it returns, the state of the directory and
the events after the conversation. -/
inductive Concludes (R : D → D → Prop) (c : Changer) (request : Request) (found : Found)
    (location : Location) (talk : Conversation) (v : Vault) (d : D) :
    Except Failure Outcome → D → List Event → Prop where
  | interrupted {d' : D} {rest : List Event} : talk.resolution = .interrupted → R d d' →
      (∀ event ∈ rest, event.isBackstage = true) →
      Concludes R c request found location talk v d (.error .interrupted) d' rest
  | declined {d' : D} {rest : List Event} : talk.resolution = .declined → R d d' →
      (∀ event ∈ rest, event.isBackstage = true) →
      Concludes R c request found location talk v d
        (.ok ⟨some request.username, false, c.needsAuthentication location, location⟩) d' rest
  | submitted {password : String} {d' : D} {rest : List Event} {step : Step D Unit} :
      talk.resolution = .confirmed password →
      step = submissionOf found.record request (c.needsAuthentication location) talk v d →
      R step.state d' → (∀ event ∈ rest, event.isBackstage = true) →
      Concludes R c request found location talk v d
        (step.outcome.map fun _ =>
          ⟨some request.username, true, c.needsAuthentication location, location⟩) d'
        (.logged (intention request (c.needsAuthentication location)) :: step.events ++ rest)

/-- A run that has reached a record takes this course. -/
structure Course (R : D → D → Prop) (c : Changer) (request : Request) (w : World D H)
    (found : Found) (values : List (Option String)) (w₀ w₁ : World D H) (talk : Conversation)
    (prelude rest : List Event) : Prop where
  reached : Reached R c request w found values w₀ w₁
  held : Conversation.of (c.needsAuthentication (found.canonical values)) w.answers = talk
  announced : ∀ event ∈ prelude, IsPrelude request event
  talked : Talked request talk w (c.run request w).2 prelude rest
  concludes : Concludes R c request found (found.canonical values) talk w.vault w₁.directory
    (c.run request w).1 (c.run request w).2.directory rest

variable {R : D → D → Prop}

omit [Host H] in
/-- An exchange concludes in one of the three ways. -/
theorem exchange_concludes (refl : ∀ d, R d d) (c : Changer) (request : Request) (found : Found)
    (values : List (Option String)) {talk : Conversation} {w : World D H}
    (held : Conversation.of (c.needsAuthentication (found.canonical values)) w.answers = talk) :
    ∃ rest, Talked request talk w (c.reachedExchange request found values w).2 [] rest ∧
      Concludes R c request found (found.canonical values) talk w.vault w.directory
        (c.reachedExchange request found values w).1
        (c.reachedExchange request found values w).2.directory rest := by
  unfold reachedExchange
  generalize found.canonical values = location at held ⊢
  rcases resolved : talk.resolution with _ | _ | password
  case interrupted =>
    rw [exchange_of_interrupted found.record request location held resolved]
    have none : talk.new? w.vault = none := talk.new?_of_interrupted resolved w.vault
    refine ⟨[], ⟨?_, rfl, ?_⟩, .interrupted resolved (refl _) (by simp)⟩
    · simp [wiped, Conversation.settled, Conversation.after, none]
    · simp [wiped, Conversation.after]
  case declined =>
    rw [exchange_of_declined found.record request location held resolved]
    have none : talk.new? w.vault = none := (talk.held_of_declined resolved w.vault).1
    refine ⟨[], ⟨?_, rfl, ?_⟩, .declined resolved (refl _) (by simp)⟩
    · simp [wiped, Conversation.settled, Conversation.after, none]
    · simp [wiped, Conversation.after]
  case confirmed =>
    rw [exchange_of_confirmed found.record request location held resolved]
    have kinds (outcome : Except Failure Unit) :
        ∀ event ∈ report request location outcome, event.isBackstage = true := by
      cases outcome <;> simp [report, Event.isBackstage]
    let step := submissionOf found.record request (c.needsAuthentication location) talk w.vault
      w.directory
    refine ⟨_, ⟨rfl, rfl, ?_⟩, .submitted resolved rfl (refl _) (kinds step.outcome)⟩
    simp [concluded, step]

theorem Concludes.after (trans : ∀ d₁ d₂ d₃, R d₁ d₂ → R d₂ d₃ → R d₁ d₃) {c : Changer}
    {request : Request} {found : Found} {location : Location} {talk : Conversation} {v : Vault}
    {d d₁ d₂ : D} {result : Except Failure Outcome} {rest more : List Event}
    (first : Concludes R c request found location talk v d result d₁ rest) (later : R d₁ d₂)
    (backstage : ∀ event ∈ more, event.isBackstage = true) :
    Concludes R c request found location talk v d result d₂ (rest ++ more) := by
  cases first with
  | interrupted resolved kept quiet =>
      exact .interrupted resolved (trans _ _ _ kept later)
        (List.forall_mem_append.2 ⟨quiet, backstage⟩)
  | declined resolved kept quiet =>
      exact .declined resolved (trans _ _ _ kept later)
        (List.forall_mem_append.2 ⟨quiet, backstage⟩)
  | submitted resolved step kept quiet =>
      rw [List.append_assoc]
      exact .submitted resolved step (trans _ _ _ kept later)
        (List.forall_mem_append.2 ⟨quiet, backstage⟩)

/-- **A run is stopped before the conversation, or it takes its course at a record.** -/
theorem run_course (laws : Directory.LookupFrame (D := D) R (·.isBackstage = true))
    (host : Host.Emits (H := H) (·.isBackstage = true)) (c : Changer) (request : Request)
    (w : World D H) :
    Stopped R c request w ∨
    ∃ found values w₀ w₁ talk prelude rest,
      Course R c request w found values w₀ w₁ talk prelude rest := by
  rcases c.run_reaches laws host request w with
    stopped | ⟨found, values, w₀, w₁, reached, outcome, after⟩
  · exact Or.inl stopped
  · obtain ⟨early, journal₀, kind₀⟩ := reached.backstage.journal
    obtain ⟨late, journal₁, kind₁⟩ := reached.readied.journal
    obtain ⟨last, journal₂, kind₂⟩ := after.journal
    have answers : w₁.answers = w.answers :=
      reached.readied.answers.trans reached.backstage.answers
    have vault : w₁.vault = w.vault := reached.readied.vault.trans reached.backstage.vault
    obtain ⟨rest, talked, concludes⟩ := exchange_concludes (R := R) laws.refl c request found
      values (w := w₁) rfl
    rw [answers] at talked concludes
    rw [vault] at concludes
    refine Or.inr ⟨found, values, w₀, w₁, _, early ++ late, rest ++ last, reached, rfl,
      List.forall_mem_append.2 ⟨fun event member => Or.inl (kind₀ event member), kind₁⟩, ?_, ?_⟩
    · refine ⟨?_, ?_, ?_⟩
      · rw [after.vault, ← vault]
        exact talked.vault
      · rw [after.answers]
        exact talked.answers
      · rw [journal₂, ← List.append_assoc, ← List.append_assoc, ← journal₀, ← journal₁, ← vault]
        exact congrArg (· ++ last) (talked.journal.trans (by rw [List.append_nil]))
    · rw [outcome]
      have trans (d₁ d₂ d₃ : D) : R d₁ d₂ → R d₂ d₃ → R d₁ d₃ := laws.trans
      exact concludes.after trans after.directory kind₂

/-! ## The events of a run -/

/-- A run only adds to the journal. -/
theorem run_grows (laws : Directory.LookupFrame (D := D) R (·.isBackstage = true))
    (host : Host.Emits (H := H) (·.isBackstage = true)) (c : Changer) (request : Request)
    (w : World D H) : w.journal <+: (c.run request w).2.journal := by
  rcases c.run_course laws host request w with
    stopped | ⟨found, values, w₀, w₁, talk, prelude, rest, course⟩
  · obtain ⟨added, grown, _⟩ := stopped.backstage.journal
    exact ⟨added, grown.symm⟩
  · rw [course.talked.journal, List.append_assoc, List.append_assoc]
    exact List.prefix_append _ _

theorem Stopped.since {c : Changer} {request : Request} {w : World D H}
    (stopped : Stopped R c request w) :
    ∀ event ∈ w.since (c.run request w).2, event.isBackstage = true := by
  obtain ⟨added, grown, backstage⟩ := stopped.backstage.journal
  rw [World.since_of_journal_eq grown]
  exact backstage

theorem Course.since {c : Changer} {request : Request} {w w₀ w₁ : World D H} {found : Found}
    {values : List (Option String)} {talk : Conversation} {prelude rest : List Event}
    (course : Course R c request w found values w₀ w₁ talk prelude rest) :
    w.since (c.run request w).2 =
      prelude ++ talk.events (oldPrompt request) w.vault ++ rest := by
  refine World.since_of_journal_eq ?_
  rw [course.talked.journal]
  simp only [List.append_assoc]

/-- After the conversation there are neither prompts nor new secrets. -/
theorem Concludes.silent (discreet : Directory.Discreet D) {c : Changer} {request : Request}
    {found : Found} {location : Location} {talk : Conversation} {v : Vault} {d d' : D}
    {result : Except Failure Outcome} {rest : List Event}
    (concludes : Concludes R c request found location talk v d result d' rest) :
    ∀ event ∈ rest, event.isSilent = true := by
  cases concludes with
  | interrupted _ _ quiet | declined _ _ quiet =>
      exact fun event member => Event.isSilent_of_isBackstage (quiet event member)
  | submitted _ step _ quiet =>
      refine List.forall_mem_append.2 ⟨List.forall_mem_cons.2 ⟨rfl, ?_⟩,
        fun event member => Event.isSilent_of_isBackstage (quiet event member)⟩
      rw [step]
      unfold submissionOf submission
      split
      · exact discreet.setCredentials _ _ _ _ _ _
      · exact discreet.changePassword _ _ _ _ _

theorem IsPrelude.isSilent {request : Request} {event : Event}
    (isPrelude : IsPrelude request event) : event.isSilent = true := by
  rcases isPrelude with backstage | rfl
  · exact Event.isSilent_of_isBackstage backstage
  · rfl

/-- **The prompts of a run and the secrets it makes are those of its conversation.** -/
theorem Course.shown (discreet : Directory.Discreet D) {c : Changer} {request : Request}
    {w w₀ w₁ : World D H} {found : Found} {values : List (Option String)} {talk : Conversation}
    {prelude rest : List Event}
    (course : Course R c request w found values w₀ w₁ talk prelude rest) :
    (w.since (c.run request w).2).prompts = talk.prompts (oldPrompt request) ∧
      (w.since (c.run request w).2).issued =
        Journal.issued (talk.events (oldPrompt request) w.vault) := by
  have early := Journal.prompts_of_isSilent fun event member =>
    (course.announced event member).isSilent
  have late := Journal.prompts_of_isSilent (course.concludes.silent discreet)
  rw [course.since]
  constructor
  · rw [Journal.prompts_append, Journal.prompts_append, early.1, late.1, List.nil_append,
      List.append_nil, Conversation.prompts_events]
  · rw [Journal.issued_append, Journal.issued_append, early.2, late.2, List.nil_append,
      List.append_nil]

end Changer

end PasswordChange
