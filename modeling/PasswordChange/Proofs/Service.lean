import PasswordChange.Changer.Run
import PasswordChange.Proofs.Backstage
import PasswordChange.Proofs.Conversation
import PasswordChange.Proofs.Locating

/-!
# The service at a record

Once a record is found, its location is read, the conversation is held, and the new password is
submitted if it was confirmed.

* `Changer.exchange_of_confirmed` says that a confirmed conversation leads to exactly one
  `Changer.submission`; an interrupted or declined one leaves the directory alone.
* `Changer.run_reaches` ties this to a whole run: all that is before the conversation and after
  it happens backstage, but for the line that announces it.
-/

namespace PasswordChange.Changer

open Confirmation

variable {D H : Type} [Directory D] [Host H]

/-! ## The commit -/

/-- The credential operation of a commit. -/
def submission (record : HandleId) (request : Request) (needsAuth : Bool)
    (old new : Directory.Item) (v : Vault) : D → Step D Unit :=
  if needsAuth then
    Directory.setCredentials v record Directory.userRecords Directory.setPassword
      [.text request.username, new, .text request.authname, old]
  else Directory.changePassword v record old new

/-- What the log says before a commit. -/
def intention (request : Request) (needsAuth : Bool) : Log.Entry :=
  ⟨.flow, .debug,
    if needsAuth then "set-password for " ++ request.username ++ " as " ++ request.authname
    else "change-password for " ++ request.username⟩

omit [Host H] in
theorem commit_eq (record : HandleId) (request : Request) (needsAuth : Bool)
    (old new : Directory.Item) (w : World D H) :
    commit record request needsAuth old new w =
      ((submission record request needsAuth old new w.vault w.directory).outcome,
        { w with
          directory := (submission record request needsAuth old new w.vault w.directory).state
          journal := w.journal ++ .logged (intention request needsAuth) ::
            (submission record request needsAuth old new w.vault w.directory).events }) := by
  cases needsAuth <;>
    simp [commit, submission, intention, Act.log, Act.note, Act.submit, Act.perform,
      Act.bind_eq_andThen, Act.andThen]

omit [Host H] in
/-- The secrets are wiped after a commit, whether it succeeds or not. -/
theorem settle_eq (record : HandleId) (request : Request) (needsAuth : Bool)
    (old : Option SecretId) (new : SecretId) (w : World D H) :
    let step := submission record request needsAuth (.ofSecret? old) (.secret new) w.vault
      w.directory
    (commit record request needsAuth (.ofSecret? old) (.secret new)).always
        (do Act.wipe? old; Act.wipe new) w =
      (step.outcome,
        { wiped (some new) (wiped old w) with
          directory := step.state
          journal := w.journal ++ .logged (intention request needsAuth) :: step.events }) := by
  intro step
  refine Act.always_of_ok (commit_eq record request needsAuth _ _ w) ?_
  cases old <;> rfl

/-! ## The exchange -/

/-- The label of the prompt for the old password. -/
def oldPrompt (request : Request) : String :=
  Policy.oldPasswordPrompt request.username request.authname

/-- The entry that the log gets after a commit that succeeded. -/
def report (request : Request) (location : Location) : Except Failure Unit → List Event
  | .ok _ => [.logged ⟨.flow, .info,
      "password changed for " ++ request.username ++ " at " ++ location.shown⟩]
  | .error _ => []

/-- The world after a conversation that was confirmed and submitted in the given step. -/
def concluded (request : Request) (location : Location) (needsAuth : Bool) (talk : Conversation)
    (step : Step D Unit) (w : World D H) : World D H :=
  { wiped (talk.new? w.vault) (wiped (talk.old? w.vault) (talk.after (oldPrompt request) w)) with
    directory := step.state
    journal := w.journal ++ talk.events (oldPrompt request) w.vault ++
      .logged (intention request needsAuth) :: step.events ++
        report request location step.outcome }

/-- The submission to which a conversation leads. -/
def submissionOf (record : HandleId) (request : Request) (needsAuth : Bool)
    (talk : Conversation) (v : Vault) : D → Step D Unit :=
  submission record request needsAuth (.ofSecret? (talk.old? v)) (.ofSecret? (talk.new? v))
    (talk.vault v)

section Exchange

variable (record : HandleId) (request : Request) (location : Location) {needsAuth : Bool}
  {w : World D H} {talk : Conversation} (held : Conversation.of needsAuth w.answers = talk)

include held

omit [Host H] in
theorem exchange_of_interrupted (interrupted : talk.resolution = .interrupted) :
    exchange record request location needsAuth w =
      (.error .interrupted, wiped (talk.old? w.vault) (talk.after (oldPrompt request) w)) := by
  have collected := collect_eq request needsAuth w
  rw [held] at collected
  simp only [Conversation.collected, Conversation.left, interrupted] at collected
  exact Act.andThen_of_error collected

omit [Host H] in
theorem exchange_of_declined (declined : talk.resolution = .declined) :
    exchange record request location needsAuth w =
      (.ok ⟨some request.username, false, needsAuth, location⟩,
        wiped (talk.old? w.vault) (talk.after (oldPrompt request) w)) := by
  have collected := collect_eq request needsAuth w
  rw [held] at collected
  obtain ⟨none, _⟩ := talk.held_of_declined declined w.vault
  simp only [Conversation.collected, Conversation.left, declined, none] at collected
  refine (Act.andThen_of_ok collected).trans ?_
  exact Act.always_of_ok rfl (wipe?_eq _ _)

omit [Host H] in
/-- A confirmed conversation leads to one submission. -/
theorem exchange_of_confirmed {password : String}
    (confirmed : talk.resolution = .confirmed password) :
    let step := submissionOf record request needsAuth talk w.vault w.directory
    exchange record request location needsAuth w =
      (step.outcome.map fun _ => ⟨some request.username, true, needsAuth, location⟩,
        concluded request location needsAuth talk step w) := by
  intro step
  have collected := collect_eq request needsAuth w
  rw [held] at collected
  obtain ⟨new, given, _⟩ := talk.new?_of_confirmed confirmed w.vault
  simp only [Conversation.collected, Conversation.left, confirmed, given] at collected
  refine (Act.andThen_of_ok collected).trans ?_
  have settled := settle_eq record request needsAuth (talk.old? w.vault) new
    (talk.after (oldPrompt request) w)
  have same : step = submission record request needsAuth (.ofSecret? (talk.old? w.vault))
      (.secret new) (talk.vault w.vault) w.directory := by
    simp only [step, submissionOf, given, Directory.Item.ofSecret?]
  simp only [Conversation.after, ← same] at settled
  clear_value step
  obtain ⟨_ | _, state, events⟩ := step
  case error e =>
    refine (Act.andThen_of_error settled).trans ?_
    simp [concluded, report, given, Except.map, wiped, Conversation.after]
  case ok =>
    refine (Act.andThen_of_ok settled).trans ?_
    simp [concluded, report, given, Except.map, wiped, Conversation.after, Act.log, Act.note,
      Act.bind_eq_andThen, Act.andThen, Act.pure_eq_value, Act.value]

end Exchange

/-! ## The service within a run -/

/-- The line that announces the conversation. -/
def greeting (request : Request) : String :=
  "Changing password for " ++ request.username ++ "."

/-- The event happened backstage or is the announcement. -/
def IsPrelude (request : Request) (event : Event) : Prop :=
  event.isBackstage = true ∨ event = .said (greeting request)

/-- A run has failed before the conversation: it has found no record, or it could not read the
values of the one it found. -/
structure Stopped (R : D → D → Prop) (c : Changer) (request : Request) (w : World D H) : Prop where
  failed : ∃ e, (c.run request w).1 = .error e
  backstage : Backstage R (·.isBackstage = true) w (c.run request w).2
  unread (found : Found) (w₀ : World D H) : c.locate request w = (.ok found, w₀) →
    ∃ e, (Directory.copyValues found.record Directory.metanodeLocation w₀.directory).outcome =
      .error e

/-- A run has found a record in the world `w₀`, has read its values there and goes on to the
exchange in the world `w₁`. -/
structure Reached (R : D → D → Prop) (c : Changer) (request : Request) (w : World D H)
    (found : Found) (values : List (Option String)) (w₀ w₁ : World D H) : Prop where
  located : c.locate request w = (.ok found, w₀)
  backstage : Backstage R (·.isBackstage = true) w w₀
  read : (Directory.copyValues found.record Directory.metanodeLocation w₀.directory).outcome =
    .ok values
  directory : w₁.directory =
    (Directory.copyValues found.record Directory.metanodeLocation w₀.directory).state
  readied : Backstage R (IsPrelude request) w₀ w₁

/-- The location that decides about a record that was found. -/
def Found.canonical (found : Found) (values : List (Option String)) : Location :=
  Policy.canonicalLocation values found.location

/-- The exchange to which a run comes. -/
def reachedExchange (c : Changer) (request : Request) (found : Found)
    (values : List (Option String)) : Act D H Outcome :=
  exchange found.record request (found.canonical values)
    (c.needsAuthentication (found.canonical values))

/-- The entry that the log gets for a record that was found. -/
def sighting (c : Changer) (request : Request) (location : Location) : Log.Entry :=
  ⟨.flow, .debug, "record " ++ request.username ++ " at " ++ location.shown ++ ", needs_auth="
    ++ Value.quotedBool (c.needsAuthentication location)⟩

/-- The world in which the record has been announced. -/
def announced (c : Changer) (request : Request) (location : Location) (w : World D H) :
    World D H :=
  { w with journal := w.journal ++
      [.said (greeting request), .logged (c.sighting request location)] }

omit [Host H] in
/-- After its values were read, the record is announced and the exchange begins. -/
theorem attend_of_read (c : Changer) (request : Request) {found : Found}
    {values : List (Option String)} {w w₁ : World D H}
    (read : Act.perform (Directory.copyValues found.record Directory.metanodeLocation) w =
      (.ok values, w₁)) :
    c.attend request found w =
      c.reachedExchange request found values
        (c.announced request (found.canonical values) w₁) := by
  refine (Act.andThen_of_ok read).trans ?_
  simp only [announced, Terminal.say, Act.log, Act.note, Act.bind_eq_andThen, Act.andThen,
    List.append_assoc]
  rfl

variable {R : D → D → Prop} (laws : Directory.LookupFrame (D := D) R (·.isBackstage = true))

include laws

omit [Host H] in
/-- At the record, either its location cannot be read or the exchange follows. -/
theorem attend_cases (c : Changer) (request : Request) (found : Found) (w : World D H) :
    (∃ e, (c.attend request found w).1 = .error e ∧
      (Directory.copyValues found.record Directory.metanodeLocation w.directory).outcome =
        .error e ∧
      Backstage R (·.isBackstage = true) w (c.attend request found w).2) ∨
    ∃ values w₁,
      (Directory.copyValues found.record Directory.metanodeLocation w.directory).outcome =
        .ok values ∧
      w₁.directory =
        (Directory.copyValues found.record Directory.metanodeLocation w.directory).state ∧
      Backstage R (IsPrelude request) w w₁ ∧
      c.attend request found w = c.reachedExchange request found values w₁ := by
  have kept := laws.copyValues found.record Directory.metanodeLocation w.directory
  rcases read : Directory.copyValues found.record Directory.metanodeLocation w.directory with
    ⟨_ | values, state, events⟩ <;> rw [read] at kept
  case error e =>
    have failed : c.attend request found w =
        (.error e, { w with directory := state, journal := w.journal ++ events }) := by
      refine Act.andThen_of_error ?_
      simp [Act.perform, read]
    rw [failed]
    exact Or.inl ⟨e, rfl, rfl, rfl, rfl, kept.1, events, rfl, kept.2⟩
  case ok =>
    have performed : Act.perform
        (Directory.copyValues found.record Directory.metanodeLocation) w =
        (.ok values, { w with directory := state, journal := w.journal ++ events }) := by
      simp [Act.perform, read]
    refine Or.inr ⟨values, _, rfl, ?_, ?_, c.attend_of_read request performed⟩
    · rfl
    · refine ⟨rfl, rfl, kept.1, _, List.append_assoc .., ?_⟩
      intro event member
      rcases List.mem_append.1 member with early | late
      · exact Or.inl (kept.2 event early)
      · rcases List.mem_cons.1 late with rfl | last
        · exact Or.inr rfl
        · rw [List.mem_singleton.1 last]
          exact Or.inl rfl

/-- **A run is stopped backstage, or it comes to an exchange and ends as the exchange ends.** -/
theorem run_reaches (host : Host.Emits (H := H) (·.isBackstage = true)) (c : Changer)
    (request : Request) (w : World D H) :
    Stopped R c request w ∨
    ∃ found values w₀ w₁, Reached R c request w found values w₀ w₁ ∧
      (c.run request w).1 = (c.reachedExchange request found values w₁).1 ∧
      Backstage R (·.isBackstage = true) (c.reachedExchange request found values w₁).2
        (c.run request w).2 := by
  rcases c.run_cases laws host (fun _ _ => rfl) request w with
    ⟨e, failed, unlocated, kept⟩ | ⟨found, w₀, located, before, outcome, after⟩
  · refine Or.inl ⟨⟨e, ?_⟩, ?_, ?_⟩
    · rw [failed]
    · rw [failed]
      exact kept
    · intro found w₀ located
      rw [located] at unlocated
      cases unlocated
  · rcases c.attend_cases laws request found w₀ with
      ⟨e, failed, unread, kept⟩ | ⟨values, w₁, read, directory, readied, served⟩
    · refine Or.inl ⟨⟨e, outcome.trans failed⟩, ?_, ?_⟩
      · have first := before.trans (fun _ _ _ => laws.trans) kept
        exact first.trans (fun _ _ _ => laws.trans) after
      · intro found' w₀' located'
        rw [located] at located'
        cases located'
        exact ⟨e, unread⟩
    · rw [served] at outcome after
      exact Or.inr ⟨found, values, w₀, w₁, ⟨located, before, read, directory, readied⟩,
        outcome, after⟩

end PasswordChange.Changer
