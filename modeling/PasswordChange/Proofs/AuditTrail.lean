import PasswordChange.Proofs.History
import PasswordChange.Proofs.Trail
import PasswordChange.Proofs.Wiping

/-!
# The log as an audit trail

The log of a directory in memory can be relied on: whatever calls of the library are made on it,
its entries tell what was done, one by one and in order.

* `Changer.locate_tells` and `Changer.attend_tells` say which trail the two parts of a run leave.
* `Changer.run_tells` puts them together: a run leaves the trail of one tale, and the tale fits what
  the run did to the directory and what it asked.
* `Visit.tells` says so of a call of the library, and `log_faithful` of every sequence of calls,
  with anything done to the directory in between.
-/

namespace PasswordChange

open Confirmation
open Directory (Memory)

/-! ## Stretches of work and their trails -/

namespace World

variable {D H : Type} {w w₁ w₂ : World D H} {told told' : List Event}

/-- What was added to the journal has the given trail. -/
def Tells (w w' : World D H) (told : List Event) : Prop :=
  ∃ added, w'.journal = w.journal ++ added ∧ Journal.trail added = told

namespace Tells

theorem trans (first : Tells w w₁ told) (second : Tells w₁ w₂ told') :
    Tells w w₂ (told ++ told') := by
  obtain ⟨added, grown, rfl⟩ := first
  obtain ⟨more, grown', rfl⟩ := second
  refine ⟨added ++ more, ?_, Journal.trail_append added more⟩
  rw [grown', grown, List.append_assoc]

theorem of_backstage {R : D → D → Prop} (quiet : Backstage R (·.isTold = false) w w₁) :
    Tells w w₁ [] := by
  obtain ⟨added, grown, untold⟩ := quiet.journal
  exact ⟨added, grown, Journal.trail_eq_nil untold⟩

theorem of_aside (aside : Aside w w₁) : Tells w w₁ [] := by
  obtain ⟨added, grown, quiet⟩ := aside.journal
  refine ⟨added, grown, Journal.trail_eq_nil fun event member => ?_⟩
  have isAside := quiet event member
  cases event <;> first | rfl | cases isAside

theorem since (tells : Tells w w₁ told) : (w.since w₁).trail = told := by
  obtain ⟨added, grown, trail⟩ := tells
  rw [World.since_of_journal_eq grown]
  exact trail

end Tells

end World

/-! ## Up to the record -/

/-- Looking up a record tells nothing. -/
theorem Directory.Memory.untoldFrame :
    LookupFrame (D := Memory) Memory.Undisturbed (·.isTold = false) :=
  Memory.lookupFrame_of (fun _ _ lookup => lookup) fun _ => rfl

namespace Changer

variable {c : Changer} {request : Request} {found : Found}

/-- A session is opened without a loader, or with one that was announced. -/
theorem Opens.trail_eq {d d' : Memory} {host : Host.Scripted} {events : List Event}
    {result : Except Failure (HandleId × Location)}
    (opens : c.Opens request d host events d' result) :
    ∃ loader?, Journal.trail events = Tale.events { loader? } := by
  have loaded : Journal.trail c.loadingEvents =
      Tale.events { loader? := some (c.settings.loader, ["load", c.settings.daemonJob]) } := by
    rfl
  cases opens with
  | direct | refused | multiUser => exact ⟨none, by decide⟩
  | unstarted | unasked | exited => exact ⟨_, loaded⟩
  | loaded =>
      refine ⟨some (c.settings.loader, ["load", c.settings.daemonJob]), ?_⟩
      rw [Journal.trail_append, loaded]
      exact List.append_nil _

/-- **Up to the record a run tells of the loader, if it ran one.** -/
theorem locate_tells (c : Changer) (request : Request) (w : World Memory Host.Scripted) :
    ∃ loader?, w.Tells (c.locate request w).2 (Tale.events { loader? }) := by
  obtain ⟨events, d, result, way, opened⟩ := c.openSession_opens request w
  obtain ⟨loader?, trail⟩ := way.trail_eq
  have start : w.Tells { w with directory := d, journal := w.journal ++ events }
      (Tale.events { loader? }) := ⟨events, rfl, trail⟩
  refine ⟨loader?, ?_⟩
  rw [locate_eq_seek, Act.bind_eq_andThen]
  cases result with
  | error e =>
      rw [Act.andThen_of_error opened]
      exact start
  | ok session =>
      rw [Act.andThen_of_ok opened]
      have sought := seek_keeps (H := Host.Scripted) Memory.untoldFrame request session
        { w with directory := d, journal := w.journal ++ events }
      rw [← List.append_nil (Tale.events _)]
      exact start.trans (.of_backstage sought)

end Changer

/-! ## At the record -/

namespace Confirmation

/-- The old password could not be decoded. -/
def Conversation.isGarbled (talk : Conversation) : Bool :=
  talk.opening == .unreadable

theorem Attempt.trail_events (attempt : Attempt) (v : Vault) :
    Journal.trail (attempt.events v) = [] := by
  cases attempt <;> rfl

theorem trail_eventsOf (attempts : List Attempt) (v : Vault) :
    Journal.trail (eventsOf attempts v) = [] := by
  induction attempts generalizing v with
  | nil => rfl
  | cons attempt rest ih => rw [eventsOf, Journal.trail_append, attempt.trail_events, ih]; rfl

/-- A conversation leaves no trail, unless the old password was garbled. -/
theorem Conversation.trail_events (label : String) (v : Vault) (talk : Conversation) :
    Journal.trail (talk.events label v) =
      if talk.isGarbled then [.logged undecodedEntry] else [] := by
  obtain ⟨opening, dialogue?, rest⟩ := talk
  have last : Journal.trail (dialogue?.elim [] fun d => d.events (opening.vault v)) = [] := by
    cases dialogue? with
    | none => rfl
    | some d =>
        have ending : Journal.trail (d.ending.events (vaultAfter d.attempts (opening.vault v))) =
            [] := by
          cases d.ending <;> rfl
        show Journal.trail (d.events (opening.vault v)) = []
        rw [Dialogue.events, Journal.trail_append, trail_eventsOf, ending]
        rfl
  rw [events, Journal.trail_append, last, List.append_nil]
  cases opening <;> rfl

/-- The old password was garbled exactly if the first prompt asked for it and the first answer
could not be decoded. -/
theorem Conversation.isGarbled_iff {needsAuth : Bool} {answers : List Answer} {label : String}
    (other : label ≠ newPrompt ∧ label ≠ retypePrompt) :
    (Conversation.of needsAuth answers).isGarbled = true ↔
      ((Conversation.of needsAuth answers).prompts label).head? = some label ∧
        answers.head? = some .undecodable := by
  cases needsAuth with
  | true =>
      rw [Conversation.head?_prompts]
      rcases answers with _ | ⟨_ | _ | _ | _, rest⟩ <;>
        simp [Conversation.of, isGarbled, Opening.before]
  | false =>
      constructor
      · intro garbled
        cases garbled
      · rintro ⟨first, _⟩
        have shown : label ∈ (Dialogue.of answers).prompts := List.mem_of_mem_head? first
        rcases Dialogue.mem_prompts _ label shown with same | same
        · exact absurd same other.1
        · exact absurd same other.2

end Confirmation

namespace Changer

variable {c : Changer} {request : Request} {found : Found} {talk : Conversation} {node : String}

/-- The submission of a confirmed conversation. -/
def confirmedSubmission (request : Request) (needsAuth : Bool) (talk : Conversation)
    (password : String) : Submission where
  username := request.username
  password := password
  voucher? := if needsAuth then some (request.authname, talk.opening.password?) else none

theorem call_confirmedSubmission (request : Request) (needsAuth : Bool) (talk : Conversation)
    (password : String) : (confirmedSubmission request needsAuth talk password).call =
      submittedCall request needsAuth talk password := by
  cases needsAuth <;> rfl

theorem intention_confirmedSubmission (request : Request) (needsAuth : Bool)
    (talk : Conversation) (password : String) :
    (confirmedSubmission request needsAuth talk password).intention =
      intention request needsAuth := by
  cases needsAuth <;> rfl

/-- What comes of the conversation at a record in the given node of a directory. -/
def upshotOf? (request : Request) (needsAuth : Bool) (talk : Conversation) (node : String)
    (d : Memory) : Option Upshot :=
  match talk.resolution with
  | .interrupted | .declined => none
  | .confirmed password =>
    let submission := confirmedSubmission request needsAuth talk password
    some (match clearance request needsAuth talk node d with
      | .ok _ => .accepted ⟨submission, node⟩
      | .error _ => .refused submission)

/-- The tale of the conversation at that record. -/
def taleOf (request : Request) (needsAuth : Bool) (talk : Conversation) (node : String)
    (d : Memory) : Tale where
  garbled := talk.isGarbled
  upshot? := upshotOf? request needsAuth talk node d

/-- The events after a confirmed conversation, up to the report, are those of its upshot. -/
theorem trail_submitted {needsAuth : Bool} {answers : List Answer} {password : String}
    {d : Memory} (held : Conversation.of needsAuth answers = talk)
    (confirmed : talk.resolution = .confirmed password) {record : HandleId}
    (denotes : d.Denotes record node request.username) (v : Vault) :
    let step := submissionOf record request needsAuth talk v d
    Journal.trail (.logged (intention request needsAuth) :: step.events ++
      report request (.named node) step.outcome) =
        (upshotOf? request needsAuth talk node d).elim [] Upshot.events := by
  intro step
  have replacing : step = _ := submissionOf_eq_replacing_call held confirmed denotes v
  rw [replacing, ← call_confirmedSubmission, ← intention_confirmedSubmission request needsAuth talk
    password]
  unfold upshotOf? Memory.replacing
  rw [confirmed]
  cases clearance request needsAuth talk node d with
  | ok _ => exact Upshot.trail_events (.accepted ⟨_, node⟩)
  | error e => exact Upshot.trail_events (.refused _)

/-- An exchange tells of a garbled password and of what came of the conversation. -/
theorem exchange_tells {needsAuth : Bool} {record : HandleId} {w : World Memory Host.Scripted}
    (denotes : w.directory.Denotes record node request.username)
    (held : Conversation.of needsAuth w.answers = talk) :
    w.Tells (exchange record request (.named node) needsAuth w).2
      (taleOf request needsAuth talk node w.directory).events := by
  have talked := talk.trail_events (oldPrompt request) w.vault
  have events : (taleOf request needsAuth talk node w.directory).events =
      Journal.trail (talk.events (oldPrompt request) w.vault) ++
        (upshotOf? request needsAuth talk node w.directory).elim [] Upshot.events := by
    rw [talked]
    rfl
  rw [events]
  rcases resolved : talk.resolution with _ | _ | password
  case interrupted =>
    rw [exchange_of_interrupted record request (.named node) held resolved]
    exact ⟨_, rfl, by simp [upshotOf?, resolved]⟩
  case declined =>
    rw [exchange_of_declined record request (.named node) held resolved]
    exact ⟨_, rfl, by simp [upshotOf?, resolved]⟩
  case confirmed =>
    rw [exchange_of_confirmed record request (.named node) held resolved,
      ← trail_submitted held resolved denotes w.vault, ← Journal.trail_append]
    refine ⟨_, ?_, rfl⟩
    simp only [concluded, List.append_assoc]

/-- The entry about a record that was found tells of nothing else. -/
theorem isTold_sighting (c : Changer) (request : Request) (location : Location) :
    (c.sighting request location).isTold = false := by
  have other : Text.startsWith "set-password for " (c.sighting request location).message = false ∧
      Text.startsWith "change-password for " (c.sighting request location).message = false := by
    simp [Text.startsWith, sighting, String.toList_append, List.isPrefixOf_cons_cons]
  have level : (c.sighting request location).level = .debug := rfl
  have unlike : c.sighting request location ≠ singleUserEntry := fun same => by
    rw [same] at level
    cases level
  simp [Log.Entry.isTold, Log.Entry.isChange, Log.Entry.isLoad, Log.Entry.isIntention,
    Log.Entry.isWarning, level, other, unlike]

/-- **At the record a run tells of a garbled password and of what came of the conversation.** -/
theorem attend_tells {w : World Memory Host.Scripted}
    (denotes : w.directory.Denotes found.record node request.username)
    (held : Conversation.of (c.needsAuthentication (.named node)) w.answers = talk) :
    w.Tells (c.attend request found w).2
      (taleOf request (c.needsAuthentication (.named node)) talk node w.directory).events := by
  have read : Act.perform (Directory.copyValues found.record Directory.metanodeLocation) w =
      (.ok [some node], w) := by
    have copied : Directory.copyValues found.record Directory.metanodeLocation w.directory = _ :=
      Memory.copyValues_eq denotes
    simp [Act.perform, copied, Step.ok]
  have announced : w.Tells (c.announced request (.named node) w) [] :=
    ⟨_, rfl, by simp [Journal.trail, Event.isTold, isTold_sighting]⟩
  have exchanged : c.attend request found w = exchange found.record request (.named node)
      (c.needsAuthentication (.named node)) (c.announced request (.named node) w) :=
    c.attend_of_read request read
  rw [exchanged]
  exact announced.trans (exchange_tells denotes held)

end Changer

/-! ## A run -/

/-- The tale of a run fits the worlds before it and after it, and how it ended. -/
structure Tale.Fits (tale : Tale) (request : Request) (w w' : World Memory Host.Scripted)
    (result : Except Failure Outcome) : Prop where
  /-- The first prompt asked for the old password and the answer could not be decoded. -/
  garbled : tale.garbled = true ↔
    (w.since w').prompts.head? = some (Changer.oldPrompt request) ∧
      w.answers.head? = some .undecodable
  /-- What was overwritten is the user's entry in the node, and the run says so. -/
  overwritten (o : Overwriting) : tale.overwriting? = some o →
    o.submission.username = request.username ∧
      (∃ needsAuth, result = .ok ⟨some request.username, true, needsAuth, .named o.node⟩) ∧
      w.directory.Replaced w'.directory o.node o.submission.username o.submission.password
  /-- If nothing was overwritten, no account is changed, and the run does not say so either. -/
  untouched : tale.overwriting? = none →
    (∀ outcome, result = .ok outcome → outcome.changed = false) ∧
      Memory.Undisturbed w.directory w'.directory

namespace Changer

variable {c : Changer} {request : Request} {talk : Conversation} {node password : String}
  {d d' : Memory} {result : Except Failure Outcome}

theorem Changed.overwriting?_eq (changed : Changed c request talk node password d d' result) :
    (taleOf request (c.needsAuthentication (.named node)) talk node d).overwriting? = some
      ⟨confirmedSubmission request (c.needsAuthentication (.named node)) talk password, node⟩ := by
  simp only [Tale.overwriting?, taleOf, upshotOf?, changed.confirmed, changed.cleared]
  rfl

theorem Unchanged.overwriting?_eq (unchanged : Unchanged c request talk node d d' result) :
    (taleOf request (c.needsAuthentication (.named node)) talk node d).overwriting? = none := by
  unfold Tale.overwriting? taleOf upshotOf?
  rcases resolved : talk.resolution with _ | _ | password
  case interrupted | declined => rfl
  case confirmed =>
    have refused := unchanged.uncleared password resolved
    cases cleared : clearance request (c.needsAuthentication (.named node)) talk node d with
    | ok _ => exact absurd cleared refused
    | error e => rfl

/-- A run that is stopped before the conversation tells of the loader, if it ran one. -/
theorem Stopped.tells {w : World Memory Host.Scripted}
    (stopped : Stopped Memory.Undisturbed c request w) :
    ∃ loader?, w.Tells (c.run request w).2 (Tale.events { loader? }) ∧
      Tale.Fits { loader? } request w (c.run request w).2 (c.run request w).1 := by
  obtain ⟨loader?, before⟩ := c.locate_tells request w
  refine ⟨loader?, ?_, ?_⟩
  · rcases located : c.locate request w with ⟨e | found, w₁⟩ <;> rw [located] at before
    · rw [run_of_unlocated located]
      exact before
    · -- The location of a record that was found can be read.
      obtain ⟨e, unread⟩ := stopped.unread found w₁ located
      obtain ⟨node, denotes⟩ := denotes_of_located located
      have copied :
          Directory.copyValues found.record Directory.metanodeLocation w₁.directory = _ :=
        Memory.copyValues_eq denotes
      rw [copied] at unread
      cases unread
  · have silent := Journal.prompts_of_isSilent fun event member =>
      Event.isSilent_of_isBackstage (stopped.since event member)
    obtain ⟨e, failed⟩ := stopped.failed
    refine ⟨?_, nofun, fun _ => ⟨?_, stopped.backstage.directory⟩⟩
    · rw [silent.1]
      simp
    · intro outcome same
      rw [failed] at same
      cases same

/-- A run that takes its course tells of the loader, of a garbled password and of what came of the
conversation. -/
theorem Course.tells {w w₀ w₁ : World Memory Host.Scripted} {found : Found}
    {values : List (Option String)} {prelude rest : List Event}
    (course : Course Memory.Undisturbed c request w found values w₀ w₁ talk prelude rest) :
    ∃ tale : Tale, w.Tells (c.run request w).2 tale.events ∧
      tale.Fits request w (c.run request w).2 (c.run request w).1 := by
  obtain ⟨loader?, before⟩ := c.locate_tells request w
  obtain ⟨node, denotes, held, changes⟩ := course.changes
  have located := course.reached.located
  have answers := course.reached.backstage.answers
  have lookup := course.reached.backstage.directory
  rw [located] at before
  rw [← answers] at held
  have service : w₀.Tells (c.attend request found w₀).2 _ := attend_tells denotes held
  have after := World.Tells.of_backstage
    (run_of_located (H := Host.Scripted) Memory.untoldFrame located).2
  refine ⟨{ taleOf request (c.needsAuthentication (.named node)) talk node w₀.directory with
    loader? }, ?_, ?_⟩
  · rw [Tale.events_with_loader loader? rfl, ← List.append_nil (_ ++ _)]
    exact (before.trans service).trans after
  · refine ⟨?_, ?_, ?_⟩
    · rw [(course.shown Memory.discreet).1, ← answers, ← held]
      exact Conversation.isGarbled_iff (oldPrompt_ne request)
    · intro o overwriting
      rcases changes with ⟨password, changed⟩ | unchanged
      · cases changed.overwriting?_eq.symm.trans overwriting
        exact ⟨rfl, ⟨_, changed.result⟩, changed.replaced.between lookup (.refl _)⟩
      · cases unchanged.overwriting?_eq.symm.trans overwriting
    · intro nothing
      rcases changes with ⟨password, changed⟩ | unchanged
      · cases changed.overwriting?_eq.symm.trans nothing
      · exact ⟨unchanged.result, lookup.trans unchanged.undisturbed⟩

/-- **A run leaves the trail of one tale, and the tale fits it.** -/
theorem run_tells (c : Changer) (request : Request) (w : World Memory Host.Scripted) :
    ∃ tale : Tale, w.Tells (c.run request w).2 tale.events ∧
      tale.Fits request w (c.run request w).2 (c.run request w).1 := by
  rcases c.run_course Memory.lookupFrame Host.Scripted.emits request w with
    stopped | ⟨found, values, w₀, w₁, talk, prelude, rest, course⟩
  · obtain ⟨loader?, tells, fits⟩ := stopped.tells
    exact ⟨_, tells, fits⟩
  · exact course.tells

end Changer

/-! ## A call of the library -/

/-- A tale that fits a run fits it together with the work aside of it. -/
theorem Tale.Fits.between {tale : Tale} {request : Request}
    {w w₀ w₁ w' : World Memory Host.Scripted} {result : Except Failure Outcome}
    (before : Aside w w₀) (fits : tale.Fits request w₀ w₁ result)
    (grows : w₀.journal <+: w₁.journal) (after : Aside w₁ w') :
    tale.Fits request w w' result where
  garbled := by
    rw [(before.since grows after).1, ← before.answers]
    exact fits.garbled
  overwritten o overwriting := by
    rw [after.directory, ← before.directory]
    exact fits.overwritten o overwriting
  untouched nothing := by
    rw [after.directory, ← before.directory]
    exact fits.untouched nothing

namespace Visit

/-- The tale is that of the visit: of the run inside it, or there is no run in it and nothing to
tell. -/
inductive Tells (visit : Visit) (w : World Memory Host.Scripted) : Tale → Prop where
  | idle : visit.errand.inner? (visit.enter w) = none →
    (visit.leave w).directory = w.directory → Tells visit w {}
  | run {c : Changer} {request : Request} {w₀ : World Memory Host.Scripted} {tale : Tale} :
    visit.errand.inner? (visit.enter w) = some (c, request, w₀) →
    tale.Fits request (visit.enter w) (visit.leave w) (c.run request w₀).1 → Tells visit w tale

/-- **A visit leaves the trail of its tale.** -/
theorem tells (visit : Visit) (w : World Memory Host.Scripted) :
    ∃ tale : Tale, w.Tells (visit.leave w) tale.events ∧ visit.Tells w tale := by
  rcases visit.errand.act_cases (visit.enter w) with
    ⟨none, aside, _⟩ | ⟨c, request, w₀, inner, before, after, _⟩
  · have told : (visit.enter w).Tells (visit.leave w) [] := .of_aside aside
    exact ⟨{}, told, .idle none aside.directory⟩
  · obtain ⟨tale, told, fits⟩ := c.run_tells request w₀
    have grows := c.run_grows Memory.lookupFrame Host.Scripted.emits request w₀
    refine ⟨tale, ?_, .run inner (fits.between before grows after)⟩
    have whole : (visit.enter w).Tells (visit.leave w) ([] ++ tale.events ++ []) :=
      ((World.Tells.of_aside before).trans told).trans (.of_aside after)
    rw [List.append_nil] at whole
    exact whole

end Visit

/-! ## Calls one after the other -/

/-- Something is done to the directory, and then a call of the library is made. -/
structure Occasion where
  arrange : Memory → Memory
  visit : Visit

namespace Occasion

/-- The world in which the call is made. -/
def arranged (occasion : Occasion) (w : World Memory Host.Scripted) :
    World Memory Host.Scripted :=
  { w with directory := occasion.arrange w.directory }

/-- The world after the call. -/
def leave (occasion : Occasion) (w : World Memory Host.Scripted) :
    World Memory Host.Scripted :=
  occasion.visit.leave (occasion.arranged w)

end Occasion

/-- The tales are those of the calls, in order. -/
inductive Narrates : World Memory Host.Scripted → List Occasion → List Tale → Prop where
  | nil (w : World Memory Host.Scripted) : Narrates w [] []
  | cons {w : World Memory Host.Scripted} {occasion : Occasion} {rest : List Occasion}
    {tale : Tale} {tales : List Tale} :
    occasion.visit.Tells (occasion.arranged w) tale → Narrates (occasion.leave w) rest tales →
    Narrates w (occasion :: rest) (tale :: tales)

/-- What is added to the journal by calls is faithful to their tales. -/
theorem narrates_of_occasions (occasions : List Occasion) (w : World Memory Host.Scripted) :
    ∃ tales added, Narrates w occasions tales ∧
      (occasions.foldl (fun w occasion => occasion.leave w) w).journal = w.journal ++ added ∧
      Faithful added tales := by
  induction occasions generalizing w with
  | nil => exact ⟨[], [], .nil w, (List.append_nil _).symm, .nil⟩
  | cons occasion rest ih =>
      obtain ⟨tale, ⟨early, grown, told⟩, tells⟩ := occasion.visit.tells (occasion.arranged w)
      obtain ⟨tales, late, narrates, grown', faithful⟩ := ih (occasion.leave w)
      refine ⟨tale :: tales, early ++ late, .cons tells narrates, ?_,
        (Faithful.of_trail told).append faithful⟩
      rw [← List.append_assoc]
      exact grown'.trans (congrArg (· ++ late) grown)

/-- **The log is a faithful audit trail**: whatever calls of the library are made, on whatever
directories, hosts and answers, what they add to the journal is faithful to the tales of the calls.
So each credential call that was accepted is reported once, with the user and the node of the entry
that it overwrote, and nothing else is; each start of the loader is announced once; each credential
call is preceded once by the intention of its kind; and each run whose first prompt for the old
password could not be decoded warns once. -/
theorem log_faithful (occasions : List Occasion) (w : World Memory Host.Scripted) :
    ∃ tales, Narrates w occasions tales ∧
      Faithful (w.since (occasions.foldl (fun w occasion => occasion.leave w) w)) tales := by
  obtain ⟨tales, added, narrates, grown, faithful⟩ := narrates_of_occasions occasions w
  rw [World.since_of_journal_eq grown]
  exact ⟨tales, narrates, faithful⟩

end PasswordChange
