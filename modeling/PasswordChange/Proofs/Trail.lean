import PasswordChange.Proofs.Bootstrap

/-!
# The trail of a call in the journal

The log tells of four matters: that the local daemon is loaded, that an old password could not be
decoded, that a password is submitted, and that one was changed. `Journal.trail` selects the
entries that do, and from the other events those that they tell of. A `Tale` is the trail of one
call of the library: each entry stands beside the event that it tells of.

* `Journal.filterMap_trail` says that nothing about these matters is lost in the trail.
* `Faithful` says of a whole journal that its entries and the events they tell of are the same,
  one by one and in order; `Faithful.of_trail` is one call, `Faithful.append` one after the other.
-/

namespace PasswordChange

/-! ## Entries that tell of something -/

namespace Log.Entry

/-- The flow says that a password was changed. -/
def isChange (e : Entry) : Bool :=
  e.source == .flow && e.level == .info && Text.startsWith "password changed for " e.message

/-- The flow says that it loads the local daemon. -/
def isLoad (e : Entry) : Bool :=
  e == Changer.singleUserEntry

/-- The flow says that it submits a password, in one of the two ways. -/
def isIntention (e : Entry) : Bool :=
  e.source == .flow && e.level == .debug &&
    (Text.startsWith "set-password for " e.message ||
      Text.startsWith "change-password for " e.message)

/-- The flow warns. -/
def isWarning (e : Entry) : Bool :=
  e.source == .flow && e.level == .warning

/-- The entry tells of one of the four matters. -/
def isTold (e : Entry) : Bool :=
  e.isChange || e.isLoad || e.isIntention || e.isWarning

end Log.Entry

/-- The only warning of the flow. -/
def undecodedEntry : Log.Entry :=
  ⟨.flow, .warning, "old password could not be decoded, sending none"⟩

/-- The event is an entry that tells of something, or something that entries tell of. -/
def Event.isTold : Event → Bool
  | .logged entry => entry.isTold
  | .called call _ => call.isCredential
  | .launched .. => true
  | .prompted _ | .issued _ | .said _ | .warned _ | .released _ | .native .. | .queried _
  | .probed _ => false

namespace Journal

def trail (j : Journal) : Journal :=
  j.filter Event.isTold

/-- The entries of the given kind. -/
def entries (kind : Log.Entry → Bool) (j : Journal) : List Log.Entry :=
  j.logged.filter kind

/-- The credential calls that were accepted. -/
def commits (j : Journal) : List Directory.Call :=
  j.accepted.filter Directory.Call.isCredential

variable (j k : Journal)

@[simp]
theorem trail_append : (j ++ k : Journal).trail = j.trail ++ k.trail :=
  List.filter_append ..

@[simp]
theorem entries_append (kind : Log.Entry → Bool) :
    (j ++ k : Journal).entries kind = j.entries kind ++ k.entries kind := by
  simp only [entries, logged, List.filterMap_append, List.filter_append]

@[simp]
theorem commits_append : (j ++ k : Journal).commits = j.commits ++ k.commits := by
  simp only [commits, accepted, List.filterMap_append, List.filter_append]

@[simp]
theorem launched_append : (j ++ k : Journal).launched = j.launched ++ k.launched :=
  List.filterMap_append

@[simp]
theorem mutations_append : (j ++ k : Journal).mutations = j.mutations ++ k.mutations := by
  simp only [mutations, calls, List.filterMap_append, List.filter_append]

theorem trail_eq_nil {j : Journal} (quiet : ∀ event ∈ j, event.isTold = false) :
    j.trail = [] :=
  List.filter_eq_nil_iff.2 fun event member => by simp [quiet event member]

/-! ## Nothing is lost in the trail -/

/-- A view of the journal in which only events of the trail show is a view of the trail. -/
theorem filterMap_trail {α : Type} {view : Event → Option α}
    (told : ∀ event, event.isTold = false → view event = none) :
    j.trail.filterMap view = j.filterMap view := by
  unfold trail
  rw [List.filterMap_filter]
  congr 1
  funext event
  split
  next => rfl
  next untold => exact (told event (Bool.eq_false_iff.2 untold)).symm

theorem entries_trail {kind : Log.Entry → Bool} (told : ∀ e, kind e = true → e.isTold = true) :
    j.trail.entries kind = j.entries kind := by
  simp only [entries, logged, List.filter_filterMap]
  refine filterMap_trail j fun event untold => ?_
  cases event with
  | logged e =>
      have other : kind e = false :=
        Bool.eq_false_iff.2 fun is => Bool.eq_false_iff.1 untold (told e is)
      simp [other]
  | _ => rfl

theorem launched_trail : j.trail.launched = j.launched :=
  filterMap_trail j fun event untold => by cases event <;> first | rfl | cases untold

theorem mutations_trail : j.trail.mutations = j.mutations := by
  simp only [mutations, calls, List.filter_filterMap]
  refine filterMap_trail j fun event untold => ?_
  cases event with
  | called call accepted =>
      have other : call.isCredential = false := untold
      simp [other]
  | _ => rfl

theorem commits_trail : j.trail.commits = j.commits := by
  simp only [commits, accepted, List.filter_filterMap]
  refine filterMap_trail j fun event untold => ?_
  cases event with
  | called call accepted =>
      have other : call.isCredential = false := untold
      cases accepted <;> simp [other]
  | _ => rfl

end Journal

/-! ## Submissions -/

/-- What the log says of a credential call before it is made, if it is one of the flow. -/
def Directory.Call.intention? : Directory.Call → Option Log.Entry
  | .setCredentials _ _ (.text username) _ (.text authname) _ =>
    some ⟨.flow, .debug, "set-password for " ++ username ++ " as " ++ authname⟩
  | .changePassword username _ _ => some ⟨.flow, .debug, "change-password for " ++ username⟩
  | _ => none

/-- What a credential call of the flow is about: the user, the new password and, if an identity
must be proved, the authenticator with the old password. -/
structure Submission where
  username : String
  password : String
  voucher? : Option (String × Option String)
  deriving DecidableEq, Repr

namespace Submission

def call : Submission → Directory.Call
  | ⟨username, password, some (authname, old?)⟩ =>
    .setCredentials Directory.userRecords Directory.setPassword (.text username) password
      (.text authname) old?
  | ⟨username, password, none⟩ => .changePassword username none password

/-- What the log says before the call. -/
def intention : Submission → Log.Entry
  | ⟨username, _, some (authname, _)⟩ =>
    ⟨.flow, .debug, "set-password for " ++ username ++ " as " ++ authname⟩
  | ⟨username, _, none⟩ => ⟨.flow, .debug, "change-password for " ++ username⟩

theorem isCredential_call (s : Submission) : s.call.isCredential = true := by
  obtain ⟨username, password, _ | voucher⟩ := s <;> rfl

theorem intention?_call (s : Submission) : s.call.intention? = some s.intention := by
  obtain ⟨username, password, _ | voucher⟩ := s <;> rfl

end Submission

/-- A submission that was accepted, with the node of the entry that it overwrote. -/
structure Overwriting where
  submission : Submission
  node : String
  deriving DecidableEq, Repr

/-- What the log says after a submission was accepted. -/
def Overwriting.line (o : Overwriting) : Log.Entry :=
  ⟨.flow, .info, "password changed for " ++ o.submission.username ++ " at " ++ o.node⟩

/-! ## Tales -/

/-- What came of a submission. -/
inductive Upshot where
  | refused (submission : Submission)
  | accepted (overwriting : Overwriting)
  deriving DecidableEq, Repr

def Upshot.overwriting? : Upshot → Option Overwriting
  | refused _ => none
  | accepted overwriting => some overwriting

/-- The submission stands between the intention and, if it was accepted, the report. -/
def Upshot.events : Upshot → List Event
  | refused s => [.logged s.intention, .called s.call false]
  | accepted o => [.logged o.submission.intention, .called o.submission.call true, .logged o.line]

/-- What a call of the library did about the four matters: the loader that it ran with its
arguments, whether the old password was garbled, and what came of the submission. -/
structure Tale where
  loader? : Option (String × List String) := none
  garbled : Bool := false
  upshot? : Option Upshot := none
  deriving DecidableEq, Repr

namespace Tale

def overwriting? (tale : Tale) : Option Overwriting :=
  tale.upshot?.bind Upshot.overwriting?

/-- The trail that the call leaves in the journal. -/
def events (tale : Tale) : List Event :=
  (match tale.loader? with
    | none => []
    | some (path, args) => [.logged Changer.singleUserEntry, .launched path args]) ++
  (if tale.garbled then [.logged undecodedEntry] else []) ++
  tale.upshot?.elim [] Upshot.events

/-- The loader comes first in a tale. -/
theorem events_with_loader (loader? : Option (String × List String)) {tale : Tale}
    (unloaded : tale.loader? = none) :
    { tale with loader? }.events = events { loader? } ++ tale.events := by
  simp [events, unloaded]

end Tale

/-! ## Faithful journals -/

/-- The entries of the log and the events that they tell of are the same, one by one: each change of
a password is reported once and nothing else is, each start of the loader is announced, each
credential call is preceded by the intention of its kind, and each old password that was garbled is
warned about. -/
structure Faithful (j : Journal) (tales : List Tale) : Prop where
  /-- Each entry stands beside its event. -/
  trail : j.trail = tales.flatMap Tale.events
  commits : j.commits = (tales.filterMap Tale.overwriting?).map (·.submission.call)
  changes : j.entries Log.Entry.isChange =
    (tales.filterMap Tale.overwriting?).map Overwriting.line
  loads : j.entries Log.Entry.isLoad = j.launched.map fun _ => Changer.singleUserEntry
  intentions : (j.entries Log.Entry.isIntention).map some =
    j.mutations.map Directory.Call.intention?
  warnings : j.entries Log.Entry.isWarning =
    List.replicate (tales.countP Tale.garbled) undecodedEntry

/-! ### What the entries of a tale tell -/

section Kinds

open Log

variable (s : Submission) (o : Overwriting)

@[simp]
theorem Submission.kinds_intention : s.intention.isChange = false ∧ s.intention.isLoad = false ∧
    s.intention.isIntention = true ∧ s.intention.isWarning = false := by
  obtain ⟨username, password, _ | ⟨authname, old?⟩⟩ := s
  · have start : Text.startsWith "change-password for "
        ("change-password for " ++ username) = true :=
      Text.startsWith_iff.2 ⟨_, rfl⟩
    simp [intention, Entry.isChange, Entry.isLoad, Entry.isIntention, Entry.isWarning,
      Changer.singleUserEntry, start]
  · have start : Text.startsWith "set-password for "
        ("set-password for " ++ username ++ " as " ++ authname) = true :=
      Text.startsWith_iff.2 ⟨username ++ " as " ++ authname, by simp only [String.append_assoc]⟩
    simp [intention, Entry.isChange, Entry.isLoad, Entry.isIntention, Entry.isWarning,
      Changer.singleUserEntry, start]

@[simp]
theorem Overwriting.kinds_line : o.line.isChange = true ∧ o.line.isLoad = false ∧
    o.line.isIntention = false ∧ o.line.isWarning = false := by
  have start : Text.startsWith "password changed for " o.line.message = true :=
    Text.startsWith_iff.2 ⟨o.submission.username ++ " at " ++ o.node, by
      simp only [line, String.append_assoc]⟩
  have other : o.line ≠ Changer.singleUserEntry := by
    intro same
    rw [same] at start
    exact absurd start (by decide)
  refine ⟨?_, beq_false_of_ne other, rfl, rfl⟩
  rw [Entry.isChange, start]
  rfl

@[simp]
theorem kinds_singleUserEntry : Changer.singleUserEntry.isChange = false ∧
    Changer.singleUserEntry.isLoad = true ∧ Changer.singleUserEntry.isIntention = false ∧
    Changer.singleUserEntry.isWarning = false := by
  decide

@[simp]
theorem kinds_undecodedEntry : undecodedEntry.isChange = false ∧ undecodedEntry.isLoad = false ∧
    undecodedEntry.isIntention = false ∧ undecodedEntry.isWarning = true := by
  decide

end Kinds

/-- What comes of a submission is told. -/
theorem Upshot.trail_events (upshot : Upshot) : Journal.trail upshot.events = upshot.events := by
  cases upshot <;> simp [events, Event.isTold, Log.Entry.isTold, Submission.isCredential_call,
    Journal.trail]

/-! ### Journals of tales are faithful -/

namespace Tale

variable (tale : Tale)

theorem commits_events : Journal.commits tale.events =
    tale.overwriting?.toList.map (·.submission.call) := by
  obtain ⟨_ | _, _ | _, _ | _ | _⟩ := tale <;>
    simp [events, Upshot.events, overwriting?, Upshot.overwriting?, Journal.commits,
      Journal.accepted, Submission.isCredential_call]

theorem changes_events : Journal.entries Log.Entry.isChange tale.events =
    tale.overwriting?.toList.map Overwriting.line := by
  obtain ⟨_ | _, _ | _, _ | _ | _⟩ := tale <;>
    simp [events, Upshot.events, overwriting?, Upshot.overwriting?, Journal.entries,
      Journal.logged]

theorem loads_events : Journal.entries Log.Entry.isLoad tale.events =
    (Journal.launched tale.events).map fun _ => Changer.singleUserEntry := by
  obtain ⟨_ | _, _ | _, _ | _ | _⟩ := tale <;>
    simp [events, Upshot.events, Journal.entries, Journal.logged, Journal.launched]

theorem intentions_events : (Journal.entries Log.Entry.isIntention tale.events).map some =
    (Journal.mutations tale.events).map Directory.Call.intention? := by
  obtain ⟨_ | _, _ | _, _ | _ | _⟩ := tale <;>
    simp [events, Upshot.events, Journal.entries, Journal.logged, Journal.mutations,
      Journal.calls, Submission.isCredential_call, Submission.intention?_call]

theorem warnings_events : Journal.entries Log.Entry.isWarning tale.events =
    if tale.garbled then [undecodedEntry] else [] := by
  obtain ⟨_ | _, _ | _, _ | _ | _⟩ := tale <;>
    simp [events, Upshot.events, Journal.entries, Journal.logged]

end Tale

namespace Faithful

variable {j k : Journal} {tales tales' : List Tale}

/-- Entries that tell of something can be read off the trail. -/
theorem entries_of_trail {tale : Tale} {kind : Log.Entry → Bool} (told : j.trail = tale.events)
    (tells : ∀ e, kind e = true → e.isTold = true) :
    j.entries kind = Journal.entries kind tale.events := by
  rw [← Journal.entries_trail j tells, told]

/-- A journal with the trail of one tale is faithful. -/
theorem of_trail {tale : Tale} (told : j.trail = tale.events) : Faithful j [tale] where
  trail := by
    rw [told, List.flatMap_singleton]
  commits := by
    rw [← Journal.commits_trail, told, tale.commits_events, List.filterMap_cons]
    cases tale.overwriting? <;> rfl
  changes := by
    rw [entries_of_trail told fun e is => by simp [Log.Entry.isTold, is], tale.changes_events,
      List.filterMap_cons]
    cases tale.overwriting? <;> rfl
  loads := by
    rw [entries_of_trail told fun e is => by simp [Log.Entry.isTold, is], tale.loads_events,
      ← told, Journal.launched_trail]
  intentions := by
    rw [entries_of_trail told fun e is => by simp [Log.Entry.isTold, is], tale.intentions_events,
      ← told, Journal.mutations_trail]
  warnings := by
    rw [entries_of_trail told fun e is => by simp [Log.Entry.isTold, is], tale.warnings_events,
      List.countP_singleton]
    cases tale.garbled <;> rfl

theorem nil : Faithful [] [] :=
  ⟨rfl, rfl, rfl, rfl, rfl, rfl⟩

/-- What follows a faithful journal faithfully makes a faithful journal with it. -/
theorem append (first : Faithful j tales) (second : Faithful k tales') :
    Faithful (j ++ k) (tales ++ tales') where
  trail := by
    rw [Journal.trail_append, first.trail, second.trail, List.flatMap_append]
  commits := by
    simp only [Journal.commits_append, first.commits, second.commits, List.filterMap_append,
      List.map_append]
  changes := by
    simp only [Journal.entries_append, first.changes, second.changes, List.filterMap_append,
      List.map_append]
  loads := by
    simp only [Journal.entries_append, first.loads, second.loads, Journal.launched_append,
      List.map_append]
  intentions := by
    simp only [Journal.entries_append, Journal.mutations_append, List.map_append,
      first.intentions, second.intentions]
  warnings := by
    simp only [Journal.entries_append, first.warnings, second.warnings, List.countP_append,
      List.replicate_append_replicate]

end Faithful

end PasswordChange
