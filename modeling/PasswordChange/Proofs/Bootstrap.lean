import PasswordChange.Proofs.Course
import PasswordChange.Proofs.Onstage

/-!
# How a session is opened

Where the daemon of a directory in memory does not run, a session can be opened in single-user
mode only, after the local daemon has been loaded. `Changer.Opens` lists the ways in which this can
go, each with its events, the state of the directory and the result.

* `Changer.openSession_opens` says that a session is opened in one of these ways.
* `Changer.run_bootstrap` says that a run does so once, and neither asks the host nor runs a program
  nor opens a session otherwise.
-/

namespace PasswordChange

open Directory (Memory)

/-- The event belongs to the opening of a session: a session is asked for, the host is asked a
question, or a program is run. -/
def Event.isBootstrap : Event → Bool
  | .called (.createSession _) _ | .queried _ | .launched .. => true
  | _ => false

namespace Directory.Memory

/-- What is decided on is an open session, or an error of the directory. -/
theorem decideSession_cases (options : List (String × Value)) (d : Memory) :
    (∃ h, d.decideSession options = .ok h ∧ h.kind = .session ∧ h.isOpen = true) ∨
    ∃ error, d.decideSession options = .error (.directory error) := by
  unfold decideSession
  split
  · exact Or.inr ⟨_, rfl⟩
  · dsimp only
    repeat' split
    all_goals first | exact Or.inl ⟨_, rfl, rfl, rfl⟩ | exact Or.inr ⟨_, rfl⟩

/-- A session is opened and its handle issued, or the directory reports an error and stays as it
was. -/
theorem createSession_cases (options : List (String × Value)) (d : Memory) :
    (∃ h : Handle Ref, h.kind = .session ∧ h.isOpen = true ∧ d.createSession options =
      .ok (d.issue h).1 (d.issue h).2 [.called (.createSession options) true]) ∨
    ∃ error, d.createSession options =
      .fail (.directory error) d [.called (.createSession options) false] := by
  unfold createSession
  rcases d.decideSession_cases options with ⟨h, decided, kind, isOpen⟩ | ⟨error, decided⟩ <;>
    rw [decided]
  · exact Or.inl ⟨h, kind, isOpen, rfl⟩
  · exact Or.inr ⟨error, rfl⟩

theorem createSession_events (options : List (String × Value)) (d : Memory) :
    (d.createSession options).events =
      [.called (.createSession options) (d.createSession options).outcome.isOk] := by
  rcases d.createSession_cases options with ⟨h, _, _, opened⟩ | ⟨error, failed⟩
  · rw [opened]
    rfl
  · rw [failed]
    rfl

/-- The directory service after the deeds of a program, one after the other. -/
def underwent (deeds : List Deed) (d : Memory) : Memory :=
  deeds.foldl (fun d deed => d.undergo deed) d

/-- The daemon does not run: no session can be opened, with this error. -/
structure Down (d : Memory) (error : DirectoryError) : Prop where
  refused : (d.createSession []).outcome = .error (.directory error)
  code : error.code = .sessionDaemonNotRunning

theorem Credited.not_isBootstrap {d : Memory} {step : Step Memory Unit}
    (credited : d.Credited step) : ∀ event ∈ step.events, event.isBootstrap = false := by
  intro event member
  obtain ⟨call, accepted, rfl, credential⟩ := credited.events event member
  cases call <;> first | rfl | cases credential

/-- Nothing that is done in an open session belongs to the opening of one. -/
theorem sessionFrame :
    SessionFrame (D := Memory) (fun _ _ => True) (·.isBootstrap = false) where
  refl _ := trivial
  trans _ _ := trivial
  undergo _ _ := trivial
  copyValues record attributeName d := by
    refine ⟨trivial, ?_⟩
    change ∀ event ∈ (copyValues record attributeName d).events, _
    unfold copyValues
    repeat' split
    all_goals simp [Step.ok, Step.fail]
  setCredentials v record recordType authType items d :=
    ⟨trivial, (credited_setCredentials v record recordType authType items d).not_isBootstrap⟩
  changePassword v record old new d :=
    ⟨trivial, (credited_changePassword v record old new d).not_isBootstrap⟩
  spoken event spoken := by cases event <;> first | rfl | cases spoken
  openNodeByName session name d := by
    refine ⟨trivial, ?_⟩
    change ∀ event ∈ (d.openNodeByName session name).events, _
    unfold openNodeByName conclude
    split <;> simp [Step.ok, Step.fail, Event.isBootstrap]
  openNodeByType session nodeType d := by
    refine ⟨trivial, ?_⟩
    change ∀ event ∈ (d.openNodeByType session nodeType).events, _
    unfold openNodeByType conclude
    split <;> simp [Step.ok, Step.fail, Event.isBootstrap]
  copyRecord node recordType name d := by
    refine ⟨trivial, ?_⟩
    change ∀ event ∈ (d.copyRecord node recordType name).events, _
    unfold copyRecord
    split <;> simp [Step.ok, Step.fail, Event.isBootstrap]
  close handle d := by
    refine ⟨trivial, fun event member => ?_⟩
    obtain ⟨kind, rfl⟩ := released_of_close handle d event member
    rfl

end Directory.Memory

namespace Changer

/-! ## The ways to open a session -/

/-- The loader is run, to load the job of the local daemon. -/
def loading (c : Changer) : Event :=
  .launched c.settings.loader ["load", c.settings.daemonJob]

/-- The options of a session on the local database. -/
def localOptions (c : Changer) : List (String × Value) :=
  [("local_path", .text c.settings.localDatabase)]

def multiUserEntry : Log.Entry :=
  ⟨.flow, .debug, "directory daemon not running, host is multi-user"⟩

def singleUserEntry : Log.Entry :=
  ⟨.flow, .info, "single-user mode, loading the local directory daemon"⟩

/-- The events up to the end of the loader. -/
def loadingEvents (c : Changer) : List Event :=
  [.called (.createSession []) false, .queried .singleUser, .logged singleUserEntry, c.loading]

/-- The ways in which a session is opened at the directory `d` on the given host: the events, the
directory afterwards and the result. -/
inductive Opens (c : Changer) (request : Request) (d : Memory) (host : Host.Scripted) :
    List Event → Memory → Except Failure (HandleId × Location) → Prop where
  /-- The first session is opened. -/
  | direct {session : HandleId} :
    (d.createSession []).outcome = .ok session →
    Opens c request d host [.called (.createSession []) true] (d.createSession []).state
      (.ok (session, request.location))
  /-- It fails for a reason that no daemon can help. -/
  | refused {error : DirectoryError} :
    (d.createSession []).outcome = .error (.directory error) →
    error.code ≠ .sessionDaemonNotRunning →
    Opens c request d host [.called (.createSession []) false] d (.error (.directory error))
  /-- The host is not in single-user mode. -/
  | multiUser {error : DirectoryError} : d.Down error → host.singleUser = false →
    Opens c request d host
      [.called (.createSession []) false, .queried .singleUser, .logged multiUserEntry] d
      (.error (.directory error))
  /-- The operating system refuses to start the loader. -/
  | unstarted {error : DirectoryError} {cause : StartFailure} :
    d.Down error → host.singleUser = true → host.startFailure = some cause →
    cause ≠ .invalidRequest →
    Opens c request d host c.loadingEvents d (.error (.daemonLoad
      { path := c.settings.loader, directoryError := some error, cause := some cause }))
  /-- The operating system is never asked to start the loader. -/
  | unasked {error : DirectoryError} :
    d.Down error → host.singleUser = true → host.startFailure = some .invalidRequest →
    Opens c request d host c.loadingEvents d (.error (.start .invalidRequest))
  /-- The loader fails. -/
  | exited {error : DirectoryError} :
    d.Down error → host.singleUser = true → host.startFailure = none → host.exitStatus ≠ 0 →
    Opens c request d host c.loadingEvents d (.error (.daemonLoad
      { path := c.settings.loader, status := some host.exitStatus,
        directoryError := some error }))
  /-- The loader succeeds, and a session on the local database is tried once. -/
  | loaded {error : DirectoryError} {second : Step Memory HandleId} :
    d.Down error → host.singleUser = true → host.startFailure = none → host.exitStatus = 0 →
    second = (d.underwent host.deeds).createSession c.localOptions →
    Opens c request d host
      (c.loadingEvents ++ [.called (.createSession c.localOptions) second.outcome.isOk])
      second.state (second.outcome.map fun session => (session, c.openedLocation request false))

/-! ## A session is opened in one of these ways -/

section Stages

variable {D H : Type} [Directory D] [Host H] {c : Changer} {request : Request}
  {w w₁ w₂ : World D H}

theorem openSession_of_ok {session : HandleId}
    (first : Act.perform (Directory.createSession []) w = (.ok session, w₁)) :
    c.openSession request w = (.ok (session, request.location), w₁) := by
  have begun : (Act.perform (Directory.createSession []) >>= fun session =>
      pure (some session) : Act D H (Option HandleId)) w = (.ok (some session), w₁) :=
    Act.andThen_of_ok first
  exact Act.andThen_of_ok (Act.orElse_of_ok begun)

variable {error : DirectoryError}
  (first : Act.perform (Directory.createSession []) w = (.error (.directory error), w₁))

include first

theorem openSession_of_other (other : error.code ≠ .sessionDaemonNotRunning) :
    c.openSession request w = (.error (.directory error), w₁) := by
  refine Act.andThen_of_error ((Act.orElse_of_error (Act.andThen_of_error first)).trans ?_)
  dsimp only
  rw [if_neg other]
  rfl

variable (down : error.code = .sessionDaemonNotRunning)

include down

theorem openSession_of_unloaded {e : Failure} (failed : c.bootstrap error w₁ = (.error e, w₂)) :
    c.openSession request w = (.error e, w₂) := by
  refine Act.andThen_of_error ((Act.orElse_of_error (Act.andThen_of_error first)).trans ?_)
  dsimp only
  rw [if_pos down]
  exact Act.andThen_of_error failed

/-- After a bootstrap the session is opened on the local database. -/
theorem openSession_of_loaded (loaded : c.bootstrap error w₁ = (.ok (), w₂)) :
    c.openSession request w =
      ((Act.perform (Directory.createSession c.localOptions) w₂).1.map fun session =>
          (session, c.openedLocation request false),
        (Act.perform (Directory.createSession c.localOptions) w₂).2) := by
  have begun : (Act.perform (Directory.createSession []) >>= fun session =>
      pure (some session) : Act D H (Option HandleId)) w = (.error (.directory error), w₁) :=
    Act.andThen_of_error first
  refine Eq.trans (Act.andThen_of_ok (show _ = (Except.ok none, w₂) from
    (Act.orElse_of_error begun).trans ?_)) ?_
  · dsimp only
    rw [if_pos down]
    exact Act.andThen_of_ok loaded
  · rcases second : Act.perform (Directory.createSession c.localOptions) w₂ with ⟨_ | session, w₃⟩
    · exact Act.andThen_of_error second
    · exact Act.andThen_of_ok second

end Stages

/-- The failure with the error that made a load necessary, if it is one of the load. -/
def blaming (error : DirectoryError) : Failure → Failure
  | .daemonLoad e => .daemonLoad { e with directoryError := some error }
  | e => e

section Query

variable {D H : Type} [Directory D] [Host H] (c : Changer) (error : DirectoryError)
  {w w₁ : World D H}

/-- A host that cannot answer whether it is in single-user mode fails the bootstrap. -/
theorem bootstrap_of_unanswered {e : Failure}
    (asked : Act.consult Host.isSingleUser w = (.error e, w₁)) :
    c.bootstrap error w = (.error e, w₁) :=
  Act.andThen_of_error asked

/-- On a host that is not in single-user mode the error stands. -/
theorem bootstrap_of_no (asked : Act.consult Host.isSingleUser w = (.ok false, w₁)) :
    c.bootstrap error w =
      (.error (.directory error), { w₁ with journal := w₁.journal ++ [.logged multiUserEntry] }) :=
  Act.andThen_of_ok asked

end Query

section Loader

variable (c : Changer) (error : DirectoryError) (w : World Memory Host.Scripted)

theorem bootstrap_of_multiUser (multiUser : w.host.singleUser = false) :
    c.bootstrap error w =
      (.error (.directory error), { w with
        journal := w.journal ++ [.queried .singleUser, .logged multiUserEntry] }) := by
  have asked : Act.consult Host.isSingleUser w =
      (.ok false, { w with journal := w.journal ++ [.queried .singleUser] }) := by
    simp [Act.consult, Host.isSingleUser, Step.ok, multiUser]
  rw [bootstrap_of_no c error asked, List.append_assoc]
  rfl

/-- The world in which the loader is run. -/
def readied (w : World Memory Host.Scripted) : World Memory Host.Scripted :=
  { w with journal := w.journal ++ [.queried .singleUser, .logged singleUserEntry] }

/-- In single-user mode the loader is run, and a failure to load carries the error along. -/
theorem bootstrap_of_singleUser (singleUser : w.host.singleUser = true) :
    c.bootstrap error w =
      ((c.loadLocalDaemon (readied w)).1.mapError (blaming error),
        (c.loadLocalDaemon (readied w)).2) := by
  have asked : Act.consult Host.isSingleUser w =
      (.ok true, { w with journal := w.journal ++ [.queried .singleUser] }) := by
    simp [Act.consult, Host.isSingleUser, Step.ok, singleUser]
  have noted : (Act.log .info "single-user mode, loading the local directory daemon" :
      Act Memory Host.Scripted Unit) { w with journal := w.journal ++ [.queried .singleUser] } =
      (.ok (), readied w) := by
    simp [Act.log, Act.note, readied, singleUserEntry]
  unfold bootstrap
  rw [Act.bind_eq_andThen, Act.andThen_of_ok asked, if_neg (by decide), Act.bind_eq_andThen,
    Act.andThen_of_ok noted]
  rcases loaded : c.loadLocalDaemon (readied w) with ⟨e | _, w₂⟩
  · refine (Act.orElse_of_error loaded).trans ?_
    cases e <;> rfl
  · exact Act.orElse_of_ok loaded

/-- A program that cannot be started was asked for all the same. -/
theorem launch_of_unstarted (path : String) (args : List String) {cause : StartFailure}
    (unstarted : w.host.startFailure = some cause) :
    Act.launch path args w =
      (.error (.start cause), { w with journal := w.journal ++ [.launched path args] }) := by
  simp [Act.launch, Act.andThen, Act.consult, Host.run, Host.Scripted.run, unstarted, Step.fail]

/-- A program that is started does its deeds if it exits with status zero. -/
theorem launch_of_started (path : String) (args : List String)
    (started : w.host.startFailure = none) :
    Act.launch path args w =
      (.ok w.host.exitStatus, { w with
        directory := w.directory.underwent (if w.host.exitStatus = 0 then w.host.deeds else [])
        journal := w.journal ++ [.launched path args] }) := by
  simp only [Act.launch, Act.andThen, Act.consult, Host.run, Host.Scripted.run, started, Step.ok]
  rfl

theorem loadLocalDaemon_of_unstarted {cause : StartFailure}
    (unstarted : w.host.startFailure = some cause) :
    c.loadLocalDaemon w =
      (.error (if cause.isRefusal then
          .daemonLoad { path := c.settings.loader, cause := some cause }
        else .start cause), { w with journal := w.journal ++ [c.loading] }) := by
  have launched := launch_of_unstarted w c.settings.loader c.settings.loaderArguments unstarted
  refine Act.andThen_of_error ((Act.orElse_of_error launched).trans ?_)
  dsimp only
  split <;> rfl

theorem loadLocalDaemon_of_exited (started : w.host.startFailure = none)
    (failed : w.host.exitStatus ≠ 0) :
    c.loadLocalDaemon w =
      (.error (.daemonLoad { path := c.settings.loader, status := some w.host.exitStatus }),
        { w with journal := w.journal ++ [c.loading] }) := by
  have launched := launch_of_started w c.settings.loader c.settings.loaderArguments started
  rw [if_neg failed] at launched
  refine (Act.andThen_of_ok (Act.orElse_of_ok launched)).trans ?_
  rw [if_pos failed]
  rfl

theorem loadLocalDaemon_of_loaded (started : w.host.startFailure = none)
    (succeeded : w.host.exitStatus = 0) :
    c.loadLocalDaemon w =
      (.ok (), { w with
        directory := w.directory.underwent w.host.deeds
        journal := w.journal ++ [c.loading] }) := by
  have launched := launch_of_started w c.settings.loader c.settings.loaderArguments started
  rw [if_pos succeeded] at launched
  refine (Act.andThen_of_ok (Act.orElse_of_ok launched)).trans ?_
  rw [if_neg (not_not_intro succeeded)]
  rfl

end Loader

/-- The world after the first session was refused. -/
def turnedAway (w : World Memory Host.Scripted) : World Memory Host.Scripted :=
  { w with journal := w.journal ++ [.called (.createSession []) false] }

/-- Where the daemon does not run, a session is opened by way of a bootstrap. -/
theorem openSession_of_down (c : Changer) (request : Request) {w : World Memory Host.Scripted}
    {error : DirectoryError} (down : w.directory.Down error)
    (first : Act.perform (Directory.createSession []) w =
      (.error (.directory error), turnedAway w)) :
    ∃ events d result, c.Opens request w.directory w.host events d result ∧
      c.openSession request w =
        (result, { w with directory := d, journal := w.journal ++ events }) := by
  rcases multiUser : w.host.singleUser with _ | _
  case false =>
    have failed := bootstrap_of_multiUser c error (turnedAway w) multiUser
    refine ⟨_, _, _, .multiUser down multiUser, ?_⟩
    rw [openSession_of_unloaded first down.code failed]
    simp [turnedAway]
  case true =>
    have loader := bootstrap_of_singleUser c error (turnedAway w) multiUser
    -- If the loader fails, no second session is tried.
    have unloaded {e : Failure} (failed : c.loadLocalDaemon (readied (turnedAway w)) =
        (.error e, { w with journal := w.journal ++ c.loadingEvents })) :
        c.openSession request w =
          (.error (blaming error e), { w with journal := w.journal ++ c.loadingEvents }) := by
      rw [failed] at loader
      exact openSession_of_unloaded first down.code loader
    have grown : (readied (turnedAway w)).journal ++ [c.loading] =
        w.journal ++ c.loadingEvents := by
      simp [readied, turnedAway, loadingEvents]
    rcases start : w.host.startFailure with _ | cause
    case some =>
      have failed := loadLocalDaemon_of_unstarted c (readied (turnedAway w)) start
      rw [grown] at failed
      cases cause with
      | notFound | notPermitted =>
          exact ⟨_, _, _, .unstarted down multiUser start nofun, unloaded failed⟩
      | invalidRequest => exact ⟨_, _, _, .unasked down multiUser start, unloaded failed⟩
    case none =>
      by_cases status : w.host.exitStatus = 0
      case neg =>
        have failed := loadLocalDaemon_of_exited c (readied (turnedAway w)) start status
        rw [grown] at failed
        exact ⟨_, _, _, .exited down multiUser start status, unloaded failed⟩
      case pos =>
        have loaded := loadLocalDaemon_of_loaded c (readied (turnedAway w)) start status
        rw [loaded, grown] at loader
        refine ⟨_, _, _, .loaded down multiUser start status rfl, ?_⟩
        rw [openSession_of_loaded first down.code loader]
        refine Prod.ext rfl (congrArg (fun journal => World.mk _ _ _ _ journal) ?_)
        rw [← List.append_assoc]
        exact congrArg _ (Memory.createSession_events _ _)

/-- **A session is opened in one of the ways listed**, and nothing else changes. -/
theorem openSession_opens (c : Changer) (request : Request) (w : World Memory Host.Scripted) :
    ∃ events d result, c.Opens request w.directory w.host events d result ∧
      c.openSession request w =
        (result, { w with directory := d, journal := w.journal ++ events }) := by
  have performed (step : Step Memory HandleId) (same : w.directory.createSession [] = step) :
      Act.perform (Directory.createSession []) w = (step.outcome, { w with
        directory := step.state, journal := w.journal ++ step.events }) := by
    rw [← same]
    rfl
  rcases w.directory.createSession_cases [] with ⟨h, _, _, opened⟩ | ⟨error, failed⟩
  · have way : c.Opens request w.directory w.host [.called (.createSession []) true]
        (w.directory.createSession []).state (.ok ((w.directory.issue h).1, request.location)) :=
      .direct (by rw [opened]; rfl)
    refine ⟨_, _, _, way, (openSession_of_ok (performed _ opened)).trans ?_⟩
    rw [opened]
    rfl
  · have refused : (w.directory.createSession []).outcome = .error (.directory error) := by
      rw [failed]
      rfl
    by_cases code : error.code = .sessionDaemonNotRunning
    · exact openSession_of_down c request ⟨refused, code⟩ (performed _ failed)
    · exact ⟨_, _, _, .refused refused code, openSession_of_other (performed _ failed) code⟩

/-! ## The opening within a run -/

/-- **A run opens a session in one of the ways listed, and there is no more of the opening.** It
fails as the opening does, if that fails. -/
theorem run_bootstrap (c : Changer) (request : Request) (w : World Memory Host.Scripted) :
    ∃ events d result, c.Opens request w.directory w.host events d result ∧
      c.openSession request w =
        (result, { w with directory := d, journal := w.journal ++ events }) ∧
      (w.since (c.run request w).2).filter Event.isBootstrap = events.filter Event.isBootstrap ∧
      ∀ e, result = .error e →
        c.run request w =
          (.error e, { w with directory := d, journal := w.journal ++ events }) := by
  obtain ⟨events, d, result, way, opened⟩ := c.openSession_opens request w
  refine ⟨events, d, result, way, opened, ?_, ?_⟩
  · rw [run_eq_proceed, Act.bind_eq_andThen]
    cases result with
    | error e =>
        rw [Act.andThen_of_error opened, World.since_of_journal_eq rfl]
    | ok session =>
        rw [Act.andThen_of_ok opened]
        have kept := c.proceed_keeps (H := Host.Scripted) Memory.sessionFrame.covers request session
          { w with directory := d, journal := w.journal ++ events }
        obtain ⟨added, grown, others⟩ := kept.journal
        rw [List.append_assoc] at grown
        have none : added.filter Event.isBootstrap = [] :=
          List.filter_eq_nil_iff.2 fun event member => by simp [others event member]
        rw [World.since_of_journal_eq grown, List.filter_append, none, List.append_nil]
  · rintro e rfl
    exact run_of_unopened opened

end Changer

end PasswordChange
