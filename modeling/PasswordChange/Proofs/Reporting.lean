import PasswordChange.Proofs.Bootstrap
import PasswordChange.Proofs.Errand
import PasswordChange.Proofs.Footing
import PasswordChange.Proofs.Lines

/-!
# Every failure is reported

At a directory in memory a change of a password ends with a status, unless the user interrupts it,
and every failure has its lines on standard error.

* `Changer.Reported` lists the ways in which a run can end, each with its lines and its status.
* `LoaderFailed` says that the loader was run and failed; this is the one case with two lines.
* `failures_reported` is the main result.
-/

namespace PasswordChange

open Confirmation
open Directory (Memory)

/-- How the end of a run at the directory `d` is reported: by which lines on standard error, and by
which status, if no failure is passed on. -/
inductive Changer.Reported (settings : Settings) (programName : String) (request : Request)
    (d : Memory) (host : Host.Scripted) :
    Except Failure Outcome → List String → Except Failure Int → Prop where
  | success (outcome : Outcome) :
    Reported settings programName request d host (.ok outcome) [] (.ok 0)
  | interrupted :
    Reported settings programName request d host (.error .interrupted) [] (.error .interrupted)
  | directory (error : DirectoryError) :
    Reported settings programName request d host (.error (.directory error))
      [error.render programName] (.ok 1)
  | unknownUser :
    Reported settings programName request d host (.error (.unknownUser request.username))
      [programName ++ ": " ++ ("Unknown user name '" ++ request.username ++ "'.")] (.ok 1)
  /-- The loader could not be started; the error that made it necessary follows. -/
  | unstarted {error : DirectoryError} {cause : StartFailure} :
    d.Down error → host.singleUser = true → host.startFailure = some cause →
    Reported settings programName request d host
      (.error (.daemonLoad
        { path := settings.loader, directoryError := some error, cause := some cause }))
      [programName ++ ": " ++ (settings.loader ++ ": could not be run"), error.render programName]
      (.ok 1)
  /-- The loader failed; the error that made it necessary follows. -/
  | exited {error : DirectoryError} :
    d.Down error → host.singleUser = true → host.startFailure = none → host.exitStatus ≠ 0 →
    Reported settings programName request d host
      (.error (.daemonLoad
        { path := settings.loader, status := some host.exitStatus, directoryError := some error }))
      [programName ++ ": " ++ (settings.loader ++ ": exited with status " ++
          toString host.exitStatus),
        error.render programName]
      (.ok 1)

/-- Between the two worlds the loader was run, and it failed. -/
def LoaderFailed (w w' : World Memory Host.Scripted) : Prop :=
  (w.since w').launched ≠ [] ∧ (w.host.startFailure ≠ none ∨ w.host.exitStatus ≠ 0)

namespace Changer

/-! ## The loader -/

theorem launched_filter (j : Journal) :
    Journal.launched (j.filter Event.isBootstrap) = j.launched := by
  unfold Journal.launched
  rw [List.filterMap_filter]
  congr
  funext event
  cases event with
  | called call => cases call <;> rfl
  | _ => rfl

variable {c : Changer} {request : Request} {w : World Memory Host.Scripted}

/-- **The loader fails in a run exactly if no session can be opened because of that.** -/
theorem loaderFailed_iff (c : Changer) (request : Request) (w : World Memory Host.Scripted) :
    LoaderFailed w (c.run request w).2 ↔
      (∃ load, (c.openSession request w).1 = .error (.daemonLoad load)) ∨
        ∃ cause, (c.openSession request w).1 = .error (.start cause) := by
  obtain ⟨events, d, result, way, opened, same, _⟩ := c.run_bootstrap request w
  have launched : (w.since (c.run request w).2).launched = Journal.launched events := by
    rw [← launched_filter, same, launched_filter]
  unfold LoaderFailed
  rw [launched, opened]
  cases way with
  | direct | refused | multiUser => simp [Journal.launched]
  | unstarted _ _ start | unasked _ _ start =>
      simp [Journal.launched, loadingEvents, loading, start]
  | exited _ _ start status => simp [Journal.launched, loadingEvents, loading, start, status]
  | @loaded error second _ _ start status tried =>
      rcases outcome : second.outcome with e | session
      · rw [tried] at outcome
        obtain ⟨error, rfl⟩ := Memory.createSession_isReported outcome
        simp [start, status, Except.map]
      · simp [start, status, Except.map]

/-- Where no session can be opened because of the loader, the daemon does not run, and the loader
could not be started or failed. -/
theorem reported_of_openSession {load : DaemonLoadError}
    (failed : (c.openSession request w).1 = .error (.daemonLoad load)) (programName : String) :
    ∃ first last, Reported c.settings programName request w.directory w.host
      (.error (.daemonLoad load)) [first, last] (.ok 1) := by
  obtain ⟨events, d, result, way, opened⟩ := c.openSession_opens request w
  rw [opened] at failed
  cases way with
  | direct | refused | multiUser | unasked => cases failed
  | unstarted down singleUser start =>
      cases failed
      exact ⟨_, _, .unstarted down singleUser start⟩
  | exited down singleUser start status =>
      cases failed
      exact ⟨_, _, .exited down singleUser start status⟩
  | @loaded error second _ _ _ _ tried =>
      rcases outcome : second.outcome with e | session <;> rw [outcome] at failed <;> cases failed
      rw [tried] at outcome
      obtain ⟨error, same⟩ := Memory.createSession_isReported outcome
      cases same

/-! ## The end of a run -/

/-- **A run ends in one of the ways that are reported.** It is interrupted exactly if an interrupt
is among the answers to its prompts, and two lines report its end exactly if the loader has
failed. -/
theorem run_reported (c : Changer) (request : Request) (programName : String)
    (grounded : w.directory.Grounded)
    (refusals : ∀ cause, w.host.startFailure = some cause → cause.isRefusal = true) :
    ∃ lines status,
      Reported c.settings programName request w.directory w.host (c.run request w).1 lines status ∧
      (w.since (c.run request w).2).warned = [] ∧
      (status = .error .interrupted ↔
        .interrupt ∈ w.answers.take (w.since (c.run request w).2).prompts.length) ∧
      (lines.length = 2 ↔ LoaderFailed w (c.run request w).2) := by
  have loader := loaderFailed_iff c request w
  rcases run_settles (Memory.stations request) Memory.lookupFrame Host.Scripted.emits
      Host.Scripted.dependable c ⟨grounded, refusals⟩ with
    ⟨e, w', unopened, ended, failed, stopped⟩ | ⟨e, opened, w', unfound, ended, failed, stopped⟩ |
      ⟨found, values, w₀, w₁, talk, prelude, rest, course, there⟩
  · obtain ⟨unwarned, unprompted⟩ := stopped.silent
    rw [failed, unwarned, unprompted]
    rw [ended] at loader
    cases unopened with
    | directory error =>
        exact ⟨_, _, .directory error, rfl, by simp, by simp [loader]⟩
    | daemonLoad load =>
        obtain ⟨first, last, reported⟩ := reported_of_openSession
          (congrArg Prod.fst ended) programName
        exact ⟨_, _, reported, rfl, by simp, by simp [loader]⟩
  · obtain ⟨unwarned, unprompted⟩ := stopped.silent
    rw [failed, unwarned, unprompted]
    rw [ended] at loader
    cases unfound with
    | directory error =>
        exact ⟨_, _, .directory error, rfl, by simp, by simp [loader]⟩
    | unknownUser =>
        exact ⟨_, _, .unknownUser, rfl, by simp, by simp [loader]⟩
  · have located := course.reached.located
    rw [locate_eq_seek] at located
    obtain ⟨opened, w', ended, _⟩ := Act.bind_eq_ok located
    rw [ended] at loader
    rw [(course.lines Memory.reserved).1,
      ← course.interrupted_iff (Memory.stations request) Memory.discreet there]
    rcases course.result_cases (Memory.stations request) there with
      ⟨_, result⟩ | ⟨_, ⟨outcome, result⟩ | ⟨error, result⟩⟩ <;> rw [result]
    · exact ⟨_, _, .interrupted, rfl, by simp, by simp [loader]⟩
    · exact ⟨_, _, .success outcome, rfl, by simp, by simp [loader]⟩
    · exact ⟨_, _, .directory error, rfl, by simp, by simp [loader]⟩

/-- The report of an act that ends in such a way has these lines and this status. -/
theorem Reported.reported_eq {settings : Settings} {programName : String} {d : Memory}
    {host : Host.Scripted} {act : Act Memory Host.Scripted Outcome} {lines : List String}
    {status : Except Failure Int}
    (reported : Reported settings programName request d host (act w).1 lines status) :
    (Errand.reported programName act w).1.map Status.code = status ∧
      (Errand.reported programName act w).2.journal =
        (act w).2.journal ++ lines.map .warned := by
  rcases ran : act w with ⟨result, w₁⟩
  rw [ran] at reported
  cases reported with
  | success outcome =>
      rw [Errand.reported_of_ok programName ran]
      exact ⟨rfl, (List.append_nil _).symm⟩
  | interrupted =>
      rw [Errand.reported_of_error programName ran, Errand.reportFailure_of_none rfl]
      exact ⟨rfl, (List.append_nil _).symm⟩
  | directory | unknownUser | unstarted | exited =>
      rw [Errand.reported_of_error programName ran, Errand.reportFailure_of_some rfl]
      exact ⟨rfl, rfl⟩

end Changer

/-! ## The main result -/

open Errand

/-- A report adds its lines to what a run has shown, and nothing else is seen of it. -/
theorem since_of_reported {w w₁ w' : World Memory Host.Scripted} {lines : List String}
    (grown : (identified w).journal <+: w₁.journal)
    (reported : w'.journal = w₁.journal ++ lines.map .warned) :
    (w.since w').warned = ((identified w).since w₁).warned ++ lines ∧
      (w.since w').prompts = ((identified w).since w₁).prompts ∧
      (w.since w').launched = ((identified w).since w₁).launched := by
  obtain ⟨added, during⟩ := grown
  have whole : w.since w' = .queried .privileged :: added ++ lines.map .warned := by
    refine World.since_of_journal_eq ?_
    rw [reported, ← during]
    simp [identified]
  obtain ⟨warned, _, prompts, launched⟩ := Journal.of_warnings lines
  rw [whole, World.since_of_journal_eq during.symm]
  refine ⟨?_, ?_, ?_⟩
  · rw [Journal.warned_append, warned]
    rfl
  · rw [Journal.prompts_append, prompts, List.append_nil]
    rfl
  · rw [Journal.launched, List.filterMap_append, ← Journal.launched, ← Journal.launched, launched,
      List.append_nil]
    rfl

/-- **A change of a password at a directory in memory ends with a status unless the user interrupts
it, and its failures are reported.** Without a user nothing happens. Otherwise the run ends in one
of the ways of `Changer.Reported`, and its lines are the only ones on standard error. -/
theorem failures_reported (settings : Settings) (programName : String) (form : Form)
    (w : World Memory Host.Scripted) (reachable : w.directory.Reachable)
    (refusals : ∀ cause, w.host.startFailure = some cause → cause.isRefusal = true) :
    let ended := changePassword settings programName form w
    let status := ended.1.map Status.code
    let lines := (w.since ended.2).warned
    (Text.isBlank form.username = true → status = .ok (-1) ∧ ended.2 = w) ∧
    (Text.isBlank form.username = false → ∃ request, form.submit = .ok request ∧
      Changer.Reported settings programName request w.directory w.host
        ((⟨settings, w.host.privileged⟩ : Changer).run request (identified w)).1 lines status ∧
      (status = .error .interrupted ↔
        .interrupt ∈ w.answers.take (w.since ended.2).prompts.length) ∧
      (lines.length = 2 ↔ LoaderFailed w ended.2)) := by
  dsimp only
  refine ⟨fun blank => ?_, fun named => ?_⟩
  · rw [changePassword_of_isBlank blank]
    exact ⟨rfl, rfl⟩
  · obtain ⟨request, submitted⟩ := submit_of_not_isBlank named
    rw [changePassword_of_submit named submitted]
    let c : Changer := ⟨settings, w.host.privileged⟩
    obtain ⟨lines, status, ends, unwarned, interrupted, failed⟩ :=
      c.run_reported request programName (w := identified w) reachable.grounded refusals
    obtain ⟨coded, journal⟩ := ends.reported_eq
    have grown := c.run_grows Memory.lookupFrame Host.Scripted.emits request (identified w)
    obtain ⟨shown, prompts, launched⟩ := since_of_reported grown journal
    rw [unwarned, List.nil_append] at shown
    have loader : LoaderFailed w (reported programName (c.run request) (identified w)).2 ↔
        LoaderFailed (identified w) (c.run request (identified w)).2 := by
      unfold LoaderFailed
      rw [launched]
      rfl
    refine ⟨request, submitted, ?_, ?_, ?_⟩
    · rw [shown, coded]
      exact ends
    · rw [coded, prompts]
      exact interrupted
    · rw [shown, loader]
      exact failed

/-- A world without daemons, in which the loader exits with status 3. -/
def brokenLoader : World Memory Host.Scripted where
  directory := { daemonRunning := false }
  host := { singleUser := true, exitStatus := 3 }

theorem broken_loader_reported :
    brokenLoader.directory.Reachable ∧
    ((changePassword {} "passwd" { username := some "alice" } brokenLoader).1.map Status.code =
      .ok 1) ∧
    (brokenLoader.since
      (changePassword {} "passwd" { username := some "alice" } brokenLoader).2).warned.length =
        2 := by
  have reachable : brokenLoader.directory.Reachable := .fresh false "/Local/"
  obtain ⟨_, named⟩ := failures_reported {} "passwd" { username := some "alice" } brokenLoader
    reachable (fun _ start => by cases start)
  obtain ⟨request, _, reported, _, failed⟩ := named (by decide)
  have two := failed.2 (by unfold LoaderFailed; decide +kernel)
  refine ⟨reachable, ?_, two⟩
  generalize Except.map _ _ = status at reported ⊢
  generalize Journal.warned _ = lines at reported two
  cases reported
  rfl

end PasswordChange
