import PasswordChange.Host.Posix
import PasswordChange.Proofs.Bootstrap
import PasswordChange.Proofs.Errand

/-!
# The kernel flag of a POSIX host

A POSIX host counts as multi-user wherever its single-user flag cannot be read, and an error of the
directory is then reported as it is. One thing is in the way of that: a name that cannot be handed to
the kernel is noticed only when the call is made, and the query fails instead of answering no.

* `Host.Posix.Queries` lists the ways in which a query can end.
* `Host.Posix.isSingleUser_error_iff` and `Host.Posix.isSingleUser_eq_true_iff` say when it fails and
  when the answer is yes.
* `flag_query_settled` adds what comes of a change of a password whose session is refused because the
  daemon does not run.
-/

namespace PasswordChange

namespace Host.Posix

/-! ## The query -/

theorem load_flagName (h : Posix) : h.load.2.1.flagName = h.flagName := by
  unfold load
  split <;> rfl

theorem isFlagName_eq_false_iff {name : String} :
    isFlagName name = false ↔ ∃ c ∈ name.toList, 128 ≤ c.toNat := by
  simp [isFlagName]

/-- The library at hand can read flags, but the name of this one cannot be handed to the kernel. -/
structure Unaskable (h : Posix) : Prop where
  able : ∃ value result errno, h.load.1 = some (.flags value result errno)
  foreign : ∃ c ∈ h.flagName.toList, 128 ≤ c.toNat

/-- The kernel was asked for the flag, and the call returned zero and wrote a word that is not
zero. -/
structure Affirmed (h : Posix) : Prop where
  asked : .probed (.readFlag h.flagName) ∈ h.isSingleUser.events
  answered : ∃ value errno, h.load.1 = some (.flags value 0 errno) ∧ value % 0x100000000 ≠ 0

/-- The ways in which a query ends, with what is seen of it. -/
inductive Queries (h : Posix) : Except Failure Bool → List Event → Prop where
  /-- There is no library, or it cannot read flags. -/
  | unavailable : (∀ value result errno, h.load.1 ≠ some (.flags value result errno)) →
    Queries h (.ok false)
      (h.load.2.2 ++ [debug "sysctlbyname unavailable, assuming multi-user"])
  | unaskable : h.Unaskable → Queries h (.error (.unencodable h.flagName)) h.load.2.2
  /-- The call has failed. -/
  | failed {value result errno : Int} : h.load.1 = some (.flags value result errno) →
    isFlagName h.flagName = true → result ≠ 0 →
    Queries h (.ok false) (h.load.2.2 ++ [.probed (.readFlag h.flagName),
      debug ("sysctl " ++ h.flagName ++ " failed: errno " ++ toString errno)])
  | answered {value errno : Int} : h.load.1 = some (.flags value 0 errno) →
    isFlagName h.flagName = true →
    Queries h (.ok (isFlagSet value)) (h.load.2.2 ++ [.probed (.readFlag h.flagName)])

theorem isSingleUser_queries (h : Posix) :
    h.Queries h.isSingleUser.outcome h.isSingleUser.events := by
  have named := h.load_flagName
  unfold isSingleUser
  split
  case h_1 value result errno h' events loaded =>
    have library : h.load.1 = some (.flags value result errno) := by rw [loaded]
    obtain rfl : h' = h.load.2.1 := by rw [loaded]
    obtain rfl : events = h.load.2.2 := by rw [loaded]
    dsimp only
    rw [named]
    cases ascii : isFlagName h.flagName with
    | false =>
        exact .unaskable ⟨⟨value, result, errno, library⟩, isFlagName_eq_false_iff.1 ascii⟩
    | true =>
        rw [if_neg (by decide)]
        by_cases zero : result = 0
        · subst zero
          exact .answered library ascii
        · rw [if_pos zero, List.append_assoc]
          exact .failed library ascii zero
  case h_2 library h' events other loaded =>
    obtain rfl : events = h.load.2.2 := by rw [loaded]
    refine .unavailable fun value result errno able => ?_
    rw [loaded] at able
    exact other value result errno able

/-- Loading the library reads no flag. -/
theorem readFlag_not_mem_load (h : Posix) (name : String) :
    .probed (.readFlag name) ∉ h.load.2.2 := by
  unfold load
  split <;> simp

/-- **A query fails exactly if the name of the flag cannot be handed to a kernel that would be
asked**, and then the kernel is not asked. -/
theorem isSingleUser_error_iff (h : Posix) :
    ((∃ e, h.isSingleUser.outcome = .error e) ↔ h.Unaskable) ∧
    ∀ e, h.isSingleUser.outcome = .error e →
      e = .unencodable h.flagName ∧ .probed (.readFlag h.flagName) ∉ h.isSingleUser.events := by
  have way := h.isSingleUser_queries
  generalize h.isSingleUser.outcome = outcome at way ⊢
  generalize h.isSingleUser.events = events at way ⊢
  cases way with
  | unavailable unable =>
      refine ⟨iff_of_false (by simp) fun unaskable => ?_, by simp⟩
      obtain ⟨value, result, errno, able⟩ := unaskable.able
      exact unable value result errno able
  | unaskable unaskable =>
      refine ⟨iff_of_true ⟨_, rfl⟩ unaskable, ?_⟩
      rintro e failed
      cases failed
      exact ⟨rfl, h.readFlag_not_mem_load _⟩
  | failed _ ascii | answered _ ascii =>
      refine ⟨iff_of_false (by simp) fun unaskable => ?_, by simp⟩
      rw [isFlagName_eq_false_iff.2 unaskable.foreign] at ascii
      cases ascii

/-- **The answer is yes exactly if the kernel was asked, returned zero and wrote a word that is not
zero.** -/
theorem isSingleUser_eq_true_iff (h : Posix) :
    h.isSingleUser.outcome = .ok true ↔ h.Affirmed := by
  have way := h.isSingleUser_queries
  have affirmed_iff : h.Affirmed ↔ .probed (.readFlag h.flagName) ∈ h.isSingleUser.events ∧
      ∃ value errno, h.load.1 = some (.flags value 0 errno) ∧ value % 0x100000000 ≠ 0 :=
    ⟨fun affirmed => ⟨affirmed.asked, affirmed.answered⟩, fun ⟨asked, answered⟩ => ⟨asked, answered⟩⟩
  rw [affirmed_iff]
  generalize h.isSingleUser.outcome = outcome at way ⊢
  generalize h.isSingleUser.events = events at way ⊢
  cases way with
  | unavailable unable =>
      refine iff_of_false (by simp) ?_
      rintro ⟨_, value, errno, able, _⟩
      exact unable value 0 errno able
  | unaskable _ =>
      refine iff_of_false (by simp) ?_
      rintro ⟨asked, _⟩
      exact h.readFlag_not_mem_load _ asked
  | failed library _ nonzero =>
      refine iff_of_false (by simp) ?_
      rintro ⟨_, value, errno, same, _⟩
      rw [library] at same
      cases same
      exact nonzero rfl
  | answered library _ =>
      simp [library, isFlagSet]

end Host.Posix

/-! ## A session that is refused -/

variable {D : Type}

/-- On a POSIX host the caller's privilege is known without a trace. -/
theorem Changer.make_posix (settings : Settings) (w : World D Host.Posix) :
    Changer.make settings none w = (.ok ⟨settings, w.host.uid == 0⟩, w) := by
  simp [make, Act.consult, Host.isPrivileged, Step.ok, Act.andThen, Act.value]

/-- The world after the directory was asked for a session and the host about its mode. -/
def World.questioned [Directory D] (w : World D Host.Posix) : World D Host.Posix :=
  { w with
    directory := (Directory.createSession [] w.directory).state
    host := w.host.isSingleUser.state
    journal := w.journal ++ (Directory.createSession [] w.directory).events ++
      w.host.isSingleUser.events }

/-- Where the daemon does not run, a run that ends with the bootstrap ends there. -/
theorem Changer.run_of_refused [Directory D] (c : Changer) (request : Request)
    {w w₂ : World D Host.Posix} {error : DirectoryError} {e : Failure}
    (refused : (Directory.createSession [] w.directory).outcome = .error (.directory error))
    (down : error.code = .sessionDaemonNotRunning)
    (ends : ∀ w₁ : World D Host.Posix,
      Act.consult Host.isSingleUser w₁ = (w.host.isSingleUser.outcome, w.questioned) →
        c.bootstrap error w₁ = (.error e, w₂)) :
    c.run request w = (.error e, w₂) := by
  have first : Act.perform (Directory.createSession []) w = (.error (.directory error), { w with
      directory := (Directory.createSession [] w.directory).state
      journal := w.journal ++ (Directory.createSession [] w.directory).events }) := by
    rw [← refused]
    rfl
  exact run_of_unopened (openSession_of_unloaded first down (ends _ rfl))

/-- **The query fails only for the name of the flag, and otherwise the error of the session is
reported.** -/
theorem flag_query_settled [Directory D] (settings : Settings) (programName : String) (form : Form)
    (w : World D Host.Posix) :
    let session := Directory.createSession [] w.directory
    let query := w.host.isSingleUser
    let ended := changePassword settings programName form w
    ((∃ e, query.outcome = .error e) ↔ w.host.Unaskable) ∧
    (query.outcome = .ok true ↔ w.host.Affirmed) ∧
    ∀ error, Text.isBlank form.username = false →
      session.outcome = .error (.directory error) → error.code = .sessionDaemonNotRunning →
      (query.outcome = .ok false →
        ended.1.map Status.code = .ok 1 ∧
        w.since ended.2 = session.events ++ query.events ++
          [Event.logged Changer.multiUserEntry, Event.warned (error.render programName)]) ∧
      ∀ e, query.outcome = .error e →
        e = .unencodable w.host.flagName ∧ ended.1 = .error e ∧
        w.since ended.2 = session.events ++ query.events := by
  dsimp only
  obtain ⟨error_iff, failing⟩ := w.host.isSingleUser_error_iff
  refine ⟨error_iff, w.host.isSingleUser_eq_true_iff, fun error named refused down => ?_⟩
  obtain ⟨request, submitted⟩ := Errand.submit_of_not_isBlank named
  have whole := Errand.changePassword_of_make named submitted (Changer.make_posix settings w)
    programName
  refine ⟨fun no => ?_, fun e failed => ?_⟩
  · have ran := Changer.run_of_refused ⟨settings, w.host.uid == 0⟩ request refused down
      fun w₁ asked => Changer.bootstrap_of_no _ error (asked.trans (by rw [no]))
    rw [whole, Errand.reported_of_error programName ran, Errand.reportFailure_of_some rfl]
    refine ⟨rfl, World.since_of_journal_eq ?_⟩
    simp [World.questioned]
  · have ran := Changer.run_of_refused ⟨settings, w.host.uid == 0⟩ request refused down
      fun w₁ asked => Changer.bootstrap_of_unanswered _ error (asked.trans (by rw [failed]))
    obtain ⟨rfl, _⟩ := failing e failed
    rw [whole, Errand.reported_of_error programName ran, Errand.reportFailure_of_none rfl]
    refine ⟨rfl, rfl, World.since_of_journal_eq ?_⟩
    simp [World.questioned]

open Directory (Memory)

/-- A directory whose daemon does not run, on a host with the given flag and library. -/
def stranded (flagName : String) (library : Option Host.Library) : World Memory Host.Posix where
  directory := { daemonRunning := false }
  host := { flagName, library }

/-- Without a library the error of the session is reported; with one and a flag that is not named in
ASCII the query fails, and nothing is reported. -/
theorem stranded_settled :
    ((changePassword {} "passwd" { username := some "alice" } (stranded "kärn" none)).1.map
      Status.code = .ok 1) ∧
    (changePassword {} "passwd" { username := some "alice" }
      (stranded "kärn" (some (.flags 0 0 0)))).1 = .error (.unencodable "kärn") ∧
    ((stranded "kärn" (some (.flags 0 0 0))).since (changePassword {} "passwd"
      { username := some "alice" } (stranded "kärn" (some (.flags 0 0 0)))).2).warned = [] := by
  obtain ⟨_, _, settled⟩ := flag_query_settled {} "passwd" { username := some "alice" }
    (stranded "kärn" none)
  obtain ⟨_, _, unsettled⟩ := flag_query_settled {} "passwd" { username := some "alice" }
    (stranded "kärn" (some (.flags 0 0 0)))
  have reported := ((settled _ (by decide) rfl rfl).1 rfl).1
  obtain ⟨_, failed, seen⟩ := (unsettled _ (by decide) rfl rfl).2 (.unencodable "kärn") (by rfl)
  refine ⟨reported, failed, ?_⟩
  rw [seen]
  rfl

end PasswordChange
