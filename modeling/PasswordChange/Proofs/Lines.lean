import PasswordChange.Proofs.Course
import PasswordChange.Proofs.Lockstep

/-!
# The lines of a run

A run shows lines on standard output alone: the line that announces its conversation, and those of
the conversation itself. Credential operations show nothing, nor does anything backstage.

* `Changer.Course.lines` says which lines a run shows that takes its course.
* `Changer.Stopped.silent` says that a run that is stopped before warns of nothing.
-/

namespace PasswordChange

/-- The event is a line on the terminal. -/
def Event.isLine : Event → Bool
  | .said _ | .warned _ => true
  | _ => false

theorem Event.not_isLine_of_isBackstage {event : Event} (backstage : event.isBackstage = true) :
    event.isLine = false := by
  cases event <;> first | rfl | cases backstage

theorem Event.not_isLine_of_not_isCommon {event : Event} (reserved : event.isCommon = false) :
    event.isLine = false := by
  cases event <;> first | rfl | cases reserved

namespace Journal

variable {j : Journal}

theorem said_eq_nil (silent : ∀ event ∈ j, event.isLine = false) : j.said = [] := by
  refine List.filterMap_eq_nil_iff.2 fun event member => ?_
  have kind := silent event member
  cases event <;> first | rfl | cases kind

theorem warned_eq_nil (silent : ∀ event ∈ j, ∀ line, event ≠ .warned line) : j.warned = [] := by
  refine List.filterMap_eq_nil_iff.2 fun event member => ?_
  cases event with
  | warned line => exact absurd rfl (silent _ member line)
  | _ => rfl

theorem warned_of_not_isLine (silent : ∀ event ∈ j, event.isLine = false) : j.warned = [] := by
  refine warned_eq_nil fun event member line same => ?_
  have kind := silent event member
  rw [same] at kind
  cases kind

theorem warned_of_isSpoken (spoken : ∀ event ∈ j, event.isSpoken = true) : j.warned = [] := by
  refine warned_eq_nil fun event member line same => ?_
  have kind := spoken event member
  rw [same] at kind
  cases kind

/-- Of lines on standard error nothing else is seen. -/
theorem of_warnings (lines : List String) :
    Journal.warned (lines.map .warned) = lines ∧ Journal.said (lines.map .warned) = [] ∧
      Journal.prompts (lines.map .warned) = [] ∧ Journal.launched (lines.map .warned) = [] := by
  induction lines with
  | nil => exact ⟨rfl, rfl, rfl, rfl⟩
  | cons line rest ih =>
      obtain ⟨warned, said, prompts, launched⟩ := ih
      exact ⟨congrArg (line :: ·) warned, said, prompts, launched⟩

end Journal

/-- The events of the credential operations concern the directory alone. -/
structure Directory.Reserved (D : Type) [Directory D] : Prop where
  setCredentials (v : Vault) (record : HandleId) (recordType authType : String)
    (items : List Directory.Item) (d : D) : ∀ event ∈
      (Directory.setCredentials v record recordType authType items d).events,
      event.isCommon = false
  changePassword (v : Vault) (record : HandleId) (old new : Directory.Item) (d : D) :
    ∀ event ∈ (Directory.changePassword v record old new d).events, event.isCommon = false

namespace Directory

theorem Memory.reserved : Reserved Memory := by
  have kind {d : Memory} {step : Step Memory Unit} (credited : d.Credited step) :
      ∀ event ∈ step.events, event.isCommon = false := by
    intro event member
    obtain ⟨call, accepted, rfl, _⟩ := credited.events event member
    rfl
  exact ⟨fun v record recordType authType items d =>
      kind (Memory.credited_setCredentials v record recordType authType items d),
    fun v record old new d => kind (Memory.credited_changePassword v record old new d)⟩

theorem Native.reserved : Reserved Native := by
  have kind (decision : Except Failure Framework.Call) (d : Native) :
      ∀ event ∈ (d.submit decision).events, event.isCommon = false := by
    unfold Native.submit
    split
    · exact fun _ member => (List.not_mem_nil member).elim
    · dsimp only
      split <;> exact List.forall_mem_singleton.2 rfl
  exact ⟨fun _ _ _ _ _ d => kind _ d, fun _ _ _ _ d => kind _ d⟩

end Directory

namespace Changer

open Confirmation

variable {D H : Type} [Directory D] [Host H] {R : D → D → Prop} {c : Changer} {request : Request}
  {w w₀ w₁ : World D H} {found : Found} {values : List (Option String)} {talk : Conversation}
  {prelude rest : List Event}

omit [Host H] in
/-- After the conversation no line is shown. -/
theorem Concludes.not_isLine (reserved : Directory.Reserved D) {location : Location} {v : Vault}
    {d d' : D} {result : Except Failure Outcome}
    (concludes : Concludes R c request found location talk v d result d' rest) :
    ∀ event ∈ rest, event.isLine = false := by
  cases concludes with
  | interrupted _ _ quiet | declined _ _ quiet =>
      exact fun event member => Event.not_isLine_of_isBackstage (quiet event member)
  | submitted _ submitted _ quiet =>
      refine List.forall_mem_append.2 ⟨List.forall_mem_cons.2 ⟨rfl, ?_⟩,
        fun event member => Event.not_isLine_of_isBackstage (quiet event member)⟩
      intro event member
      refine Event.not_isLine_of_not_isCommon ?_
      rw [submitted] at member
      unfold submissionOf submission at member
      split at member
      · exact reserved.setCredentials _ _ _ _ _ _ event member
      · exact reserved.changePassword _ _ _ _ _ event member

/-- **The lines of a run that takes its course are the announcement and those of the conversation**,
all on standard output. -/
theorem Course.lines (reserved : Directory.Reserved D)
    (course : Course R c request w found values w₀ w₁ talk prelude rest) :
    (w.since (c.run request w).2).warned = [] ∧
      (w.since (c.run request w).2).said =
        Journal.said prelude ++ Journal.said (talk.events (oldPrompt request) w.vault) := by
  have after := course.concludes.not_isLine reserved
  have before : Journal.warned prelude = [] := by
    refine Journal.warned_eq_nil fun event member line same => ?_
    rcases course.announced event member with backstage | announcement
    · rw [same] at backstage
      cases backstage
    · rw [same] at announcement
      cases announcement
  have during := Journal.warned_of_isSpoken
    (talk.isSpoken_events (oldPrompt request) w.vault)
  rw [course.since]
  refine ⟨?_, ?_⟩
  · rw [Journal.warned_append, Journal.warned_append, before, during,
      Journal.warned_of_not_isLine after]
    rfl
  · rw [Journal.said_append, Journal.said_append, Journal.said_eq_nil after, List.append_nil]

/-- A run that is stopped warns of nothing and does not prompt. -/
theorem Stopped.silent (stopped : Stopped R c request w) :
    (w.since (c.run request w).2).warned = [] ∧ (w.since (c.run request w).2).prompts = [] :=
  ⟨Journal.warned_of_not_isLine fun event member =>
      Event.not_isLine_of_isBackstage (stopped.since event member),
    (Journal.prompts_of_isSilent fun event member =>
      Event.isSilent_of_isBackstage (stopped.since event member)).1⟩

end Changer

end PasswordChange
