import PasswordChange.Proofs.Change
import PasswordChange.Proofs.Errand

/-!
# Histories of a directory in memory

A history is a sequence of calls of the library on one directory, each on a host of its own and
with answers of its own.

* `Visit.Replaces` says what a call does that changes a password: which account, which password,
  and where it was typed.
* `Visit.replaces_or_keeps` is the step: a call does this, or it leaves all accounts as they are.
* `history_of_visits` says so of every call of every history.
-/

namespace PasswordChange

open Confirmation
open Directory (Memory)

/-- A call of the library, with the host and the answers that it meets. -/
structure Visit where
  errand : Errand
  host : Host.Scripted
  answers : List Answer

namespace Visit

/-- The world in which a visit begins. -/
def enter (visit : Visit) (w : World Memory Host.Scripted) : World Memory Host.Scripted :=
  { w with host := visit.host, answers := visit.answers }

/-- The world after a visit. -/
def leave (visit : Visit) (w : World Memory Host.Scripted) : World Memory Host.Scripted :=
  (visit.errand.act (visit.enter w)).2

/-- There is a run inside the visit, and it says that it changed a password. -/
def SaysChanged (visit : Visit) (w : World Memory Host.Scripted) : Prop :=
  ∃ c request w₀ outcome, visit.errand.inner? (visit.enter w) = some (c, request, w₀) ∧
    (c.run request w₀).1 = .ok outcome ∧ outcome.changed = true

/-- Every node, account, password and flag and the search order are the same after the visit. -/
structure Keeps (visit : Visit) (w : World Memory Host.Scripted) : Prop where
  nodes : (visit.leave w).directory.nodes = w.directory.nodes
  searchOrder : (visit.leave w).directory.searchOrder = w.directory.searchOrder

/-- The run inside the visit changes the password of the user in the node where the lookup found
the record, to the text that was typed last, and says so; nothing else is changed. -/
structure Replaces (visit : Visit) (w : World Memory Host.Scripted) (c : Changer)
    (request : Request) (w₀ : World Memory Host.Scripted) (node password : String) : Prop where
  inner : visit.errand.inner? (visit.enter w) = some (c, request, w₀)
  result : (c.run request w₀).1 =
    .ok ⟨some request.username, true, c.needsAuthentication (.named node), .named node⟩
  record : ∃ found w₁, c.locate request w₀ = (.ok found, w₁) ∧
    w₁.directory.recordOf found.record = .ok (node, request.username)
  replaced : w.directory.Replaced (visit.leave w).directory node request.username password
  typed : TypedLast visit.answers (visit.leave w).answers (w.since (visit.leave w)).prompts
    password

end Visit

/-- A run of the flow replaces a password, in the way it says, or leaves the accounts alone. -/
theorem Changer.replaces_or_keeps (c : Changer) (request : Request)
    (w : World Memory Host.Scripted) :
    (∃ node password, (c.run request w).1 =
        .ok ⟨some request.username, true, c.needsAuthentication (.named node), .named node⟩ ∧
      (∃ found w₁, c.locate request w = (.ok found, w₁) ∧
        w₁.directory.recordOf found.record = .ok (node, request.username)) ∧
      w.directory.Replaced (c.run request w).2.directory node request.username password ∧
      TypedLast w.answers (c.run request w).2.answers (w.since (c.run request w).2).prompts
        password) ∨
    (∀ outcome, (c.run request w).1 = .ok outcome → outcome.changed = false) ∧
      Memory.Undisturbed w.directory (c.run request w).2.directory := by
  rcases c.run_course Memory.lookupFrame Host.Scripted.emits request w with
    stopped | ⟨found, values, w₀, w₁, talk, prelude, rest, course⟩
  · obtain ⟨e, failed⟩ := stopped.failed
    refine Or.inr ⟨?_, stopped.backstage.directory⟩
    intro outcome same
    rw [failed] at same
    cases same
  · obtain ⟨node, denotes, held, changes⟩ := course.changes
    have before := course.reached.backstage.directory
    rcases changes with ⟨password, done⟩ | unchanged
    · refine Or.inl ⟨node, password, done.result,
        ⟨found, w₀, course.reached.located, denotes.recordOf⟩,
        done.replaced.between before (.refl _), ?_⟩
      have confirmed := done.confirmed
      rw [(course.shown Memory.discreet).1, course.talked.answers]
      subst held
      exact Conversation.typedLast confirmed _
    · exact Or.inr ⟨unchanged.result, before.trans unchanged.undisturbed⟩

namespace Visit

/-- **A visit replaces one password, in the way its run says, or keeps all accounts.** -/
theorem replaces_or_keeps (visit : Visit) (w : World Memory Host.Scripted) :
    (∃ c request w₀ node password, visit.Replaces w c request w₀ node password) ∨
      ¬ visit.SaysChanged w ∧ visit.Keeps w := by
  rcases visit.errand.act_cases (visit.enter w) with
    ⟨none, aside, _⟩ | ⟨c, request, w₀, inner, before, after, _⟩
  · refine Or.inr ⟨?_, congrArg Memory.nodes aside.directory,
      congrArg Memory.searchOrder aside.directory⟩
    rintro ⟨c, request, w₀, outcome, inner, _⟩
    rw [none] at inner
    cases inner
  · have start : w₀.directory = w.directory := before.directory
    have finish : (visit.leave w).directory = (c.run request w₀).2.directory := after.directory
    rcases c.replaces_or_keeps request w₀ with
      ⟨node, password, result, record, replaced, typed⟩ | ⟨unsaid, undisturbed⟩
    · refine Or.inl ⟨c, request, w₀, node, password, inner, result, record, ?_, ?_⟩
      · rw [finish, ← start]
        exact replaced
      · have grows := c.run_grows Memory.lookupFrame Host.Scripted.emits request w₀
        have prompts := (before.since grows after).1
        have answers : w₀.answers = visit.answers := before.answers
        rw [show w.since (visit.leave w) = (visit.enter w).since (visit.leave w) from rfl]
        rw [answers, ← after.answers] at typed
        unfold leave
        rw [prompts]
        exact typed
    · refine Or.inr ⟨?_, ?_, ?_⟩
      · rintro ⟨c', request', w₀', outcome, inner', said, changed⟩
        rw [inner] at inner'
        cases inner'
        rw [unsaid outcome said] at changed
        cases changed
      · rw [finish, undisturbed.nodes, start]
      · rw [finish, undisturbed.searchOrder, start]

end Visit

/-- A history: every visit keeps the accounts, or replaces a password and says so. -/
inductive History : World Memory Host.Scripted → List Visit → World Memory Host.Scripted → Prop
  | nil (w : World Memory Host.Scripted) : History w [] w
  | kept {w w' : World Memory Host.Scripted} {visit : Visit} {visits : List Visit} :
    ¬ visit.SaysChanged w → visit.Keeps w → History (visit.leave w) visits w' →
    History w (visit :: visits) w'
  | replaced {w w₀ w' : World Memory Host.Scripted} {visit : Visit} {visits : List Visit}
    {c : Changer} {request : Request} {node password : String} :
    visit.Replaces w c request w₀ node password → History (visit.leave w) visits w' →
    History w (visit :: visits) w'

/-- **Every sequence of visits is such a history.** -/
theorem history_of_visits (visits : List Visit) (w : World Memory Host.Scripted) :
    History w visits (visits.foldl (fun w visit => visit.leave w) w) := by
  induction visits generalizing w with
  | nil => exact .nil w
  | cons visit rest ih =>
      have later := ih (visit.leave w)
      rcases visit.replaces_or_keeps w with
        ⟨c, request, w₀, node, password, replaces⟩ | ⟨unsaid, keeps⟩
      · exact .replaced replaces later
      · exact .kept unsaid keeps later

end PasswordChange
