import PasswordChange.Proofs.Change
import PasswordChange.Proofs.Reachable
import PasswordChange.Proofs.Trust

/-!
# Who may change a password

A stored password changes with the authority of a privileged caller, in the trusted part of the
directory, or with that of an authenticator whose password is the answer to the first prompt.

* `Changer.Trusted` and `Changer.VouchedFor` are the two kinds of authority.
* `Changer.authority_sound_complete` says that no password changes without authority, and that
  every confirmed password is stored with it.
-/

namespace PasswordChange.Changer

open Confirmation
open Directory (Memory)

variable {c : Changer} {request : Request} {node : String}

/-! ## Authority -/

/-- The first answer is the password of the authenticator, who is the user or an
administrator. -/
def VouchedFor (request : Request) (node : String) (d : Memory) (answers : List Answer) : Prop :=
  ∃ old rest, answers = .text old :: rest ∧
    d.Vouches node request.username request.authname (some old)

/-- Clearance is given to those with authority. -/
theorem authority_of_cleared {d : Memory} {answers : List Answer} {talk : Conversation}
    (held : Conversation.of (c.needsAuthentication (.named node)) answers = talk)
    (cleared : clearance request (c.needsAuthentication (.named node)) talk node d = .ok ()) :
    c.Trusted node ∨ ¬ c.Trusted node ∧ VouchedFor request node d answers := by
  obtain ⟨_, permitted⟩ := clearance_eq_ok_iff.1 cleared
  cases needed : c.needsAuthentication (.named node) with
  | false => exact Or.inl (needsAuthentication_named_eq_false_iff.1 needed)
  | true =>
      rw [needed] at held
      subst held
      have vouches := Memory.vouches_of_decideAuthenticator (permitted needed)
      obtain ⟨account, vouching, typed, entitled⟩ := vouches
      obtain ⟨rest, first⟩ := Conversation.password?_eq_some_iff.1 typed
      exact Or.inr ⟨needsAuthentication_named_eq_true_iff.1 needed, account.password, rest, first,
        account, vouching, rfl, entitled⟩

/-- Those with authority are given clearance, unless a fault is injected. -/
theorem cleared_of_authority {d : Memory} {answers : List Answer} (grounded : d.Grounded)
    (present : (d.account? node request.username).isSome = true)
    (faultless : d.faults.commit = none)
    (authority : c.Trusted node ∨ VouchedFor request node d answers) :
    clearance request (c.needsAuthentication (.named node))
      (Conversation.of (c.needsAuthentication (.named node)) answers) node d = .ok () := by
  apply clearance_eq_ok_iff.2
  refine ⟨faultless, ?_⟩
  intro needed
  rw [needed]
  rcases authority with trusted | ⟨old, rest, first, vouches⟩
  · exact absurd trusted (needsAuthentication_named_eq_true_iff.1 needed)
  · rw [Conversation.password?_eq_some_iff.2 ⟨rest, first⟩]
    exact (Memory.decideAuthenticator_eq_ok_iff (Memory.has_of_account? present) grounded).2 vouches

/-! ## Soundness and completeness -/

/-- A run that changes a stored password, or says that it has changed one, has found the record
and has the authority to change it. -/
def Sound (c : Changer) (request : Request) (w : World Memory Host.Scripted) : Prop :=
  ((∃ node user, (c.run request w).2.directory.passwordOf node user ≠
      w.directory.passwordOf node user) ∨
    ∃ outcome, (c.run request w).1 = .ok outcome ∧ outcome.changed = true) →
  ∃ found w₀ node, c.locate request w = (.ok found, w₀) ∧
    w₀.directory.recordOf found.record = .ok (node, request.username) ∧
    (c.Trusted node ∨ VouchedFor request node w₀.directory w.answers ∧
      (w.since (c.run request w).2).prompts.head? = some (oldPrompt request))

/-- A run that has found the record, that meets no injected fault and that has the authority
stores the password that the answers confirm. -/
def Complete (c : Changer) (request : Request) (w : World Memory Host.Scripted) : Prop :=
  ∀ found w₀, c.locate request w = (.ok found, w₀) → w.directory.faults.commit = none →
    ∃ node, w₀.directory.recordOf found.record = .ok (node, request.username) ∧
      ∀ password,
        (c.Trusted node ∧ Confirms w.answers password ∨
          ¬ c.Trusted node ∧ VouchedFor request node w₀.directory w.answers ∧
            Confirms w.answers.tail password) →
        (c.run request w).1 = .ok ⟨some request.username, true,
          c.needsAuthentication (.named node), .named node⟩ ∧
        (c.run request w).2.directory.passwordOf node request.username = some password

theorem run_sound (c : Changer) (request : Request) (w : World Memory Host.Scripted) :
    c.Sound request w := by
  intro changed
  rcases c.run_course Memory.lookupFrame Host.Scripted.emits request w with
    stopped | ⟨found, values, w₀, w₁, talk, prelude, rest, course⟩
  · exfalso
    rcases changed with ⟨node, user, differ⟩ | ⟨outcome, succeeded, _⟩
    · exact differ (congrArg _ (stopped.backstage.directory.account?_eq node user))
    · obtain ⟨e, failed⟩ := stopped.failed
      rw [failed] at succeeded
      cases succeeded
  · obtain ⟨node, denotes, held, changes⟩ := course.changes
    refine ⟨found, w₀, node, course.reached.located, denotes.recordOf, ?_⟩
    rcases changes with ⟨password, done⟩ | unchanged
    · rcases authority_of_cleared held done.cleared with trusted | ⟨untrusted, vouched⟩
      · exact Or.inl trusted
      · refine Or.inr ⟨vouched, ?_⟩
        rw [(course.shown Memory.discreet).1, ← held,
          needsAuthentication_named_eq_true_iff.2 untrusted]
        exact Conversation.head?_prompts _ _
    · exfalso
      rcases changed with ⟨node, user, differ⟩ | ⟨outcome, succeeded, changed⟩
      · have kept := course.reached.backstage.directory.trans unchanged.undisturbed
        exact differ (congrArg _ (kept.account?_eq node user))
      · rw [unchanged.result outcome succeeded] at changed
        cases changed

theorem run_complete (c : Changer) (request : Request) {w : World Memory Host.Scripted}
    (grounded : w.directory.Grounded) : c.Complete request w := by
  intro found w₀ located faultless
  rcases c.run_course Memory.lookupFrame Host.Scripted.emits request w with
    stopped | ⟨found', values, w₀', w₁, talk, prelude, rest, course⟩
  · exfalso
    obtain ⟨node, denotes⟩ := denotes_of_located located
    obtain ⟨e, unread⟩ := stopped.unread found w₀ located
    rw [show Directory.copyValues found.record Directory.metanodeLocation w₀.directory = _ from
      Memory.copyValues_eq denotes] at unread
    cases unread
  · cases located.symm.trans course.reached.located
    obtain ⟨node, denotes, held, changes⟩ := course.changes
    have before := course.reached.backstage.directory
    refine ⟨node, denotes.recordOf, ?_⟩
    intro password entitled
    have authority : c.Trusted node ∨ VouchedFor request node w₀.directory w.answers := by
      rcases entitled with ⟨trusted, _⟩ | ⟨_, vouched, _⟩
      · exact Or.inl trusted
      · exact Or.inr vouched
    have confirmed : talk.resolution = .confirmed password := by
      rw [← held]
      rcases entitled with ⟨trusted, confirms⟩ | ⟨untrusted, ⟨old, rest, first, _⟩, confirms⟩
      · rw [needsAuthentication_named_eq_false_iff.2 trusted]
        exact Conversation.resolution_of_confirms confirms fun needed => by cases needed
      · rw [needsAuthentication_named_eq_true_iff.2 untrusted]
        exact Conversation.resolution_of_confirms confirms fun _ => ⟨old, rest, first⟩
    have cleared := cleared_of_authority (c := c) (grounded.of_undisturbed before)
      denotes.present (before.commitFault.trans faultless) authority
    rw [held] at cleared
    rcases changes with ⟨password', done⟩ | unchanged
    · have agree := confirmed.symm.trans done.confirmed
      cases agree
      refine ⟨done.result, ?_⟩
      unfold Memory.passwordOf
      rw [done.replaced.account?_eq, if_pos ⟨rfl, rfl⟩]
      obtain ⟨account, there⟩ := Option.isSome_iff_exists.1 denotes.present
      rw [there]
      rfl
    · exact absurd cleared (unchanged.uncleared password confirmed)

/-- **A password changes only with authority, and with authority it does change.** The caller's
privilege is the one that was given when the changer was made, or else the host's word at that
time. -/
theorem authority_sound_complete (settings : Settings) (given : Option Bool)
    (maker : World Memory Host.Scripted) (request : Request) (w : World Memory Host.Scripted)
    (reachable : w.directory.Reachable) :
    ∃ c : Changer, (Changer.make settings given maker).1 = .ok c ∧ c.settings = settings ∧
      c.privileged = given.getD maker.host.privileged ∧ c.Sound request w ∧
      c.Complete request w := by
  refine ⟨⟨settings, given.getD maker.host.privileged⟩, ?_, rfl, rfl, run_sound _ _ _,
    run_complete _ _ reachable.grounded⟩
  cases given <;> rfl

def soleUser : Memory :=
  Memory.addUser "/Local/Default" "alice" "old" false {}

def soleRequest : Request :=
  ⟨"alice", .unspecified, "alice", by decide, by decide⟩

/-- A world in which the user types the old password and the new one twice. -/
def soleWorld : World Memory Host.Scripted :=
  { directory := soleUser, host := {}, answers := [.text "old", .text "new", .text "new"] }

theorem password_changed_of_soleUser :
    soleUser.Reachable ∧ ∃ c : Changer, (Changer.make {} (some false) soleWorld).1 = .ok c ∧
      (c.run soleRequest soleWorld).2.directory.passwordOf "/Local/Default" "alice" =
        some "new" := by
  have reachable : soleUser.Reachable := .move (.fresh true "/Local/") (.addUser _ _ _ _)
  obtain ⟨c, made, _, _, _, complete⟩ := authority_sound_complete {} (some false) soleWorld
    soleRequest soleWorld reachable
  refine ⟨reachable, c, made, ?_⟩
  cases made
  obtain ⟨node, record, change⟩ := complete _ _ rfl rfl
  have untrusted : ¬ Trusted ⟨{}, false⟩ node := fun trusted => by cases trusted.1
  cases record
  refine (change "new" (Or.inr ⟨untrusted, ?_, ?_⟩)).2
  · exact ⟨"old", _, rfl, _, rfl, rfl, Or.inl rfl⟩
  · exact ⟨by decide, [], [], fun _ member => (List.not_mem_nil member).elim, rfl⟩

end PasswordChange.Changer
