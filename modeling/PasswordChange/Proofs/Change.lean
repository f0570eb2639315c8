import PasswordChange.Proofs.Course
import PasswordChange.Proofs.Store

/-!
# Changing a password in a directory in memory

In a directory in memory the record that a run finds denotes an account, and the only credential
operation of the run is a replacement of that account's password, if it is permitted.

* `Changer.Course.denotes` says which account the record denotes.
* `Changer.Course.changes` says how the run ends and what it does to the accounts: the password
  was replaced, or the accounts are as they were.
-/

namespace PasswordChange.Directory.Memory

variable {d d₁ d₂ d₃ : Memory} {node user password : String}

/-- What is replaced between two moments in which nothing changes is replaced between the
moments before and after them. -/
theorem Replaced.between (before : Undisturbed d d₁) (replaced : d₁.Replaced d₂ node user password)
    (after : Undisturbed d₂ d₃) : d.Replaced d₃ node user password where
  present := by
    rw [← before.account?_eq]
    exact replaced.present
  account?_eq n u := by
    rw [after.account?_eq, replaced.account?_eq, before.account?_eq]
  nodes := by
    rw [after.nodes, replaced.nodes, before.nodes]
  users n := by
    have last : d₃.accounts n = d₂.accounts n := by
      simp only [accounts, after.nodes]
    have first : d₁.accounts n = d.accounts n := by
      simp only [accounts, before.nodes]
    rw [last, replaced.users, first]
  searchOrder := by
    rw [after.searchOrder, replaced.searchOrder, before.searchOrder]

end PasswordChange.Directory.Memory

namespace PasswordChange.Changer

open Confirmation
open Directory (Memory)

variable {H : Type} [Host H] {c : Changer} {request : Request} {found : Found}
  {values : List (Option String)} {talk : Conversation} {prelude rest : List Event}

omit [Host H] in
/-- A record that was found denotes an account of the user. -/
theorem denotes_of_findRecord {n record : HandleId} {user : String} {w w₀ : World Memory H}
    (looked : findRecord n user w = (.ok record, w₀)) :
    ∃ node, w₀.directory.Denotes record node user := by
  have performed := findRecord_eq_ok looked
  obtain ⟨node, denotes⟩ := Memory.denotes_of_copyRecord
    (congrArg (fun result => result.1) performed)
  have state : (w.directory.copyRecord n Directory.userRecords user).state = w₀.directory :=
    congrArg (fun result => result.2.directory) performed
  rw [state] at denotes
  exact ⟨node, denotes⟩

/-- A record that was located denotes an account of the user. -/
theorem denotes_of_located {w w₀ : World Memory H}
    (located : c.locate request w = (.ok found, w₀)) :
    ∃ node, w₀.directory.Denotes found.record node request.username := by
  obtain ⟨session, _, w₂, _, _, looked⟩ := locate_eq_ok located
  exact denotes_of_findRecord looked

/-- The location that decides about a record is the node of the account that it denotes. -/
theorem Reached.denotes {w w₀ w₁ : World Memory H}
    (reached : Reached Memory.Undisturbed c request w found values w₀ w₁) :
    ∃ node, w₀.directory.Denotes found.record node request.username ∧
      w₁.directory = w₀.directory ∧ found.canonical values = .named node := by
  obtain ⟨node, denotes⟩ := denotes_of_located reached.located
  have copied := Memory.copyValues_eq denotes
  have read := reached.read
  have directory := reached.directory
  rw [show Directory.copyValues found.record Directory.metanodeLocation w₀.directory = _ from
    copied] at read directory
  cases read
  exact ⟨node, denotes, directory, rfl⟩

/-- The authenticator must vouch for the change with the old password, if it was asked for. -/
def clearance (request : Request) (needsAuth : Bool) (talk : Conversation) (node : String)
    (d : Memory) : Except Failure Unit :=
  d.permit (if needsAuth then
    d.decideAuthenticator node request.authname (.text request.username) talk.opening.password?
  else .ok ())

/-- The credential call of a confirmed conversation. -/
def submittedCall (request : Request) (needsAuth : Bool) (talk : Conversation)
    (password : String) : Directory.Call :=
  if needsAuth then
    .setCredentials Directory.userRecords Directory.setPassword (.text request.username) password
      (.text request.authname) talk.opening.password?
  else .changePassword request.username none password

/-- The submission of a confirmed conversation makes its call, which replaces the password if it is
cleared. -/
theorem submissionOf_eq_replacing_call {needsAuth : Bool} {answers : List Answer}
    {password node : String} {d : Memory} (held : Conversation.of needsAuth answers = talk)
    (confirmed : talk.resolution = .confirmed password) {record : HandleId}
    (denotes : d.Denotes record node request.username) (v : Vault) :
    submissionOf record request needsAuth talk v d =
      Memory.replacing (clearance request needsAuth talk node d)
        (submittedCall request needsAuth talk password) node request.username password d := by
  obtain ⟨new, given, _, contents⟩ := talk.new?_of_confirmed confirmed v
  have revealed : Memory.revealed (talk.vault v) (.ofSecret? (talk.new? v)) = .ok password := by
    rw [given]
    exact Vault.reveal_of_contents_eq contents
  cases needsAuth with
  | true =>
      have proof : Memory.revealed? (talk.vault v) (.ofSecret? (talk.old? v)) =
          .ok talk.opening.password? := by
        rw [Memory.revealed?_ofSecret?]
        exact talk.reveal_old? v
      exact Memory.setCredentials_eq denotes revealed proof _ _
  | false =>
      have none : talk.old? v = none := by
        rw [← held]
        rfl
      have changed := Memory.changePassword_eq denotes revealed
      refine Eq.trans ?_ changed
      show Directory.changePassword (talk.vault v) record (.ofSecret? (talk.old? v))
        (.ofSecret? (talk.new? v)) d = _
      rw [none]
      rfl

theorem isCredential_submittedCall (request : Request) (needsAuth : Bool) (talk : Conversation)
    (password : String) : (submittedCall request needsAuth talk password).isCredential = true := by
  cases needsAuth <;> rfl

/-- The submission of a confirmed conversation replaces the password if it is cleared. -/
theorem submissionOf_eq_replacing {needsAuth : Bool} {answers : List Answer}
    {password node : String} {d : Memory} (held : Conversation.of needsAuth answers = talk)
    (confirmed : talk.resolution = .confirmed password) {record : HandleId}
    (denotes : d.Denotes record node request.username) (v : Vault) :
    ∃ call, call.isCredential = true ∧ submissionOf record request needsAuth talk v d =
      Memory.replacing (clearance request needsAuth talk node d) call node request.username
        password d :=
  ⟨_, isCredential_submittedCall request needsAuth talk password,
    submissionOf_eq_replacing_call held confirmed denotes v⟩

/-! ## How a run ends, and what it does to the accounts -/

/-- The run replaced the password of the user's account in the node, and says so. -/
structure Changed (c : Changer) (request : Request) (talk : Conversation) (node password : String)
    (d d' : Memory) (result : Except Failure Outcome) : Prop where
  confirmed : talk.resolution = .confirmed password
  cleared : clearance request (c.needsAuthentication (.named node)) talk node d = .ok ()
  result : result =
    .ok ⟨some request.username, true, c.needsAuthentication (.named node), .named node⟩
  replaced : d.Replaced d' node request.username password

/-- The run changed no account, does not say that it did, and had not been cleared to do so. -/
structure Unchanged (c : Changer) (request : Request) (talk : Conversation) (node : String)
    (d d' : Memory) (result : Except Failure Outcome) : Prop where
  uncleared (password : String) : talk.resolution = .confirmed password →
    clearance request (c.needsAuthentication (.named node)) talk node d ≠ .ok ()
  result (outcome : Outcome) : result = .ok outcome → outcome.changed = false
  undisturbed : Memory.Undisturbed d d'

/-- Clearance is given or refused by the accounts, the search order and the injected fault. -/
theorem clearance_eq_ok_iff {needsAuth : Bool} {node : String} {d : Memory} :
    clearance request needsAuth talk node d = .ok () ↔ d.faults.commit = none ∧
      (needsAuth = true → d.decideAuthenticator node request.authname (.text request.username)
        talk.opening.password? = .ok ()) := by
  unfold clearance
  rw [Memory.permit_eq_ok_iff]
  cases needsAuth <;> simp

/-- **A conclusion in memory is a replacement that is reported, or nothing changes.** -/
theorem Concludes.changes {node : String} {d d' : Memory} {v : Vault}
    {result : Except Failure Outcome} {answers : List Answer}
    (concludes : Concludes Memory.Undisturbed c request found (.named node) talk v d result d' rest)
    (held : Conversation.of (c.needsAuthentication (.named node)) answers = talk)
    (denotes : d.Denotes found.record node request.username) :
    (∃ password, Changed c request talk node password d d' result) ∨
      Unchanged c request talk node d d' result := by
  cases concludes with
  | interrupted resolved kept =>
      refine Or.inr ⟨?_, ?_, kept⟩
      · intro password confirmed
        rw [resolved] at confirmed
        cases confirmed
      · intro outcome same
        cases same
  | declined resolved kept =>
      refine Or.inr ⟨?_, ?_, kept⟩
      · intro password confirmed
        rw [resolved] at confirmed
        cases confirmed
      · intro outcome same
        cases same
        rfl
  | @submitted password _ _ step confirmed submitted kept =>
      obtain ⟨call, _, replacing⟩ := submissionOf_eq_replacing held confirmed denotes v
      rw [replacing] at submitted
      rcases Memory.replacing_cases (clearance request (c.needsAuthentication (.named node)) talk
        node d) call password denotes.present with
        ⟨cleared, outcome, replaced⟩ | ⟨e, refused, outcome, state⟩ <;>
        rw [← submitted] at outcome
      · rw [← submitted] at replaced
        refine Or.inl ⟨password, confirmed, cleared, ?_, replaced.between (.refl d) kept⟩
        rw [outcome]
        rfl
      · rw [← submitted] at state
        rw [state] at kept
        refine Or.inr ⟨?_, ?_, kept⟩
        · intro _ _ cleared
          rw [refused] at cleared
          cases cleared
        · intro _ same
          rw [outcome] at same
          cases same

/-- A refusal is no interruption by the user. -/
theorem clearance_ne_interrupted (request : Request) (needsAuth : Bool) (talk : Conversation)
    (node : String) (d : Memory) :
    clearance request needsAuth talk node d ≠ .error .interrupted := by
  unfold clearance Memory.permit
  split
  · intro same
    cases same
  · split
    · exact Memory.decideAuthenticator_ne_interrupted _ _ _ _
    · intro same
      cases same

/-- A run at a record is interrupted exactly if its conversation is. -/
theorem Concludes.interrupted_iff {node : String} {d d' : Memory} {v : Vault}
    {result : Except Failure Outcome} {answers : List Answer}
    (concludes : Concludes Memory.Undisturbed c request found (.named node) talk v d result d' rest)
    (held : Conversation.of (c.needsAuthentication (.named node)) answers = talk)
    (denotes : d.Denotes found.record node request.username) :
    result = .error .interrupted ↔ talk.resolution = .interrupted := by
  cases concludes with
  | interrupted resolved => exact ⟨fun _ => resolved, fun _ => rfl⟩
  | declined resolved =>
      rw [resolved]
      exact ⟨(nomatch ·), (nomatch ·)⟩
  | @submitted password _ _ step confirmed submitted =>
      obtain ⟨call, _, replacing⟩ := submissionOf_eq_replacing held confirmed denotes v
      rw [replacing] at submitted
      rw [confirmed]
      refine ⟨?_, (nomatch ·)⟩
      intro failed
      rcases Memory.replacing_cases (clearance request (c.needsAuthentication (.named node)) talk
        node d) call password denotes.present with ⟨_, outcome, _⟩ | ⟨e, refused, outcome, _⟩ <;>
        rw [← submitted] at outcome <;> rw [outcome] at failed
      · cases failed
      · cases failed
        exact absurd refused (clearance_ne_interrupted _ _ _ _ _)

/-! ## The course of a run in memory -/

section Course

variable {w w₀ w₁ : World Memory H}
  (course : Course Memory.Undisturbed c request w found values w₀ w₁ talk prelude rest)

include course

/-- **The record of a run denotes the account of the user that the run concludes with.** -/
theorem Course.denotes :
    ∃ node, w₀.directory.Denotes found.record node request.username ∧
      Conversation.of (c.needsAuthentication (.named node)) w.answers = talk ∧
      Concludes Memory.Undisturbed c request found (.named node) talk w.vault w₀.directory
        (c.run request w).1 (c.run request w).2.directory rest := by
  obtain ⟨node, denotes, same, canonical⟩ := course.reached.denotes
  have held := course.held
  have concludes := course.concludes
  rw [canonical] at held concludes
  rw [same] at concludes
  exact ⟨node, denotes, held, concludes⟩

/-- **A run replaces the password of the account that its record denotes, or no password.** -/
theorem Course.changes :
    ∃ node, w₀.directory.Denotes found.record node request.username ∧
      Conversation.of (c.needsAuthentication (.named node)) w.answers = talk ∧
      ((∃ password, Changed c request talk node password w₀.directory
          (c.run request w).2.directory (c.run request w).1) ∨
        Unchanged c request talk node w₀.directory (c.run request w).2.directory
          (c.run request w).1) := by
  obtain ⟨node, denotes, held, concludes⟩ := course.denotes
  exact ⟨node, denotes, held, concludes.changes held denotes⟩

end Course

end PasswordChange.Changer
