import Mathlib.Data.List.Forall2
import PasswordChange.Proofs.Answering
import PasswordChange.Proofs.Store

/-!
# Operations that are passed on to a framework

A directory in memory and a directory over a native framework carry out the same operations. If the
framework answers as the directory in memory replies, the operations end in the same way, and the
framework gets the calls that the directory in memory gets.

* `Passed` says which native call corresponds to a call on a directory, `Journal.Follows` that every
  call was passed on and that nothing else is different at the terminal and on the host.
* `Mirrors` is the invariant: the answers that the framework has still to give say the same as the
  replies that are still to come.
* `steps_of_conclude` is the step of an operation that opens something. `Memory.Finds` and
  `Memory.Submits` sum up the steps of the others at the directory in memory.
-/

namespace PasswordChange

open Directory (Memory Native Recorded Reply)
open Framework (Constant)

/-! ## Calls that are passed on -/

/-- A native call passes on a call on a directory, in a change of the password of `username`; the
flags tell whether they were accepted. The framework does not accept the lookup of a record that is
not there. -/
inductive Passed (username : String) : Directory.Call × Bool → Framework.Call × Bool → Prop where
  | createSession (options : List (String × Value)) (accepted : Bool) :
    Passed username (.createSession options, accepted)
      (.session ((Native.localPath? options).map fun path =>
        (Constant.sessionLocalPath.value, path)), accepted)
  | openNodeByName (session : Framework.Object) (name : String) (accepted : Bool) :
    Passed username (.openNodeByName name, accepted) (.nodeByName session name, accepted)
  | openNodeByType (session : Framework.Object) (accepted : Bool) :
    Passed username (.openNodeByType Directory.authenticationNode, accepted)
      (.nodeByType session Constant.nodeTypeAuthentication.value, accepted)
  | copyRecord (node : Framework.Object) (accepted : Bool) :
    Passed username (.copyRecord Directory.userRecords username, accepted)
      (.record node Constant.recordTypeUsers.value username, accepted)
  | absent (node : Framework.Object) :
    Passed username (.copyRecord Directory.userRecords username, true)
      (.record node Constant.recordTypeUsers.value username, false)
  | setCredentials (record : Framework.Object) (new authname : String) (old : Option String)
      (accepted : Bool) :
    Passed username
      (.setCredentials Directory.userRecords Directory.setPassword (.text username) new
        (.text authname) old, accepted)
      (.setCredentials record Constant.recordTypeUsers.value
        Constant.authenticationSetPassword.value [some username, some new, some authname, old],
        accepted)
  | changePassword (record : Framework.Object) (old : Option String) (new : String)
      (accepted : Bool) :
    Passed username (.changePassword username old new, accepted)
      (.changePassword record old (some new), accepted)

/-- The event can be seen at the terminal or on the host. -/
def Event.isOutward : Event → Bool
  | .called .. | .released _ | .native .. | .logged _ => false
  | _ => true

namespace Journal

/-- The calls on the directory, and whether it accepted them. -/
def asked (j : Journal) : List (Directory.Call × Bool) :=
  j.filterMap fun | .called call accepted => some (call, accepted) | _ => none

/-- The native calls but those that read values, and whether the framework accepted them. -/
def passedOn (j : Journal) : List (Framework.Call × Bool) :=
  j.filterMap fun
    | .native (.values ..) _ => none
    | .native call accepted => some (call, accepted)
    | _ => none

/-- The same is seen at the terminal and on the host, and every call is passed on. -/
structure Follows (username : String) (j k : Journal) : Prop where
  outward : k.filter Event.isOutward = j.filter Event.isOutward
  calls : List.Forall₂ (Passed username) j.asked k.passedOn

variable {username : String} {j j' k k' : Journal}

theorem asked_eq_nil (silent : ∀ event ∈ j, ∀ call accepted, event ≠ .called call accepted) :
    j.asked = [] := by
  refine List.filterMap_eq_nil_iff.2 fun event member => ?_
  cases event with
  | called call accepted => exact absurd rfl (silent _ member call accepted)
  | _ => rfl

theorem follows_of_isCommon (isCommon : ∀ event ∈ j, event.isCommon = true) :
    Follows username j j := by
  have none : j.asked = [] := by
    refine asked_eq_nil fun event member call accepted same => ?_
    subst same
    exact absurd (isCommon _ member) Bool.false_ne_true
  have none' : j.passedOn = [] := by
    refine List.filterMap_eq_nil_iff.2 fun event member => ?_
    have kind := isCommon event member
    cases event <;> first | rfl | cases kind
  refine ⟨rfl, ?_⟩
  rw [none, none']
  exact .nil

theorem Follows.append (first : Follows username j k) (second : Follows username j' k') :
    Follows username (j ++ j') (k ++ k') := by
  refine ⟨?_, ?_⟩
  · rw [List.filter_append, List.filter_append, first.outward, second.outward]
  · unfold asked passedOn
    rw [List.filterMap_append, List.filterMap_append]
    exact List.rel_append first.calls second.calls

/-- Handles that are released need not be passed on. -/
theorem follows_of_released (released : ∀ event ∈ j, ∃ kind, event = .released kind) :
    Follows username j [] := by
  have silent : j.filter Event.isOutward = [] := by
    refine List.filter_eq_nil_iff.2 fun event member => ?_
    obtain ⟨kind, rfl⟩ := released event member
    exact nofun
  have none : j.asked = [] := by
    refine asked_eq_nil fun event member => ?_
    obtain ⟨kind, rfl⟩ := released event member
    exact nofun
  refine ⟨silent.symm, ?_⟩
  rw [none]
  exact .nil

/-- A call that is passed on. -/
theorem follows_of_passed {call : Directory.Call} {call' : Framework.Call}
    {accepted accepted' : Bool} (passed : Passed username (call, accepted) (call', accepted')) :
    Follows username [.called call accepted] [.native call' accepted'] := by
  refine ⟨rfl, ?_⟩
  have native : passedOn [.native call' accepted'] = [(call', accepted')] := by
    cases passed <;> rfl
  rw [native]
  exact .cons passed .nil

end Journal

/-! ## Comparing the two -/

/-- Errors have to say the same, and calls have to be passed on. The replies of the first directory
are the first ones of `replies`. -/
def agreement (username : String) (replies : List Reply) : Comparison (Recorded Memory) where
  rename := .identity
  error := DirectoryError.Alike
  events := Journal.Follows username
  ahead r := r.replies <+: replies
  error_refl _ := ⟨rfl, rfl, rfl, Iff.rfl⟩
  render_eq same := same.render_eq
  code_iff same := same.code_iff
  common _ isCommon := Journal.follows_of_isCommon isCommon
  append := Journal.Follows.append

variable {f : Framework} {username : String} {replies : List Reply}

/-- The framework of the native directory is complete and will answer as the recorded directory will
reply. -/
structure Mirrors (f : Framework) (replies : List Reply) (r : Recorded Memory) (n : Native) :
    Prop where
  speaks : n.Speaks f
  answers (k : Nat) (reply : Reply) : replies[r.replies.length + k]? = some reply →
    f.Answers reply (n.reply k)

/-- The reply to an operation is answered next, and after that the later ones. -/
theorem Mirrors.asked {α : Type} {r : Recorded Memory} {n : Native}
    (mirrors : Mirrors f replies r n) {read : α → Reply} {operation : Memory → Step Memory α}
    (ahead : (Recorded.ask read operation r).state.replies <+: replies) :
    f.Answers (.ofOutcome read (operation r.directory).outcome) (n.reply 0) ∧
      ∀ n' : Native, n'.Speaks f → n'.pending = n.ask.2.pending →
        Mirrors f replies (Recorded.ask read operation r).state n' := by
  obtain ⟨later, whole⟩ := ahead
  change (r.replies ++ [_]) ++ later = replies at whole
  refine ⟨mirrors.answers 0 _ ?_, fun n' speaks rest => ⟨speaks, fun k reply next => ?_⟩⟩
  · simp [← whole]
  · have dropped : n'.pending = n.pending.drop 1 := rest.trans (Native.ask_eq n).2.1
    rw [Native.reply_of_pending_eq dropped]
    have length : (Recorded.ask read operation r).state.replies.length = r.replies.length + 1 :=
      List.length_append
    refine mirrors.answers (1 + k) reply ?_
    rw [← next, length, Nat.add_assoc]

/-- An operation that was answered by an error failed with the same error. -/
theorem Framework.Answers.of_error {α : Type} {read : α → Reply} {e : Failure}
    {response : Framework.Response} (answers : f.Answers (.ofOutcome read (.error e)) response) :
    ∃ error native, e = .directory error ∧ response.ok = false ∧
      response.error = some native ∧ f.Carries native error := by
  cases e
  case directory error =>
    obtain ⟨refused, native, given, carries⟩ := answers
    exact ⟨error, native, rfl, refused, given, carries⟩
  all_goals exact answers.elim

theorem fails_of_carries (complete : f.Complete) {n : Native} (speaks : n.Speaks f)
    {native : Framework.NativeError} {error : DirectoryError} (carries : f.Carries native error)
    {fallback : ErrorCode} (other : fallback ≠ .sessionDaemonNotRunning) :
    (agreement username replies).Fails (.directory error) (n.refusal fallback (some native)) := by
  rw [speaks.refusal_eq]
  exact .directory (carries.alike complete other)

/-- An operation that opens something is passed on to the framework. -/
theorem steps_of_conclude {call : Directory.Call} {call' : Framework.Call}
    {decide : Memory → Except Failure (Handle Memory.Ref)} {kind : Handle.Kind}
    {fallback : ErrorCode} {name : Framework.Response → Value} {r : Recorded Memory} {n : Native}
    (complete : f.Complete) (mirrors : Mirrors f replies r n)
    (passed : ∀ accepted, Passed username (call, accepted) (call', accepted))
    (other : fallback ≠ .sessionDaemonNotRunning)
    (ahead : (Recorded.ask (fun _ => .opened) (fun d => d.conclude call (decide d)) r).state.replies
      <+: replies) :
    (agreement username replies).Steps
      (fun _ j r' n' => Mirrors f replies r' n' ∧ n'.Holds kind j ∧
        ∀ kind' i, n.Holds kind' i → i ≠ j ∧ n'.Holds kind' i)
      (fun r' n' => Mirrors f replies r' n' ∧ n'.handles = n.handles)
      (Recorded.ask (fun _ => .opened) (fun d => d.conclude call (decide d)) r)
      (n.openObject kind fallback name (.ok call')) := by
  obtain ⟨answered, after⟩ := mirrors.asked ahead
  obtain ⟨_, _, handles⟩ := Native.ask_eq n
  unfold Recorded.ask at after ⊢
  dsimp only at answered after ⊢
  generalize decide r.directory = decision at answered after ⊢
  cases decision with
  | error e =>
      obtain ⟨error, native, rfl, refused, given, carries⟩ := answered.of_error
      rw [Native.openObject_of_refused refused, given]
      exact .fail (fails_of_carries complete mirrors.speaks.ask carries other)
        ⟨after _ mirrors.speaks.ask rfl, handles⟩ (Journal.follows_of_passed (passed false))
  | ok h =>
      rw [Native.openObject_of_answered answered]
      refine .ok ⟨after _ (mirrors.speaks.ask.issue _) (Native.pending_issue ..),
        Native.holds_issue .., fun kind' i holds => ?_⟩ (Journal.follows_of_passed (passed true))
      exact (holds.of_handles_eq handles).issue _ _

/-- A detail in the log does not count. -/
theorem steps_logged {T : HandleId → HandleId → Recorded Memory → Native → Prop}
    {E : Recorded Memory → Native → Prop} {step₁ : Step (Recorded Memory) HandleId}
    {step₂ : Step Native HandleId} (steps : (agreement username replies).Steps T E step₁ step₂)
    (entry : Log.Entry) :
    (agreement username replies).Steps T E step₁
      (match step₂.outcome with
        | .error _ => step₂
        | .ok _ => { step₂ with events := step₂.events ++ [.logged entry] }) := by
  have detail : Journal.Follows username [] [.logged entry] := ⟨rfl, .nil⟩
  cases steps with
  | ok related same =>
      have both := Journal.Follows.append same detail
      rw [List.append_nil] at both
      exact .ok related both
  | fail fails related same => exact .fail fails related same

namespace Directory.Memory

/-- The step of a credential call: it was refused, and nothing changed, or it was accepted, and the
handles did not change. -/
inductive Submits (call : Call) (d : Memory) : Step Memory Unit → Prop where
  | refused (e : Failure) : Submits call d (.fail e d [.called call false])
  | accepted (d' : Memory) (handles : d'.handles = d.handles) :
    Submits call d (.ok () d' [.called call true])

/-- The step of the lookup of a user's record: it failed, or there is none, or a record of the user
was found. -/
inductive Finds (user : String) (d : Memory) : Step Memory (Option HandleId) → Prop where
  | refused (e : Failure) : Finds user d (.fail e d [.called (.copyRecord userRecords user) false])
  | absent : Finds user d (.ok none d [.called (.copyRecord userRecords user) true])
  | found (record : HandleId) (d' : Memory) (home : String)
    (place : d'.recordOf record = .ok (home, user)) :
    Finds user d (.ok (some record) d' [.called (.copyRecord userRecords user) true])

theorem finds_copyRecord (node : HandleId) (user : String) (d : Memory) :
    Finds user d (d.copyRecord node userRecords user) := by
  have denotes (record : HandleId)
      (found : (d.copyRecord node userRecords user).outcome = .ok (some record)) :=
    denotes_of_copyRecord found
  unfold copyRecord at denotes ⊢
  rcases decided : d.decideRecord node userRecords user with e | _ | h <;>
    simp only [decided] at denotes ⊢
  · exact .refused e
  · exact .absent
  · obtain ⟨home, denoted⟩ := denotes _ rfl
    exact .found _ _ home denoted.recordOf

variable {v : Vault} {old? new? : Option SecretId} {old : Option String} {new : String}
  {record : HandleId} (d : Memory)

theorem submits_setCredentials (readOld : v.reveal? old? = .ok old)
    (readNew : v.reveal? new? = .ok (some new)) (username authname : String) :
    Submits (.setCredentials userRecords setPassword (.text username) new (.text authname) old) d
      (setCredentials v record userRecords setPassword
        [.text username, .ofSecret? new?, .text authname, .ofSecret? old?] d) := by
  have given := revealed_of_reveal? readNew
  have proof := (revealed?_ofSecret? v old?).trans readOld
  simp only [setCredentials, given, proof]
  rcases d.decideCredentials record setPassword (.text username) (.text authname) old with
    e | ⟨node, user⟩
  · exact .refused e
  · exact .accepted _ (handles_setAccountPassword node user new d)

theorem submits_changePassword (readOld : v.reveal? old? = .ok old)
    (readNew : v.reveal? new? = .ok (some new)) {node user : String}
    (place : d.recordOf record = .ok (node, user)) :
    Submits (.changePassword user old new) d
      (changePassword v record (.ofSecret? old?) (.ofSecret? new?) d) := by
  have given := revealed_of_reveal? readNew
  have proof := (revealed?_ofSecret? v old?).trans readOld
  have named := recordOf_of_key place "username"
  simp only [changePassword, given, proof, named]
  rcases d.decideChange node user old with e | _
  · exact .refused e
  · exact .accepted _ (handles_setAccountPassword node user new d)

end Directory.Memory

end PasswordChange
