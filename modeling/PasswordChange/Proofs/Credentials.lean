import PasswordChange.Proofs.Course
import PasswordChange.Proofs.Script
import PasswordChange.Proofs.Trust

/-!
# Credential calls on a native framework

Over a native framework a run makes at most one credential call, on the record that it found,
with the password that was typed last. `Changer.FailsClosed` says which: a change without
authentication only where it is trusted, and in every other case one that carries the answer to
the prompt for the old password.
-/

namespace PasswordChange

open Confirmation
open Framework (Constant)

/-- The credential calls that the native framework received. -/
def Journal.credentials (j : Journal) : List Framework.Call :=
  j.native.filter Framework.Call.isCredential

theorem Journal.credentials_append (j k : Journal) :
    Journal.credentials (j ++ k) = j.credentials ++ k.credentials := by
  rw [credentials, native_append, List.filter_append]
  rfl

def Event.isNativeCredential : Event → Bool
  | .native call _ => call.isCredential
  | _ => false

theorem Event.not_isNativeCredential {event : Event} (backstage : event.isBackstage = true) :
    event.isNativeCredential = false := by
  cases event with
  | native call _ => simpa [isBackstage, isNativeCredential] using backstage
  | _ => rfl

theorem Journal.credentials_eq_nil {j : Journal}
    (other : ∀ event ∈ j, event.isNativeCredential = false) : j.credentials = [] := by
  apply List.filter_eq_nil_iff.2
  intro call member
  obtain ⟨event, recorded, selected⟩ := List.mem_filterMap.1 member
  have others := other event recorded
  cases event with
  | native =>
      cases selected
      intro credential
      simp [Event.isNativeCredential, credential] at others
  | _ => cases selected

theorem Journal.credentials_of_isBackstage {j : Journal}
    (backstage : ∀ event ∈ j, event.isBackstage = true) : j.credentials = [] :=
  credentials_eq_nil fun event member => Event.not_isNativeCredential (backstage event member)

/-- The text of the first answer, if it is one. -/
def firstText? : List Answer → Option String
  | .text s :: _ => some s
  | _ => none

theorem Confirmation.Conversation.password?_of_true (answers : List Answer) :
    (Conversation.of true answers).opening.password? = firstText? answers := by
  match answers with
  | [] | .endOfInput :: _ | .undecodable :: _ | .interrupt :: _ | .text _ :: _ => rfl

namespace Directory.Native

/-- A submission makes the call that was decided on, if any. -/
theorem credentials_submit (decision : Except Failure Framework.Call) (d : Native) :
    (∃ call, decision = .ok call ∧ Journal.native (d.submit decision).events = [call]) ∨
      Journal.native (d.submit decision).events = [] := by
  unfold submit
  split
  case h_1 => exact Or.inr rfl
  case h_2 call =>
    refine Or.inl ⟨call, rfl, ?_⟩
    dsimp only
    split <;> rfl

theorem constant_eq_ok {f : Framework} {constant : Constant} {value : Value}
    (given : f.constant constant = .ok value) : value = constant.value := by
  unfold Framework.constant at given
  split at given
  · cases given
  · cases given
    rfl

theorem access_of_object {d : Native} {kind : Handle.Kind} {i : HandleId} {o : Framework.Object}
    (given : d.object kind i = .ok o) : d.handles.access i = .ok o := by
  obtain ⟨o', accessed, checked⟩ := Failure.bind_eq_ok_iff.1 given
  split at checked
  · cases checked
    exact accessed
  · cases checked

theorem revealed?_ofSecret? (v : Vault) (s? : Option SecretId) :
    revealed? v (.ofSecret? s?) = v.reveal? s? := by
  cases s? <;> rfl

/-- The only call that sets a password with credentials is on the record, with the texts of the
items. -/
theorem decideCredentials_eq_ok {v : Vault} {record : HandleId} {items : List Item} {d : Native}
    {call : Framework.Call}
    (decided : d.decideCredentials v record userRecords setPassword items = .ok call) :
    ∃ o texts, d.handles.access record = .ok o ∧ items.mapM (revealed? v) = .ok texts ∧
      call = .setCredentials o Constant.recordTypeUsers.value
        Constant.authenticationSetPassword.value texts := by
  obtain ⟨f, _, decided⟩ := Failure.bind_eq_ok_iff.1 decided
  rw [if_neg (fun differ => differ rfl)] at decided
  obtain ⟨texts, revealed, decided⟩ := Failure.bind_eq_ok_iff.1 decided
  obtain ⟨o, accessed, decided⟩ := Failure.bind_eq_ok_iff.1 decided
  obtain ⟨recordType, typed, decided⟩ := Failure.bind_eq_ok_iff.1 decided
  obtain ⟨authType, kind, decided⟩ := Failure.bind_eq_ok_iff.1 decided
  cases decided
  unfold Native.recordType at typed
  rw [if_neg (fun differ => differ rfl)] at typed
  obtain ⟨f', _, typed⟩ := Failure.bind_eq_ok_iff.1 typed
  rw [constant_eq_ok typed, constant_eq_ok kind]
  exact ⟨o, texts, access_of_object accessed, revealed, rfl⟩

/-- The only call that changes a password is on the record. -/
theorem decideChange_eq_ok {v : Vault} {record : HandleId} {old new : Item} {d : Native}
    {call : Framework.Call} (decided : d.decideChange v record old new = .ok call) :
    ∃ o oldText newText, d.handles.access record = .ok o ∧ revealed? v old = .ok oldText ∧
      revealed? v new = .ok newText ∧ call = .changePassword o oldText newText := by
  obtain ⟨o, accessed, decided⟩ := Failure.bind_eq_ok_iff.1 decided
  obtain ⟨oldText, old, decided⟩ := Failure.bind_eq_ok_iff.1 decided
  obtain ⟨newText, new, decided⟩ := Failure.bind_eq_ok_iff.1 decided
  cases decided
  exact ⟨o, oldText, newText, access_of_object accessed, old, new, rfl⟩

end Directory.Native

namespace Changer

open Directory (Native)

variable {D H : Type} {c : Changer} {request : Request} {talk : Conversation}

/-- The passwords of a confirmed conversation cross over to the framework as they were typed. -/
theorem revealed_of_confirmed {password : String}
    (confirmed : talk.resolution = .confirmed password) (v : Vault) :
    Native.revealed? (talk.vault v) (.ofSecret? (talk.new? v)) = .ok (some password) ∧
      Native.revealed? (talk.vault v) (.ofSecret? (talk.old? v)) =
        .ok talk.opening.password? := by
  obtain ⟨new, given, _, contents⟩ := talk.new?_of_confirmed confirmed v
  rw [Native.revealed?_ofSecret?, Native.revealed?_ofSecret?, given]
  refine ⟨?_, talk.reveal_old? v⟩
  change (Vault.reveal (talk.vault v) new).map some = _
  rw [Vault.reveal_of_contents_eq contents]
  rfl

/-- The call that a confirmed conversation leads to, on the given object: one with the
authenticator's credentials where they are needed, else a change without the old password. -/
def credentialCall (request : Request) (needsAuth : Bool) (oldPassword : Option String)
    (password : String) (o : Framework.Object) : Framework.Call :=
  if needsAuth then
    .setCredentials o Constant.recordTypeUsers.value Constant.authenticationSetPassword.value
      [some request.username, some password, some request.authname, oldPassword]
  else .changePassword o none (some password)

/-- A submission makes this call, or none. -/
theorem credentials_submissionOf {needsAuth : Bool} {answers : List Answer} {password : String}
    (held : Conversation.of needsAuth answers = talk)
    (confirmed : talk.resolution = .confirmed password) (record : HandleId) (v : Vault)
    (d : Native) :
    Journal.native (submissionOf record request needsAuth talk v d).events = [] ∨
      ∃ o, d.handles.access record = .ok o ∧
        Journal.native (submissionOf record request needsAuth talk v d).events =
          [credentialCall request needsAuth talk.opening.password? password o] := by
  obtain ⟨new, old⟩ := revealed_of_confirmed confirmed v
  cases needsAuth with
  | true =>
      rcases Native.credentials_submit (d.decideCredentials (talk.vault v) record
        Directory.userRecords Directory.setPassword [.text request.username,
          .ofSecret? (talk.new? v), .text request.authname, .ofSecret? (talk.old? v)]) d with
        ⟨call, decided, made⟩ | none
      · obtain ⟨o, texts, accessed, revealed, rfl⟩ := Native.decideCredentials_eq_ok decided
        refine Or.inr ⟨o, accessed, made.trans ?_⟩
        have name (s : String) :
            Native.revealed? (talk.vault v) (.text s) = .ok (some s) := rfl
        simp only [List.mapM_cons, List.mapM_nil, name, new, old, bind, Except.bind, pure,
          Except.pure, Except.ok.injEq] at revealed
        rw [← revealed]
        rfl
      · exact Or.inl none
  | false =>
      have untyped : talk.opening.password? = none := by
        rw [← held]
        rfl
      rcases Native.credentials_submit (d.decideChange (talk.vault v) record
        (.ofSecret? (talk.old? v)) (.ofSecret? (talk.new? v))) d with ⟨call, decided, made⟩ | none
      · obtain ⟨o, oldText, newText, accessed, revealedOld, revealedNew, rfl⟩ :=
          Native.decideChange_eq_ok decided
        rw [old, untyped] at revealedOld
        rw [new] at revealedNew
        cases revealedOld
        cases revealedNew
        exact Or.inr ⟨o, accessed, made⟩
      · exact Or.inl none

/-- Up to the end of its conversation a run makes no credential call. -/
theorem Course.credentials_before [Host H] {R : Native → Native → Prop} {w w₀ w₁ : World Native H}
    {found : Found} {values : List (Option String)} {prelude rest : List Event}
    (course : Course R c request w found values w₀ w₁ talk prelude rest) :
    Journal.credentials (prelude ++ talk.events (oldPrompt request) w.vault) = [] := by
  have early : Journal.credentials prelude = [] := by
    apply Journal.credentials_eq_nil
    intro event member
    rcases course.announced event member with backstage | rfl
    · exact Event.not_isNativeCredential backstage
    · rfl
  have during : Journal.credentials (talk.events (oldPrompt request) w.vault) = [] := by
    rw [Journal.credentials, Conversation.native_events]
    rfl
  rw [Journal.credentials_append, early, during]
  rfl

/-- The credential calls of a run are those after its conversation. -/
theorem Course.credentials_since [Host H] {R : Native → Native → Prop} {w w₀ w₁ : World Native H}
    {found : Found} {values : List (Option String)} {prelude rest : List Event}
    (course : Course R c request w found values w₀ w₁ talk prelude rest) :
    (w.since (c.run request w).2).credentials = Journal.credentials rest := by
  rw [course.since, Journal.credentials_append, course.credentials_before]
  rfl

/-- What a run may do on the native framework: no credential call at all, or one on the record
that it found. -/
def FailsClosed [Host H] (c : Changer) (request : Request) (w : World Native H) : Prop :=
  let w' := (c.run request w).2
  let location := c.decisiveLocation request w.directory
  (w.since w').credentials = [] ∨
  ∃ found w₀ o password, c.locate request w = (.ok found, w₀) ∧
    w₀.directory.handles.access found.record = .ok o ∧
    TypedLast w.answers w'.answers (w.since w').prompts password ∧
    (c.TrustedAt location ∧
        (w.since w').credentials = [.changePassword o none (some password)] ∧
        (∀ label ∈ (w.since w').prompts, label = newPrompt ∨ label = retypePrompt) ∨
      ¬ c.TrustedAt location ∧
        (w.since w').credentials =
          [.setCredentials o Constant.recordTypeUsers.value
            Constant.authenticationSetPassword.value
            [some request.username, some password, some request.authname,
              firstText? w.answers]] ∧
        (w.since w').prompts.head? = some (oldPrompt request))

/-- A conclusion makes no credential call, or the one to which the confirmed conversation leads
on the record. -/
theorem Concludes.credentials {R : Native → Native → Prop} {found : Found} {location : Location}
    {answers : List Answer} {v : Vault} {d d' : Native} {result : Except Failure Outcome}
    {rest : List Event} (concludes : Concludes R c request found location talk v d result d' rest)
    (held : Conversation.of (c.needsAuthentication location) answers = talk) :
    Journal.credentials rest = [] ∨
      ∃ o password, d.handles.access found.record = .ok o ∧
        talk.resolution = .confirmed password ∧ Journal.credentials rest =
          [credentialCall request (c.needsAuthentication location) talk.opening.password?
            password o] := by
  cases concludes with
  | interrupted _ _ quiet | declined _ _ quiet =>
      exact Or.inl (Journal.credentials_of_isBackstage quiet)
  | @submitted password _ later step confirmed submitted _ quiet =>
      have made : Journal.credentials (.logged (intention request
          (c.needsAuthentication location)) :: step.events ++ later) =
          (Journal.native step.events).filter Framework.Call.isCredential := by
        rw [Journal.credentials_append, Journal.credentials_of_isBackstage quiet, List.append_nil]
        rfl
      rw [made, submitted]
      rcases credentials_submissionOf held confirmed found.record v d with
        none | ⟨o, accessed, call⟩
      · exact Or.inl (by rw [none]; rfl)
      · refine Or.inr ⟨o, password, accessed, confirmed, ?_⟩
        rw [call]
        cases c.needsAuthentication location <;> rfl

/-- **A run fails closed on every host that stays backstage.** -/
theorem failsClosed [Host H] (host : Host.Emits (H := H) (·.isBackstage = true)) (c : Changer)
    (request : Request) (w : World Native H) : c.FailsClosed request w := by
  rcases c.run_course Native.lookupFrame host request w with
    stopped | ⟨found, values, w₀, w₁, talk, prelude, rest, course⟩
  · exact Or.inl (Journal.credentials_of_isBackstage stopped.since)
  obtain ⟨canonical, handles⟩ := course.reached.canonical_eq
  have held := course.held
  have concludes := course.concludes
  rw [canonical] at held concludes
  have prompts := (course.shown Native.discreet).1
  rcases concludes.credentials held with none | ⟨o, password, accessed, confirmed, call⟩
  · exact Or.inl (course.credentials_since.trans none)
  have typed := Conversation.typedLast (held ▸ confirmed) (oldPrompt request)
  rw [held, ← prompts, ← course.talked.answers] at typed
  have made := course.credentials_since.trans call
  refine Or.inr ⟨found, w₀, o, password, course.reached.located, handles ▸ accessed, typed, ?_⟩
  cases needed : c.needsAuthentication (c.decisiveLocation request w.directory) with
  | false =>
      rw [needed] at made held
      refine Or.inl ⟨needsAuthentication_eq_false_iff.1 needed, made, ?_⟩
      rw [prompts, ← held]
      exact Dialogue.mem_prompts _
  | true =>
      rw [needed] at made held
      refine Or.inr ⟨needsAuthentication_eq_true_iff.1 needed, ?_, ?_⟩
      · rw [made, ← held, Conversation.password?_of_true]
        rfl
      · rw [prompts, ← held]
        exact Conversation.head?_prompts _ _

/-- **Credential calls fail closed**, on a scripted host and on one that asks the operating
system. -/
theorem credential_calls_fail_closed (c : Changer) (request : Request) :
    (∀ w : World Native Host.Scripted, c.FailsClosed request w) ∧
      ∀ w : World Native Host.Posix, c.FailsClosed request w :=
  ⟨failsClosed Host.Scripted.emits c request, failsClosed Host.Posix.emits c request⟩

/-- A privileged caller is not trusted at a record whose location has no text. -/
example :
    let request : Request := ⟨"alice", .unspecified, "root", by decide, by decide⟩
    let directory (location : Value) : Native :=
      { framework := some { responses := [{}, {}, {}, { values := some [location] }] } }
    let credentials (location : Value) (answers : List Answer) :=
      let w : World Native Host.Scripted :=
        { directory := directory location, host := {}, answers }
      (w.since ((⟨{}, true⟩ : Changer).run request w).2).credentials
    credentials (.text "/Local/Default") [.text "new", .text "new"] =
        [.changePassword ⟨.record, 1⟩ none (some "new")] ∧
      credentials .null [.endOfInput, .text "new", .text "new"] =
        [.setCredentials ⟨.record, 1⟩ Constant.recordTypeUsers.value
          Constant.authenticationSetPassword.value
          [some "alice", some "new", some "root", none]] := by
  dsimp only
  decide +kernel

end Changer

end PasswordChange
