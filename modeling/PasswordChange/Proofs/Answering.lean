import PasswordChange.Proofs.Credentials
import PasswordChange.Proofs.Recorded

/-!
# Frameworks that answer as a directory replies

What it means that a native framework answers a call in the way in which a directory has replied to
the corresponding operation, and what an operation over the framework makes of such an answer.

* `Framework.Equipped` says that a framework has all its constants, and `Framework.Complete` that it
  also has error numbers that can be told apart. Then an error number is read as "the daemon does
  not run" exactly if it is that number (`Framework.errorCode?_eq_iff`).
* `Framework.Answers` relates replies and answers.
* `Native.Speaks` and `Native.Holds` are what an operation needs: the constants of the framework,
  and an open handle on an object.
-/

namespace PasswordChange

/-- Errors with the same texts, both or neither of which say that the daemon does not run. -/
structure DirectoryError.Alike (e e' : DirectoryError) : Prop where
  description : e'.description = e.description
  failureReason : e'.failureReason = e.failureReason
  recoverySuggestion : e'.recoverySuggestion = e.recoverySuggestion
  code_iff : e'.code = .sessionDaemonNotRunning ↔ e.code = .sessionDaemonNotRunning

theorem DirectoryError.Alike.render_eq {e e' : DirectoryError} (alike : e.Alike e')
    (programName : String) : e'.render programName = e.render programName := by
  unfold DirectoryError.render
  rw [alike.description, alike.failureReason, alike.recoverySuggestion]

namespace Framework

open Directory (Reply)

/-- The name of the error that the daemon does not run. -/
def daemonNotRunning : String := "kODErrorSessionDaemonNotRunning"

/-- The framework has every constant. -/
def Equipped (f : Framework) : Prop :=
  ∀ constant : Constant, f.omitted.contains constant.name = false

/-- The framework has every constant, and a number of its own for every error that means something
to the flow. -/
structure Complete (f : Framework) : Prop where
  constants (constant : Constant) : f.omitted.contains constant.name = false
  numbered : ∀ meaning ∈ errorMeanings, (f.errorNumber? meaning.1).isSome = true
  distinct : errorMeanings.Pairwise fun meaning other =>
    f.errorNumber? meaning.1 ≠ f.errorNumber? other.1

variable {f g : Framework}

theorem Equipped.constant_eq (equipped : f.Equipped) (constant : Constant) :
    f.constant constant = .ok constant.value := by
  unfold Framework.constant
  rw [equipped constant]
  rfl

theorem errorCode?_eq (number : Int) : f.errorCode? number =
    ((errorMeanings.filter fun meaning =>
      f.errorNumber? meaning.1 = some number).getLast?).map Prod.snd :=
  rfl

/-- **A number means that the daemon does not run exactly if it is the number of that error.** -/
theorem errorCode?_eq_iff (complete : f.Complete) (number : Int) :
    f.errorCode? number = some .sessionDaemonNotRunning ↔
      f.errorNumber? daemonNotRunning = some number := by
  -- The error stands first in the list of meanings, and no other one has its code or its number.
  have first : errorMeanings = (daemonNotRunning, .sessionDaemonNotRunning) :: errorMeanings.tail :=
    rfl
  have others : ∀ meaning ∈ errorMeanings.tail, meaning.2 ≠ .sessionDaemonNotRunning := by
    decide
  have apart := complete.distinct
  rw [first, List.pairwise_cons] at apart
  rw [errorCode?_eq, first, List.filter_cons]
  by_cases named : f.errorNumber? daemonNotRunning = some number
  · have none : errorMeanings.tail.filter
        (fun meaning => f.errorNumber? meaning.1 = some number) = [] := by
      refine List.filter_eq_nil_iff.2 fun meaning member same => ?_
      exact apart.1 meaning member (named.trans (of_decide_eq_true same).symm)
    simp [named, none]
  · simp only [named, decide_false, Bool.false_eq_true, if_false, iff_false]
    intro meant
    obtain ⟨meaning, last, code⟩ := Option.map_eq_some_iff.1 meant
    exact others meaning (List.mem_filter.1 (List.mem_of_getLast? last)).1 code

/-- The native error says the same as the error of a directory. -/
structure Carries (f : Framework) (error : NativeError) (e : DirectoryError) : Prop where
  description : error.description.text? = e.description
  reason : error.reason.text? = e.failureReason
  suggestion : error.suggestion.text? = e.recoverySuggestion
  code_iff : f.errorNumber? daemonNotRunning = some error.code ↔ e.code = .sessionDaemonNotRunning

/-- An error that was carried over is the same error, whatever code there is to fall back on. -/
theorem Carries.alike (complete : f.Complete) {error : NativeError} {e : DirectoryError}
    (carries : f.Carries error e) {fallback : ErrorCode}
    (other : fallback ≠ .sessionDaemonNotRunning) :
    e.Alike (f.directoryError fallback (some error)) := by
  refine ⟨carries.description, carries.reason, carries.suggestion, ?_⟩
  rw [← carries.code_iff, ← errorCode?_eq_iff complete]
  change (f.errorCode? error.code).getD fallback = _ ↔ _
  cases f.errorCode? error.code <;> simp [other]

/-- The answer of the framework says the same as the reply of a directory. -/
def Answers (f : Framework) : Reply → Response → Prop
  | .opened, response | .accepted, response => response.ok = true
  | .absent, response => response.ok = false ∧ response.error = none
  | .values values, response =>
    response.ok = true ∧ response.values.map (List.map Value.text?) = some values
  | .refused e, response =>
    response.ok = false ∧ ∃ error, response.error = some error ∧ f.Carries error e
  | .failed, _ => False

end Framework

namespace Directory.Native

open Framework (Constant Object Response)

/-- A framework is installed that has the constants and the error numbers of `f`. -/
def Speaks (f : Framework) (d : Native) : Prop :=
  ∃ g, d.framework = some g ∧ g.errors = f.errors ∧ g.omitted = f.omitted

/-- The handle is open on an object of the kind. -/
def Holds (d : Native) (kind : Handle.Kind) (i : HandleId) : Prop :=
  ∃ h o, d.handles.get? i = some h ∧ h.ref = some o ∧ o.kind = kind

variable {f : Framework} {d d' : Native} {kind : Handle.Kind} {i : HandleId}

/-! ## The framework -/

theorem Speaks.installed (speaks : d.Speaks f) (equipped : f.Equipped) :
    ∃ g, d.installed = .ok g ∧ ∀ constant, g.constant constant = .ok constant.value := by
  obtain ⟨g, installed, errors, omitted⟩ := speaks
  refine ⟨g, ?_, fun constant => ?_⟩
  · unfold Native.installed
    rw [installed]
  · have same := equipped.constant_eq constant
    unfold Framework.constant at same ⊢
    rw [omitted]
    exact same

theorem Speaks.errorNumber?_eq (speaks : d.Speaks f) :
    (d.framework.getD {}).errorNumber? = f.errorNumber? := by
  obtain ⟨g, installed, errors, omitted⟩ := speaks
  funext name
  rw [installed, Option.getD_some]
  unfold Framework.errorNumber?
  rw [errors, omitted]

theorem Speaks.refusal_eq (speaks : d.Speaks f) (fallback : ErrorCode)
    (error : Option Framework.NativeError) :
    d.refusal fallback error = .directory (f.directoryError fallback error) := by
  unfold refusal
  cases error with
  | none => rfl
  | some e =>
      unfold Framework.directoryError Framework.errorCode?
      rw [speaks.errorNumber?_eq]

theorem Speaks.ask (speaks : d.Speaks f) : d.ask.2.Speaks f := by
  obtain ⟨g, installed, errors, omitted⟩ := speaks
  refine ⟨g.answer.2, ?_, ?_, ?_⟩
  · unfold Native.ask
    rw [installed]
  · rw [← errors]
    unfold Framework.answer
    split <;> rfl
  · rw [← omitted]
    unfold Framework.answer
    split <;> rfl

theorem Speaks.issue (speaks : d.Speaks f) (name : Value) : (d.issue kind name).2.Speaks f := by
  obtain ⟨g, installed, errors, omitted⟩ := speaks
  unfold Native.issue
  rw [installed]
  exact ⟨_, rfl, errors, omitted⟩

/-! ## Handles -/

theorem Holds.object_eq (holds : d.Holds kind i) :
    ∃ o, d.object kind i = .ok o ∧ d.handles.access i = .ok o := by
  obtain ⟨h, o, there, isOpen, rfl⟩ := holds
  have accessed : d.handles.access i = .ok o := by
    unfold Registry.access
    simp only [there, Handle.access, isOpen]
  refine ⟨o, ?_, accessed⟩
  unfold object
  rw [accessed]
  exact if_pos rfl

theorem Holds.of_handles_eq (holds : d.Holds kind i) (same : d'.handles = d.handles) :
    d'.Holds kind i := by
  unfold Holds
  rw [same]
  exact holds

theorem handles_issue (kind : Handle.Kind) (name : Value) (d : Native) :
    ∃ o, o.kind = kind ∧ (d.issue kind name).1 = (d.handles.issue ⟨kind, name, some o⟩).1 ∧
      (d.issue kind name).2.handles = (d.handles.issue ⟨kind, name, some o⟩).2 :=
  ⟨_, rfl, rfl, rfl⟩

/-- A new handle is open on an object of its kind. -/
theorem holds_issue (kind : Handle.Kind) (name : Value) (d : Native) :
    (d.issue kind name).2.Holds kind (d.issue kind name).1 := by
  obtain ⟨o, same, issued, handles⟩ := d.handles_issue kind name
  refine ⟨⟨kind, name, some o⟩, o, ?_, rfl, same⟩
  rw [handles, Registry.get?_issue, if_pos issued]

/-- A new handle is none of the open ones, which stay open. -/
theorem Holds.issue (holds : d.Holds kind i) (kind' : Handle.Kind) (name : Value) :
    i ≠ (d.issue kind' name).1 ∧ (d.issue kind' name).2.Holds kind i := by
  obtain ⟨h, o, there, isOpen, same⟩ := holds
  obtain ⟨o', _, issued, handles⟩ := d.handles_issue kind' name
  have other : i ≠ (d.issue kind' name).1 := by
    rintro rfl
    rw [issued] at there
    simp [Registry.get?, Registry.issue] at there
  refine ⟨other, h, o, ?_, isOpen, same⟩
  rw [handles, Registry.get?_issue, if_neg (issued ▸ other)]
  exact there

/-- Closing a handle leaves the others open. -/
theorem Holds.close (holds : d.Holds kind i) {j : HandleId} (other : j ≠ i) :
    (d.close j).state.Holds kind i := by
  obtain ⟨h, o, there, isOpen, same⟩ := holds
  refine ⟨h, o, ?_, isOpen, same⟩
  exact (Registry.get?_close_of_ne (fun _ s => (.ok (), s)) other d.handles ()).trans there

/-! ## The calls that are made -/

variable {session node record : HandleId}

theorem decideSession_eq (speaks : d.Speaks f) (equipped : f.Equipped)
    (options : List (String × Value)) :
    d.decideSession options = .ok (.session ((localPath? options).map fun path =>
      (Constant.sessionLocalPath.value, path))) := by
  obtain ⟨g, installed, constants⟩ := speaks.installed equipped
  unfold decideSession
  rw [installed]
  cases localPath? options <;> simp [bind, Except.bind, constants]

theorem decideNodeByName_eq (speaks : d.Speaks f) (equipped : f.Equipped)
    (holds : d.Holds .session session) (name : String) :
    ∃ o, d.decideNodeByName session name = .ok (.nodeByName o name) := by
  obtain ⟨g, installed, constants⟩ := speaks.installed equipped
  obtain ⟨o, _, accessed⟩ := holds.object_eq
  refine ⟨o, ?_⟩
  unfold decideNodeByName
  simp only [installed, accessed, bind, Except.bind]

theorem decideNodeByType_eq (speaks : d.Speaks f) (equipped : f.Equipped)
    (holds : d.Holds .session session) :
    ∃ o, d.decideNodeByType session authenticationNode =
      .ok (.nodeByType o Constant.nodeTypeAuthentication.value) := by
  obtain ⟨g, installed, constants⟩ := speaks.installed equipped
  obtain ⟨o, _, accessed⟩ := holds.object_eq
  refine ⟨o, ?_⟩
  unfold decideNodeByType
  simp only [installed, accessed, constants, bind, Except.bind, ne_eq, not_true, if_false]

theorem recordType_eq (speaks : d.Speaks f) (equipped : f.Equipped) :
    d.recordType userRecords = .ok Constant.recordTypeUsers.value := by
  obtain ⟨g, installed, constants⟩ := speaks.installed equipped
  unfold recordType
  simp only [installed, constants, bind, Except.bind, ne_eq, not_true, if_false]

theorem decideRecord_eq (speaks : d.Speaks f) (equipped : f.Equipped)
    (holds : d.Holds .node node) (name : String) :
    ∃ o, d.decideRecord node userRecords name =
      .ok (.record o Constant.recordTypeUsers.value name) := by
  obtain ⟨o, found, _⟩ := holds.object_eq
  refine ⟨o, ?_⟩
  unfold decideRecord
  simp only [recordType_eq speaks equipped, found, bind, Except.bind]

theorem decideValues_eq (speaks : d.Speaks f) (equipped : f.Equipped)
    (holds : d.Holds .record record) :
    ∃ o, d.decideValues record metanodeLocation =
      .ok (.values o Constant.attributeMetanodeLocation.value) := by
  obtain ⟨g, installed, constants⟩ := speaks.installed equipped
  obtain ⟨o, found, _⟩ := holds.object_eq
  refine ⟨o, ?_⟩
  unfold decideValues
  simp only [installed, found, constants, bind, Except.bind, ne_eq, not_true, if_false]

section Credentials

variable {v : Vault} {old? new? : Option SecretId} {old new : Option String}

theorem decideCredentials_eq (speaks : d.Speaks f) (equipped : f.Equipped)
    (holds : d.Holds .record record) (readOld : v.reveal? old? = .ok old)
    (readNew : v.reveal? new? = .ok new) (username authname : String) :
    ∃ o, d.decideCredentials v record userRecords setPassword
        [.text username, .ofSecret? new?, .text authname, .ofSecret? old?] =
      .ok (.setCredentials o Constant.recordTypeUsers.value
        Constant.authenticationSetPassword.value [some username, new, some authname, old]) := by
  obtain ⟨g, installed, constants⟩ := speaks.installed equipped
  obtain ⟨o, found, _⟩ := holds.object_eq
  have texts : [Item.text username, .ofSecret? new?, .text authname, .ofSecret? old?].mapM
      (revealed? v) = .ok [some username, new, some authname, old] := by
    simp only [List.mapM_cons, List.mapM_nil, revealed?_ofSecret?, readOld, readNew]
    rfl
  refine ⟨o, ?_⟩
  unfold decideCredentials
  simp only [installed, texts, found, recordType_eq speaks equipped, constants, bind, Except.bind,
    ne_eq, not_true, if_false]

theorem decideChange_eq (holds : d.Holds .record record) (readOld : v.reveal? old? = .ok old)
    (readNew : v.reveal? new? = .ok new) :
    ∃ o, d.decideChange v record (.ofSecret? old?) (.ofSecret? new?) =
      .ok (.changePassword o old new) := by
  obtain ⟨o, found, _⟩ := holds.object_eq
  refine ⟨o, ?_⟩
  unfold decideChange
  simp only [found, revealed?_ofSecret?, readOld, readNew, bind, Except.bind]

end Credentials

/-! ## What becomes of an answer -/

section Answered

variable {call : Framework.Call} {fallback : ErrorCode}

/-- An operation that opens an object gets a new handle from an answer that is one. -/
theorem openObject_of_answered {name : Response → Value} (answered : (d.reply 0).ok = true) :
    d.openObject kind fallback name (.ok call) =
      .ok (d.ask.2.issue kind (name d.ask.1)).1 (d.ask.2.issue kind (name d.ask.1)).2
        [.native call true] := by
  rw [← (ask_eq d).1] at answered
  unfold openObject
  dsimp only
  rw [if_pos answered]

theorem openObject_of_refused {name : Response → Value} (refused : (d.reply 0).ok = false) :
    d.openObject kind fallback name (.ok call) =
      .fail (d.ask.2.refusal fallback (d.reply 0).error) d.ask.2 [.native call false] := by
  rw [← (ask_eq d).1] at refused ⊢
  unfold openObject
  dsimp only
  rw [if_neg (Bool.eq_false_iff.1 refused)]

theorem submit_of_answered (answered : (d.reply 0).ok = true) :
    d.submit (.ok call) = .ok () d.ask.2 [.native call true] := by
  rw [← (ask_eq d).1] at answered
  unfold submit
  dsimp only
  rw [if_pos answered]

theorem submit_of_refused (refused : (d.reply 0).ok = false) :
    d.submit (.ok call) =
      .fail (d.ask.2.refusal .credentialsFailed (d.reply 0).error) d.ask.2
        [.native call false] := by
  rw [← (ask_eq d).1] at refused ⊢
  unfold submit
  dsimp only
  rw [if_neg (Bool.eq_false_iff.1 refused)]

variable {node : HandleId} {type name : String}

theorem copyRecord_of_answered (decided : d.decideRecord node type name = .ok call)
    (answered : (d.reply 0).ok = true) :
    d.copyRecord node type name =
      .ok (some (d.ask.2.issue .record (.text name)).1) (d.ask.2.issue .record (.text name)).2
        [.native call true] := by
  rw [← (ask_eq d).1] at answered
  unfold copyRecord
  rw [decided]
  dsimp only
  rw [if_pos answered]

theorem copyRecord_of_absent (decided : d.decideRecord node type name = .ok call)
    (refused : (d.reply 0).ok = false) (absent : (d.reply 0).error = none) :
    d.copyRecord node type name = .ok none d.ask.2 [.native call false] := by
  rw [← (ask_eq d).1] at refused absent
  unfold copyRecord
  rw [decided]
  dsimp only
  rw [if_neg (Bool.eq_false_iff.1 refused), absent]

theorem copyRecord_of_refused {error : Framework.NativeError}
    (decided : d.decideRecord node type name = .ok call) (refused : (d.reply 0).ok = false)
    (given : (d.reply 0).error = some error) :
    d.copyRecord node type name =
      .fail (d.ask.2.refusal .recordNotFound (some error)) d.ask.2 [.native call false] := by
  rw [← (ask_eq d).1] at refused given
  unfold copyRecord
  rw [decided]
  dsimp only
  rw [if_neg (Bool.eq_false_iff.1 refused), given]

theorem copyValues_of_answered {record : HandleId} {values : List (Option String)}
    (decided : d.decideValues record name = .ok call) (answered : (d.reply 0).ok = true)
    (given : (d.reply 0).values.map (List.map Value.text?) = some values) :
    d.copyValues record name = .ok values d.ask.2 [.native call true] := by
  rw [← (ask_eq d).1] at answered given
  obtain ⟨items, there, rfl⟩ := Option.map_eq_some_iff.1 given
  unfold copyValues
  rw [decided]
  dsimp only
  rw [if_pos answered, there]

end Answered

end Directory.Native

end PasswordChange
