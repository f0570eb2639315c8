import Mathlib.Data.List.Induction
import PasswordChange.Proofs.Answering
import PasswordChange.Proofs.Operation

/-!
# How the errors of a framework are translated

A demand on a directory over a native framework fails exactly if the framework refuses the call, and
then with the framework's own error: with the texts that this error has, and with the code that its
number stands for, if it stands for one.

* `Framework.Means` says what a number stands for: of all entries under which the framework has the
  number, the last one counts. `Framework.codes` is the dictionary that is built for this.
* `Framework.Translates` relates an error of the framework and the error that is reported.
* `Native.Posed` says which demands on a directory over a framework come to a call, and
  `Native.Settles` how they end.
* `Native.errors_translated` is the main result.
-/

namespace PasswordChange

namespace Framework

variable {f : Framework} {number : Int} {code? : Option ErrorCode}

/-! ## The meaning of a number -/

/-- The framework has the number under the name of the entry. -/
def Numbers (f : Framework) (number : Int) (entry : String × ErrorCode) : Prop :=
  f.errorNumber? entry.1 = some number

instance : DecidablePred (f.Numbers number) :=
  fun entry => inferInstanceAs (Decidable (f.errorNumber? entry.1 = some number))

/-- What a number stands for: the code of the last entry under which the framework has it, if there
is one. -/
inductive Means (f : Framework) (number : Int) : Option ErrorCode → Prop
  | named {before after : List (String × ErrorCode)} {name : String} {code : ErrorCode} :
    errorMeanings = before ++ (name, code) :: after → f.Numbers number (name, code) →
    (∀ entry ∈ after, ¬f.Numbers number entry) → Means f number (some code)
  | unnamed : (∀ entry ∈ errorMeanings, ¬f.Numbers number entry) → Means f number none

/-- The last of the entries under which the framework has the number, if there is one. -/
def last? (f : Framework) (number : Int) (entries : List (String × ErrorCode)) :
    Option ErrorCode :=
  ((entries.filter fun entry => f.Numbers number entry).getLast?).map Prod.snd

theorem errorCode?_eq_last? (f : Framework) (number : Int) :
    f.errorCode? number = f.last? number errorMeanings :=
  rfl

/-- An entry with the number counts if it is the last one, any other entry does not count. -/
theorem last?_append_singleton (entries : List (String × ErrorCode)) (entry : String × ErrorCode) :
    f.last? number (entries ++ [entry]) =
      if f.Numbers number entry then some entry.2 else f.last? number entries := by
  unfold last?
  by_cases has : f.Numbers number entry <;> simp [has]

theorem last?_eq_none_iff {entries : List (String × ErrorCode)} :
    f.last? number entries = none ↔ ∀ entry ∈ entries, ¬f.Numbers number entry := by
  simp [last?]

/-- Entries without the number that come after do not matter. -/
theorem last?_append {entries after : List (String × ErrorCode)}
    (none : ∀ entry ∈ after, ¬f.Numbers number entry) :
    f.last? number (entries ++ after) = f.last? number entries := by
  have nothing : after.filter (fun entry => f.Numbers number entry) = [] := by
    simpa using none
  unfold last?
  rw [List.filter_append, nothing, List.append_nil]

/-- **The last entry with the number counts**, and there is no other reading. -/
theorem means_iff : f.Means number code? ↔ f.errorCode? number = code? := by
  rw [errorCode?_eq_last?]
  constructor
  · intro means
    cases means with
    | @named before after name code split has none =>
        rw [split, List.append_cons, last?_append none, last?_append_singleton, if_pos has]
    | unnamed none => exact last?_eq_none_iff.2 none
  · rintro rfl
    rcases last : (errorMeanings.filter fun entry => f.Numbers number entry).getLast? with
      _ | ⟨name, code⟩
    · have none := List.getLast?_eq_none_iff.1 last
      rw [last?, last]
      exact .unnamed (by simpa using none)
    · obtain ⟨others, found⟩ := List.getLast?_eq_some_iff.1 last
      obtain ⟨before, rest, split, _, found⟩ := List.filter_eq_append_iff.1 found
      obtain ⟨between, after, split', _, has, none⟩ := List.filter_eq_cons_iff.1 found
      have whole : errorMeanings = (before ++ between) ++ (name, code) :: after := by
        rw [split, split', List.append_assoc]
      rw [last?, last]
      exact .named whole (of_decide_eq_true has) (by simpa using none)

/-! ## The dictionary of the numbers -/

/-- A dictionary in which the number that the framework has for an entry is given the entry's code,
in place of the one it had. -/
def enter (f : Framework) (dictionary : Int → Option ErrorCode) (entry : String × ErrorCode) :
    Int → Option ErrorCode :=
  match f.errorNumber? entry.1 with
  | none => dictionary
  | some number => fun other => if other = number then some entry.2 else dictionary other

/-- The dictionary that is built of all the entries, one after the other. -/
def codes (f : Framework) : Int → Option ErrorCode :=
  errorMeanings.foldl f.enter fun _ => none

theorem enter_eq (dictionary : Int → Option ErrorCode) (entry : String × ErrorCode) :
    f.enter dictionary entry number =
      if f.Numbers number entry then some entry.2 else dictionary number := by
  rcases has : f.errorNumber? entry.1 with _ | own
  · simp [enter, Numbers, has]
  · simp [enter, Numbers, has, eq_comm]

/-- **The dictionary has the code of every number that stands for one.** -/
theorem codes_eq (f : Framework) : f.codes = f.errorCode? := by
  funext number
  rw [errorCode?_eq_last?]
  unfold codes
  generalize errorMeanings = entries
  induction entries using List.reverseRecOn with
  | nil => rfl
  | append_singleton entries entry ih =>
      rw [List.foldl_append, last?_append_singleton, ← ih]
      exact enter_eq _ _

/-! ## The error that is reported -/

/-- How an error of the framework is reported where `fallback` is the code of last resort: with the
same texts, and with the code that its number stands for, if it stands for one. -/
inductive Translates (f : Framework) (fallback : ErrorCode) :
    Option NativeError → DirectoryError → Prop
  | unknown : Translates f fallback none
      { code := fallback, description := some "Unknown directory error." }
  | given {error : NativeError} {code? : Option ErrorCode} : f.Means error.code code? →
    Translates f fallback (some error)
      { code := code?.getD fallback
        description := error.description.text?
        failureReason := error.reason.text?
        recoverySuggestion := error.suggestion.text? }

theorem translates_directoryError (f : Framework) (fallback : ErrorCode)
    (error? : Option NativeError) :
    f.Translates fallback error? (f.directoryError fallback error?) := by
  cases error? with
  | none => exact .unknown
  | some error => exact .given (means_iff.2 rfl)

end Framework

namespace Directory.Native

open Framework (Response)

variable {f : Framework} {d : Native}

/-! ## The constants stay -/

theorem Speaks.openObject (speaks : d.Speaks f) (kind : Handle.Kind) (fallback : ErrorCode)
    (name : Response → Value) (decision : Except Failure Framework.Call) :
    (d.openObject kind fallback name decision).state.Speaks f := by
  unfold Native.openObject
  split
  · exact speaks
  · dsimp only
    split
    · exact speaks.ask.issue _
    · exact speaks.ask

theorem Speaks.submit (speaks : d.Speaks f) (decision : Except Failure Framework.Call) :
    (d.submit decision).state.Speaks f := by
  unfold Native.submit
  split
  · exact speaks
  · dsimp only
    split <;> exact speaks.ask

/-- **Whatever is demanded, the constants of a framework stay.** -/
theorem Speaks.carryOut (speaks : d.Speaks f) (demand : Demand) :
    (demand.carryOut d).state.Speaks f := by
  cases demand with
  | createSession options =>
      change (d.createSession options).state.Speaks f
      rw [(createSession_eq options d).2]
      exact speaks.openObject ..
  | openNodeByName session name => exact speaks.openObject ..
  | openNodeByType session nodeType => exact speaks.openObject ..
  | copyRecord node recordType name =>
      change (d.copyRecord node recordType name).state.Speaks f
      unfold Native.copyRecord
      split
      · exact speaks
      · dsimp only
        split
        · exact speaks.ask.issue _
        · split <;> exact speaks.ask
  | copyValues record attributeName =>
      change (d.copyValues record attributeName).state.Speaks f
      unfold Native.copyValues
      split
      · exact speaks
      · dsimp only
        split <;> exact speaks.ask
  | setCredentials v record recordType authType items => exact speaks.submit _
  | changePassword v record old new => exact speaks.submit _
  | close handle => exact speaks

theorem Speaks.replay (speaks : d.Speaks f) (demands : List Demand) :
    (Demand.replay demands d).Speaks f := by
  induction demands generalizing d with
  | nil => exact speaks
  | cons demand rest ih => exact ih (speaks.carryOut demand)

/-! ## What becomes of an answer -/

/-- The demand comes to a call, with this code of last resort: its handle is open on an object of
the right kind, it is about users, and its secrets can be read. -/
inductive Posed (d : Native) : Demand → ErrorCode → Prop
  | createSession (options : List (String × Value)) :
    Posed d (.createSession options) .sessionFailed
  | openNodeByName {session : HandleId} (name : String) : d.Holds .session session →
    Posed d (.openNodeByName session name) .nodeUnknown
  | openNodeByType {session : HandleId} : d.Holds .session session →
    Posed d (.openNodeByType session authenticationNode) .nodeUnknown
  | copyRecord {node : HandleId} (name : String) : d.Holds .node node →
    Posed d (.copyRecord node userRecords name) .recordNotFound
  | setCredentials {v : Vault} {record : HandleId} {items : List Item} : d.Holds .record record →
    (∀ item ∈ items, ∃ text, revealed? v item = .ok text) →
    Posed d (.setCredentials v record userRecords setPassword items) .credentialsFailed
  | changePassword {v : Vault} {record : HandleId} {old new : Item} : d.Holds .record record →
    (∀ item ∈ [old, new], ∃ text, revealed? v item = .ok text) →
    Posed d (.changePassword v record old new) .credentialsFailed

/-- How a demand ends that has come to a call which was answered in this way: it succeeds if the
framework has accepted the call, a lookup also if there is no record and no error, and otherwise the
error of the framework is reported. -/
inductive Concludes (f : Framework) (fallback : ErrorCode) (isLookup : Bool) (response : Response) :
    Except Failure (Option HandleId) → Prop
  | accepted (i? : Option HandleId) : response.ok = true →
    Concludes f fallback isLookup response (.ok i?)
  | absent : isLookup = true → response.ok = false → response.error = none →
    Concludes f fallback isLookup response (.ok none)
  | refused {error : DirectoryError} : response.ok = false →
    ¬(isLookup = true ∧ response.error = none) →
    f.Translates fallback response.error error →
    Concludes f fallback isLookup response (.error (.directory error))

namespace Concludes

variable {fallback : ErrorCode} {isLookup : Bool} {response : Response}
  {outcome : Except Failure (Option HandleId)}
  (concludes : Concludes f fallback isLookup response outcome)

include concludes

theorem error_iff : (∃ e, outcome = .error e) ↔
    response.ok = false ∧ ¬(isLookup = true ∧ response.error = none) := by
  cases concludes with
  | accepted i? ok => simp [ok]
  | absent lookup refused none => simp [lookup, none]
  | refused refused other => exact iff_of_true ⟨_, rfl⟩ ⟨refused, other⟩

theorem eq_none (lookup : isLookup = true) (refused : response.ok = false)
    (none : response.error = none) : outcome = .ok .none := by
  cases concludes with
  | accepted i? ok =>
      rw [refused] at ok
      cases ok
  | absent => rfl
  | refused _ other => exact absurd ⟨lookup, none⟩ other

theorem translates {e : Failure} (failed : outcome = .error e) :
    ∃ error, e = .directory error ∧ f.Translates fallback response.error error := by
  cases concludes with
  | accepted | absent => cases failed
  | refused _ _ translates =>
      cases failed
      exact ⟨_, rfl, translates⟩

end Concludes

/-- One call is made, and the demand ends as its answer says. -/
structure Settles (f : Framework) (fallback : ErrorCode) (isLookup : Bool) (response : Response)
    (step : Step Native (Option HandleId)) : Prop where
  asks : ∃ call, Journal.native step.events = [call]
  concludes : Concludes f fallback isLookup response step.outcome

theorem Settles.openObject (speaks : d.Speaks f) (kind : Handle.Kind) (fallback : ErrorCode)
    (name : Response → Value) (call : Framework.Call) :
    Settles f fallback false (d.reply 0)
      ((d.openObject kind fallback name (.ok call)).map some) := by
  cases answer : (d.reply 0).ok with
  | true =>
      rw [openObject_of_answered answer]
      exact ⟨⟨call, rfl⟩, .accepted _ answer⟩
  | false =>
      rw [openObject_of_refused answer, speaks.ask.refusal_eq]
      exact ⟨⟨call, rfl⟩, .refused answer (by simp) (f.translates_directoryError ..)⟩

/-- A session is opened as any object, and then the log is told. -/
theorem Settles.createSession (speaks : d.Speaks f) (equipped : f.Equipped)
    (options : List (String × Value)) :
    Settles f .sessionFailed false (d.reply 0) ((d.createSession options).map some) := by
  have opened := Settles.openObject speaks .session .sessionFailed
    (fun _ => (localPath? options).getD (.text "default"))
    (.session ((localPath? options).map fun path =>
      (Framework.Constant.sessionLocalPath.value, path)))
  rw [← decideSession_eq speaks equipped options] at opened
  obtain ⟨⟨call, asked⟩, concludes⟩ := opened
  refine ⟨⟨call, ?_⟩, ?_⟩
  · unfold Native.createSession
    dsimp only
    split
    · exact asked
    · change Journal.native (_ ++ [_]) = _
      rw [Journal.native_append]
      exact congrArg (· ++ []) asked
  · change Concludes _ _ _ _ ((d.createSession options).outcome.map some)
    rw [(createSession_eq options d).1]
    exact concludes

theorem Settles.submit (speaks : d.Speaks f) (call : Framework.Call) :
    Settles f .credentialsFailed false (d.reply 0)
      ((d.submit (.ok call)).map fun _ => none) := by
  cases answer : (d.reply 0).ok with
  | true =>
      rw [submit_of_answered answer]
      exact ⟨⟨call, rfl⟩, .accepted _ answer⟩
  | false =>
      rw [submit_of_refused answer, speaks.ask.refusal_eq]
      exact ⟨⟨call, rfl⟩, .refused answer (by simp) (f.translates_directoryError ..)⟩

theorem Settles.copyRecord (speaks : d.Speaks f) {node : HandleId} {type name : String}
    {call : Framework.Call} (decided : d.decideRecord node type name = .ok call) :
    Settles f .recordNotFound true (d.reply 0) (d.copyRecord node type name) := by
  cases answer : (d.reply 0).ok with
  | true =>
      rw [copyRecord_of_answered decided answer]
      exact ⟨⟨call, rfl⟩, .accepted _ answer⟩
  | false =>
      cases given : (d.reply 0).error with
      | none =>
          rw [copyRecord_of_absent decided answer given]
          exact ⟨⟨call, rfl⟩, .absent rfl answer given⟩
      | some error =>
          rw [copyRecord_of_refused decided answer given, speaks.ask.refusal_eq]
          refine ⟨⟨call, rfl⟩, .refused answer (by simp [given]) ?_⟩
          rw [given]
          exact f.translates_directoryError ..

/-- Items that can be read one by one can be read together. -/
theorem mapM_revealed? {v : Vault} {items : List Item}
    (readable : ∀ item ∈ items, ∃ text, revealed? v item = .ok text) :
    ∃ texts, items.mapM (revealed? v) = .ok texts := by
  induction items with
  | nil => exact ⟨[], rfl⟩
  | cons item rest ih =>
      obtain ⟨⟨text, first⟩, others⟩ := List.forall_mem_cons.1 readable
      obtain ⟨texts, last⟩ := ih others
      refine ⟨text :: texts, ?_⟩
      rw [List.mapM_cons, first, last]
      rfl

/-- **A demand that comes to a call makes it and ends as the framework answers.** -/
theorem Posed.settles {demand : Demand} {fallback : ErrorCode} (equipped : f.Equipped)
    (speaks : d.Speaks f) (posed : Posed d demand fallback) :
    Settles f fallback demand.isLookup (d.reply 0) (demand.carryOut d) := by
  obtain ⟨g, installed, constants⟩ := speaks.installed equipped
  cases posed with
  | createSession options =>
      exact .createSession speaks equipped options
  | openNodeByName name holds =>
      obtain ⟨o, decided⟩ := decideNodeByName_eq speaks equipped holds name
      change Settles f _ _ _ ((d.openObject _ _ _ (d.decideNodeByName _ name)).map some)
      rw [decided]
      exact .openObject speaks ..
  | openNodeByType holds =>
      obtain ⟨o, decided⟩ := decideNodeByType_eq speaks equipped holds
      change Settles f _ _ _ ((d.openObject _ _ _ (d.decideNodeByType _ _)).map some)
      rw [decided]
      exact .openObject speaks ..
  | copyRecord name holds =>
      obtain ⟨o, decided⟩ := decideRecord_eq speaks equipped holds name
      exact .copyRecord speaks decided
  | @setCredentials v record items holds readable =>
      obtain ⟨texts, read⟩ := mapM_revealed? readable
      obtain ⟨o, found, _⟩ := holds.object_eq
      have decided : d.decideCredentials v record userRecords setPassword items =
          .ok (.setCredentials o Framework.Constant.recordTypeUsers.value
            Framework.Constant.authenticationSetPassword.value texts) := by
        unfold decideCredentials
        simp only [installed, read, found, recordType_eq speaks equipped, constants, bind,
          Except.bind, ne_eq, not_true, if_false]
      change Settles f _ _ _ ((d.submit (d.decideCredentials v record _ _ items)).map _)
      rw [decided]
      exact .submit speaks _
  | @changePassword v record old new holds readable =>
      obtain ⟨⟨oldText, readOld⟩, ⟨newText, readNew⟩, _⟩ :=
        (List.forall_mem_cons.1 readable).imp_right List.forall_mem_cons.1
      obtain ⟨o, found, _⟩ := holds.object_eq
      have decided : d.decideChange v record old new =
          .ok (.changePassword o oldText newText) := by
        unfold decideChange
        simp only [found, readOld, readNew, bind, Except.bind]
      change Settles f _ _ _ ((d.submit (d.decideChange v record old new)).map _)
      rw [decided]
      exact .submit speaks _

/-! ## The main result -/

/-- The dictionary that is built of the framework's constants when it is needed. -/
def codes (d : Native) : Int → Option ErrorCode :=
  (d.framework.getD {}).codes

/-- Whenever the dictionary is built, it says what the numbers mean. -/
theorem Speaks.means_codes (speaks : d.Speaks f) (number : Int) :
    f.Means number (d.codes number) := by
  rw [Framework.means_iff, codes, Framework.codes_eq]
  unfold Framework.errorCode?
  rw [speaks.errorNumber?_eq]

/-- The directory over a framework at the beginning. -/
def ofFramework (f : Framework) : Native where
  framework := some f

/-- **The errors of a framework are reported.** Whatever was demanded before, a demand that comes to
a call makes one, and it fails exactly if the framework refuses the call, except that a lookup to
which the framework gives neither a record nor an error finds no record. The error that is reported
is the framework's, with the code that its number stands for; and this is the code in the
dictionary, whatever was demanded until that is built. -/
theorem errors_translated {f : Framework} (equipped : f.Equipped) (history : List Demand)
    {demand : Demand} {fallback : ErrorCode}
    (posed : Posed (Demand.replay history (ofFramework f)) demand fallback) :
    let d := Demand.replay history (ofFramework f)
    let response := d.reply 0
    let step := demand.carryOut d
    (∃ call, Journal.native step.events = [call]) ∧
    ((∃ e, step.outcome = .error e) ↔
      response.ok = false ∧ ¬(demand.isLookup = true ∧ response.error = none)) ∧
    (demand.isLookup = true → response.ok = false → response.error = none →
      step.outcome = .ok none) ∧
    (∀ e, step.outcome = .error e → ∃ error, e = .directory error ∧
      f.Translates fallback response.error error) ∧
    ∀ earlier number,
      f.Means number (codes (Demand.replay earlier (ofFramework f)) number) := by
  intro d response step
  have start : (ofFramework f).Speaks f := ⟨f, rfl, rfl, rfl⟩
  obtain ⟨asks, concludes⟩ := posed.settles equipped (start.replay history)
  exact ⟨asks, concludes.error_iff, concludes.eq_none, fun e => concludes.translates,
    fun earlier => (start.replay earlier).means_codes⟩

/-- A framework with one number for two errors, which refuses its fourth call with this number. -/
def ambiguous : Framework where
  responses := [{}, {}, {}, { ok := false, error := some { code := 7, reason := .text "No." } }]
  errors := [("kODErrorSessionDaemonNotRunning", 7), ("kODErrorCredentialsNotAuthorized", 7)]

/-- A record is looked up over the framework. -/
def alicesLookup : List Demand :=
  [.createSession [], .openNodeByType ⟨0⟩ authenticationNode, .copyRecord ⟨1⟩ userRecords "alice"]

/-- Of the two meanings of the number the last one is reported. -/
theorem ambiguous_translated :
    Posed (Demand.replay alicesLookup (ofFramework ambiguous))
      (.changePassword .empty ⟨2⟩ .absent (.text "new")) .credentialsFailed ∧
    ∃ error, ((Demand.changePassword .empty ⟨2⟩ .absent (.text "new")).carryOut
        (Demand.replay alicesLookup (ofFramework ambiguous))).outcome =
          .error (.directory error) ∧
      error.code = .notAuthorized := by
  have holds : (Demand.replay alicesLookup (ofFramework ambiguous)).Holds .record ⟨2⟩ :=
    ⟨_, _, rfl, rfl, rfl⟩
  have posed : Posed (Demand.replay alicesLookup (ofFramework ambiguous))
      (.changePassword .empty ⟨2⟩ .absent (.text "new")) .credentialsFailed :=
    .changePassword holds (by simp [revealed?])
  obtain ⟨_, fails, _, translates, _⟩ :=
    errors_translated (fun constant => by cases constant <;> rfl) alicesLookup posed
  obtain ⟨e, failed⟩ := fails.2 ⟨rfl, nofun⟩
  obtain ⟨error, rfl, translated⟩ := translates e failed
  refine ⟨posed, error, failed, ?_⟩
  have refusal : (reply (Demand.replay alicesLookup (ofFramework ambiguous)) 0).error =
      some { code := 7, reason := .text "No." } := rfl
  rw [refusal] at translated
  cases translated with
  | @given _ code? means =>
      have last : ambiguous.errorCode? 7 = some .notAuthorized := by decide
      have same := Framework.means_iff.1 means
      rw [last] at same
      rw [← same]
      rfl

end Directory.Native

end PasswordChange
