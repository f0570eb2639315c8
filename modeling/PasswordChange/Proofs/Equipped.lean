import PasswordChange.Proofs.Answering
import PasswordChange.Proofs.Stations

/-!
# Frameworks that are equipped for the flow

Over a framework with all its constants every operation of the flow makes its call, and nothing can
go wrong but what the framework itself reports.

* `Native.stations` are the stations of the flow over such a framework.
* `Changer.submissionOf_cases` says that a confirmed conversation leads to one credential call, and
  that the submission succeeds exactly if the framework accepts it.
* `Host.Posix.dependable` says which POSIX hosts can be asked everything.
-/

namespace PasswordChange

open Confirmation

namespace Directory

variable {D α : Type} {S : D → Prop} {operation operation' : D → Step D α} {T : α → D → Prop}

/-- Where an operation leads does not depend on its events. -/
theorem Leads.of_eq (leads : Leads S operation T)
    (outcome : ∀ d, (operation' d).outcome = (operation d).outcome)
    (state : ∀ d, (operation' d).state = (operation d).state) : Leads S operation' T := by
  intro d start
  rw [outcome, state]
  exact leads d start

namespace Native

variable {f : Framework} {d : Native} {kind : Handle.Kind} {i session : HandleId}

/-! ## Operations between the stations -/

theorem Holds.ask (holds : d.Holds kind i) : d.ask.2.Holds kind i :=
  holds.of_handles_eq (ask_eq d).2.2

/-- An operation that decides on a call leads to a new object, or the framework refuses. -/
theorem leads_openObject {S : Native → Prop} {T : HandleId → Native → Prop}
    {fallback : ErrorCode} {name : Framework.Response → Value}
    {decide : Native → Except Failure Framework.Call}
    (decides : ∀ d, S d → d.Speaks f ∧ ∃ call, decide d = .ok call)
    (stays : ∀ d, S d → S d.ask.2)
    (reaches : ∀ d name, S d → T (d.issue kind name).1 (d.issue kind name).2) :
    Leads S (fun d => d.openObject kind fallback name (decide d)) T := by
  intro d start
  obtain ⟨speaks, call, decided⟩ := decides d start
  dsimp only
  rw [decided]
  cases answer : (d.reply 0).ok with
  | true =>
      rw [openObject_of_answered answer]
      exact Or.inl ⟨_, rfl, reaches _ _ (stays d start)⟩
  | false =>
      rw [openObject_of_refused answer, speaks.ask.refusal_eq]
      exact Or.inr ⟨_, rfl, stays d start⟩

/-- In a session a node that is opened is another object. -/
theorem enters (kind' : Handle.Kind) (name : Value) (speaks : d.Speaks f)
    (holds : d.Holds kind i) :
    (d.issue kind' name).2.Speaks f ∧ i ≠ (d.issue kind' name).1 ∧
      (d.issue kind' name).2.Holds kind' (d.issue kind' name).1 :=
  ⟨speaks.issue name, (holds.issue kind' name).1, holds_issue kind' name d⟩

/-- A record is found, or there is none, or the framework reports an error. -/
theorem leads_copyRecord (equipped : f.Equipped) (node : HandleId) (username : String) :
    Leads (fun d => d.Speaks f ∧ d.Holds .node node) (copyRecord node userRecords username)
      fun record? d => ∀ r, record? = some r → d.Speaks f ∧ d.Holds .record r := by
  intro d start
  obtain ⟨speaks, holds⟩ := start
  obtain ⟨o, decided⟩ := decideRecord_eq speaks equipped holds username
  cases answer : (d.reply 0).ok with
  | true =>
      rw [copyRecord_of_answered decided answer]
      refine Or.inl ⟨_, rfl, ?_⟩
      intro r found
      cases found
      exact ⟨speaks.ask.issue _, holds_issue .record _ _⟩
  | false =>
      cases given : (d.reply 0).error with
      | none =>
          rw [copyRecord_of_absent decided answer given]
          exact Or.inl ⟨none, rfl, fun r found => by cases found⟩
      | some error =>
          rw [copyRecord_of_refused decided answer given, speaks.ask.refusal_eq]
          exact Or.inr ⟨_, rfl, speaks.ask, holds.ask⟩

/-- Reading the location of a record always succeeds. -/
theorem copyValues_of_holds (equipped : f.Equipped) {record : HandleId} (speaks : d.Speaks f)
    (holds : d.Holds .record record) :
    ∃ values, (d.copyValues record metanodeLocation).outcome = .ok values ∧
      (d.copyValues record metanodeLocation).state = d.ask.2 := by
  obtain ⟨o, decided⟩ := decideValues_eq speaks equipped holds
  unfold copyValues
  rw [decided]
  dsimp only
  split <;> exact ⟨_, rfl, rfl⟩

/-- A submission succeeds exactly if the framework accepts the call. -/
theorem submit_cases (speaks : d.Speaks f) {decision : Except Failure Framework.Call}
    {call : Framework.Call} (decided : decision = .ok call) :
    d.submit decision = .ok () d.ask.2 [.native call true] ∨
      ∃ error, d.submit decision = .fail (.directory error) d.ask.2 [.native call false] := by
  rw [decided]
  cases answer : (d.reply 0).ok with
  | true => exact Or.inl (submit_of_answered answer)
  | false =>
      rw [submit_of_refused answer, speaks.ask.refusal_eq]
      exact Or.inr ⟨_, rfl⟩

end Native

end Directory

namespace Changer

open Directory (Native)

variable {f : Framework} {d : Native} {needsAuth : Bool} {answers : List Answer}
  {password : String} {record : HandleId}

/-- **A confirmed conversation leads to one credential call**, and the submission succeeds exactly
if the framework accepts it. -/
theorem submissionOf_cases (equipped : f.Equipped) (request : Request) (speaks : d.Speaks f)
    (holds : d.Holds .record record)
    (confirmed : (Conversation.of needsAuth answers).resolution = .confirmed password)
    (v : Vault) :
    let step := submissionOf record request needsAuth (Conversation.of needsAuth answers) v d
    ∃ call, call.isCredential = true ∧
      (step = .ok () d.ask.2 [.native call true] ∨
        ∃ error, step = .fail (.directory error) d.ask.2 [.native call false]) := by
  obtain ⟨readNew, readOld⟩ := revealed_of_confirmed confirmed v
  rw [Native.revealed?_ofSecret?] at readNew readOld
  cases needsAuth with
  | true =>
      obtain ⟨o, decided⟩ := Native.decideCredentials_eq speaks equipped holds readOld readNew
        request.username request.authname
      have submitted := Native.submit_cases speaks decided
      refine ⟨_, ?_, submitted⟩
      rfl
  | false =>
      obtain ⟨o, decided⟩ := Native.decideChange_eq holds readOld readNew
      have submitted := Native.submit_cases speaks decided
      refine ⟨_, ?_, submitted⟩
      rfl

end Changer

/-! ## The stations -/

namespace Directory.Native

variable {f : Framework}

/-- **The stations of the flow over an equipped framework.** -/
def stations (equipped : f.Equipped) (request : Request) : Stations Native request where
  idle d := d.Speaks f
  session s d := d.Speaks f ∧ d.Holds .session s
  entered s n d := d.Speaks f ∧ s ≠ n ∧ d.Holds .node n
  node n d := d.Speaks f ∧ d.Holds .node n
  record r d := d.Speaks f ∧ d.Holds .record r
  undergo _ _ speaks := speaks
  createSession options := by
    refine Leads.of_eq (leads_openObject (f := f) ?_ ?_ ?_)
      (fun d => (createSession_eq options d).1) fun d => (createSession_eq options d).2
    · exact fun d speaks => ⟨speaks, _, decideSession_eq speaks equipped options⟩
    · exact fun d speaks => speaks.ask
    · exact fun d name speaks => ⟨speaks.issue name, holds_issue .session name d⟩
  openNodeByName s name := by
    change Leads _ (fun d : Native => d.openObject .node .nodeUnknown (fun _ => .text name)
      (d.decideNodeByName s name)) _
    refine leads_openObject (f := f) ?_ ?_ ?_
    · intro d start
      obtain ⟨o, decided⟩ := decideNodeByName_eq start.1 equipped start.2 name
      exact ⟨start.1, _, decided⟩
    · exact fun d start => ⟨start.1.ask, start.2.ask⟩
    · exact fun d name start => enters .node name start.1 start.2
  openNodeByType s := by
    change Leads _ (fun d : Native => d.openObject .node .nodeUnknown
      (fun response => .ofText? response.name.text?) (d.decideNodeByType s authenticationNode)) _
    refine leads_openObject (f := f) ?_ ?_ ?_
    · intro d start
      obtain ⟨o, decided⟩ := decideNodeByType_eq start.1 equipped start.2
      exact ⟨start.1, _, decided⟩
    · exact fun d start => ⟨start.1.ask, start.2.ask⟩
    · exact fun d name start => enters .node name start.1 start.2
  leaveSession s n d entered := by
    obtain ⟨speaks, other, holds⟩ := entered
    exact ⟨speaks, holds.close other⟩
  copyRecord n := leads_copyRecord equipped n request.username
  copyValues r d there := by
    obtain ⟨values, read, state⟩ := copyValues_of_holds equipped there.1 there.2
    refine ⟨values, read, ?_⟩
    rw [show (Directory.copyValues r metanodeLocation d).state = _ from state]
    exact ⟨there.1.ask, there.2.ask⟩
  submission r v confirmed d there := by
    obtain ⟨call, _, accepted | ⟨error, refused⟩⟩ :=
      Changer.submissionOf_cases equipped request there.1 there.2 confirmed v
    · rw [accepted]
      exact Or.inl ⟨(), rfl, trivial⟩
    · rw [refused]
      exact Or.inr ⟨error, rfl, there.1.ask, there.2.ask⟩

end Directory.Native

/-! ## Hosts -/

/-- A POSIX host can be asked everything if the name of its flag can be handed to the kernel, and
the operating system may only refuse to start the loader. -/
theorem Host.Posix.dependable : Host.Dependable (H := Host.Posix) fun h =>
    Host.Posix.isFlagName h.flagName = true ∧
      ∀ cause, h.startFailure = some cause → cause.isRefusal = true where
  isSingleUser h ready := by
    have loading : h.load.2.1.flagName = h.flagName ∧
        h.load.2.1.startFailure = h.startFailure := by
      unfold Host.Posix.load
      split <;> exact ⟨rfl, rfl⟩
    change (∃ b, (Host.Posix.isSingleUser h).outcome = .ok b) ∧
      (Host.Posix.isFlagName (Host.Posix.isSingleUser h).state.flagName = true ∧
        ∀ cause, (Host.Posix.isSingleUser h).state.startFailure = some cause → _)
    unfold Host.Posix.isSingleUser
    generalize h.load = loaded at loading ⊢
    obtain ⟨library, h', events⟩ := loaded
    dsimp only at loading
    rw [← loading.1, ← loading.2] at ready
    rcases library with _ | _ | ⟨value, result, errno⟩
    · exact ⟨⟨_, rfl⟩, ready⟩
    · exact ⟨⟨_, rfl⟩, ready⟩
    · dsimp only
      rw [if_neg (by rw [ready.1]; exact Bool.false_ne_true)]
      split <;> exact ⟨⟨_, rfl⟩, ready⟩
  run path args h ready := by
    change (∀ e, (Host.Posix.run path args h).outcome = .error e → _) ∧
      (Host.Posix.isFlagName (Host.Posix.run path args h).state.flagName = true ∧
        ∀ cause, (Host.Posix.run path args h).state.startFailure = some cause → _)
    unfold Host.Posix.run
    rcases start : h.startFailure with _ | cause <;> refine ⟨fun e failed => ?_, ready⟩ <;>
      cases failed
    exact ⟨cause, rfl, ready.2 cause start⟩

end PasswordChange
