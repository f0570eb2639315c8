import PasswordChange.Proofs.Service

/-!
# Which answer of the framework a run uses for what

A native framework is given by its answers, so what a run finds is determined by them.

* `Native.reply` is the answer to the next call, or to one after it.
* `Changer.locate_script` says which answers are used up when a record is located.
* `Native.copyValues_script` says how the values of its location follow from the next answer.
-/

namespace PasswordChange

open Framework (Response)

namespace Directory.Native

variable {d : Native}

/-- The answers that the framework has still to give, before it answers with successes for
ever. -/
def pending (d : Native) : List Response :=
  (d.framework.getD {}).responses

/-- The answer that the framework gives after `k` others. -/
def reply (d : Native) (k : Nat) : Response :=
  d.pending[k]?.getD {}

theorem reply_of_pending_eq {d' : Native} {k : Nat} (dropped : d'.pending = d.pending.drop k)
    (j : Nat) : d'.reply j = d.reply (k + j) := by
  unfold reply
  rw [dropped, List.getElem?_drop]

theorem ask_eq (d : Native) :
    d.ask.1 = d.reply 0 ∧ d.ask.2.pending = d.pending.drop 1 ∧ d.ask.2.handles = d.handles := by
  unfold ask
  rcases installed : d.framework with _ | f
  · simp [reply, pending, installed]
  · unfold Framework.answer
    rcases script : f.responses with _ | ⟨r, rest⟩ <;> simp [reply, pending, installed, script]

theorem pending_issue (kind : Handle.Kind) (name : Value) (d : Native) :
    (d.issue kind name).2.pending = d.pending := by
  unfold issue pending
  cases d.framework <;> rfl

/-- Opening an object that was decided on takes one answer, which decides whether it succeeds. -/
theorem openObject_script (kind : Handle.Kind) (fallback : ErrorCode) (name : Response → Value)
    (decision : Except Failure Framework.Call) (d : Native) :
    (∃ e, decision = .error e ∧ (d.openObject kind fallback name decision).outcome = .error e) ∨
    (d.openObject kind fallback name decision).state.pending = d.pending.drop 1 ∧
      ((∃ i, (d.openObject kind fallback name decision).outcome = .ok i) ∧
          (d.reply 0).ok = true ∨
        (∃ e, (d.openObject kind fallback name decision).outcome = .error e) ∧
          (d.reply 0).ok = false) := by
  obtain ⟨answer, rest, _⟩ := ask_eq d
  unfold openObject
  cases decision with
  | error e => exact Or.inl ⟨e, rfl, rfl⟩
  | ok call =>
      refine Or.inr ?_
      dsimp only
      rw [← answer]
      split
      next succeeded => exact ⟨(pending_issue ..).trans rest, Or.inl ⟨⟨_, rfl⟩, succeeded⟩⟩
      next failed =>
        exact ⟨rest, Or.inr ⟨⟨_, rfl⟩, Bool.eq_false_iff.2 failed⟩⟩

/-- A node or a session that was opened took one answer, a success. -/
theorem openObject_of_ok {kind : Handle.Kind} {fallback : ErrorCode} {name : Response → Value}
    {decision : Except Failure Framework.Call} {i : HandleId}
    (opened : (d.openObject kind fallback name decision).outcome = .ok i) :
    (d.reply 0).ok = true ∧
      (d.openObject kind fallback name decision).state.pending = d.pending.drop 1 := by
  rcases openObject_script kind fallback name decision d with
    ⟨e, _, failed⟩ | ⟨rest, ⟨_, succeeded⟩ | ⟨⟨e, failed⟩, _⟩⟩
  · rw [failed] at opened
    cases opened
  · exact ⟨succeeded, rest⟩
  · rw [failed] at opened
    cases opened

theorem createSession_eq (options : List (String × Value)) (d : Native) :
    (d.createSession options).outcome = (d.openObject .session .sessionFailed
        (fun _ => (localPath? options).getD (.text "default"))
        (d.decideSession options)).outcome ∧
      (d.createSession options).state = (d.openObject .session .sessionFailed
        (fun _ => (localPath? options).getD (.text "default"))
        (d.decideSession options)).state := by
  unfold createSession
  dsimp only
  split <;> exact ⟨rfl, rfl⟩

/-- A record that was found took one answer. -/
theorem copyRecord_script {node record : HandleId} {type name : String}
    (found : (d.copyRecord node type name).outcome = .ok (some record)) :
    (d.copyRecord node type name).state.pending = d.pending.drop 1 := by
  obtain ⟨_, rest, _⟩ := ask_eq d
  unfold copyRecord at found ⊢
  split at found
  · cases found
  next call decided =>
    dsimp only at found ⊢
    split at found
    next succeeded =>
      rw [if_pos succeeded]
      exact (pending_issue ..).trans rest
    next =>
      split at found <;> cases found

/-- The values of an answer to the question for an attribute; an answer that is none, or that has
none, stands for no values. -/
def valuesOf (response : Response) : List (Option String) :=
  ((if response.ok then response.values else none).getD []).map Value.text?

/-- The values of a record's location are those of the next answer. -/
theorem copyValues_script {record : HandleId} {name : String} {values : List (Option String)}
    (read : (d.copyValues record name).outcome = .ok values) :
    values = valuesOf (d.reply 0) ∧
      (d.copyValues record name).state.handles = d.handles := by
  obtain ⟨answer, _, handles⟩ := ask_eq d
  unfold copyValues at read ⊢
  split at read
  · cases read
  next call decided =>
    unfold valuesOf
    rw [← answer]
    dsimp only at read ⊢
    split at read
    next values' given =>
      cases read
      rw [given]
      exact ⟨rfl, handles⟩
    next none =>
      cases read
      rw [none]
      exact ⟨rfl, handles⟩

theorem idleFrame : IdleFrame Native fun d d' => d' = d where
  refl _ := rfl
  trans first second := second.trans first
  undergo _ _ := rfl

/-- A first session that is refused with an error of the directory has taken one answer. -/
theorem createSession_refused {error : DirectoryError}
    (refused : (d.createSession []).outcome = .error (.directory error)) :
    (d.reply 0).ok = false ∧ (d.createSession []).state.pending = d.pending.drop 1 := by
  obtain ⟨outcome, state⟩ := createSession_eq [] d
  rw [outcome] at refused
  rw [state]
  rcases openObject_script .session .sessionFailed
      (fun _ => (localPath? []).getD (.text "default")) (d.decideSession []) d with
    ⟨e, undecided, failed⟩ | ⟨rest, ⟨⟨i, opened⟩, _⟩ | ⟨_, failed⟩⟩
  · -- Without options only a missing framework can be in the way, which is no such error.
    rw [failed] at refused
    cases refused
    unfold decideSession installed at undecided
    cases installed : d.framework <;> rw [installed] at undecided <;> cases undecided
  · rw [opened] at refused
    cases refused
  · exact ⟨failed, rest⟩

end Directory.Native

namespace Changer

open Directory (Native)

variable {H : Type} [Host H] {c : Changer} {request : Request}

omit [Host H] in
theorem performed_createSession {options : List (String × Value)} {w w' : World Native H}
    {r : Except Failure HandleId}
    (performed : Act.perform (Directory.createSession options) w = (r, w')) :
    (w.directory.createSession options).outcome = r ∧
      (w.directory.createSession options).state = w'.directory :=
  ⟨congrArg Prod.fst performed, congrArg (fun result => result.2.directory) performed⟩

/-- A session that was opened took one answer, or two with a bootstrap in between. -/
theorem openSession_script {w w₁ : World Native H} {session : HandleId} {location : Location}
    (opened : c.openSession request w = (.ok (session, location), w₁)) :
    location = c.openedLocation request (w.directory.reply 0).ok ∧
      w₁.directory.pending =
        w.directory.pending.drop (if (w.directory.reply 0).ok then 1 else 2) := by
  obtain ⟨first, w', begun, rest⟩ := Act.bind_eq_ok opened
  rcases Act.orElse_eq_ok begun with direct | ⟨e, w'', refused, handled⟩
  · obtain ⟨session', w'', performed, given⟩ := Act.bind_eq_ok direct
    cases given
    cases rest
    obtain ⟨outcome, state⟩ := performed_createSession performed
    obtain ⟨outcome', state'⟩ := Native.createSession_eq [] w.directory
    rw [outcome'] at outcome
    obtain ⟨succeeded, pending⟩ := Native.openObject_of_ok outcome
    rw [succeeded, ← state, state', pending]
    exact ⟨rfl, rfl⟩
  · -- Only the error that the daemon does not run is handled, by a bootstrap.
    cases e with
    | directory error =>
        obtain ⟨session', w₂, performed, given⟩ | refused := Act.andThen_cases refused
        · cases given
        obtain ⟨_, refused, same⟩ := refused
        cases same
        obtain ⟨outcome, state⟩ := performed_createSession refused
        obtain ⟨failed, pending⟩ := Native.createSession_refused outcome
        have bootstrapped : first = none ∧ w'.directory = w''.directory := by
          change (ite _ _ _ : Act Native H (Option HandleId)) w'' = _ at handled
          split at handled
          · obtain ⟨_, w₂, loaded, given⟩ := Act.bind_eq_ok handled
            cases given
            have kept := c.bootstrap_keeps (Native.idleFrame.coversBootstrap (P := fun _ => True)
              ⟨fun _ _ _ => trivial, fun _ _ _ => trivial, fun _ _ _ _ _ => trivial⟩
              fun _ _ => trivial) error w''
            rw [loaded] at kept
            exact ⟨rfl, kept.directory⟩
          · cases handled
        obtain ⟨rfl, same⟩ := bootstrapped
        obtain ⟨session', w₂, performed, given⟩ := Act.bind_eq_ok rest
        cases given
        obtain ⟨outcome', state'⟩ := performed_createSession performed
        obtain ⟨outcome'', state''⟩ := Native.createSession_eq _ w'.directory
        rw [outcome''] at outcome'
        obtain ⟨_, pending'⟩ := Native.openObject_of_ok outcome'
        rw [failed, ← state', state'', pending', same, ← state, pending, List.drop_drop]
        exact ⟨rfl, rfl⟩
    | _ => cases handled

omit [Host H] in
/-- A node that was opened in a session took one answer. -/
theorem openNode_script {w w₁ : World Native H} {session node : HandleId} {location : Location}
    (opened : Act.closing session (openNode session location) w = (.ok node, w₁)) :
    w₁.directory.pending = w.directory.pending.drop 1 := by
  unfold Act.closing Act.always at opened
  rcases entered : openNode session location w with ⟨r, w'⟩
  rw [entered] at opened
  dsimp only [Act.perform] at opened
  rw [show (Directory.close session w'.directory).outcome = .ok () from
    (Native.close_eq session w'.directory).1] at opened
  cases opened
  show w'.directory.pending = _
  have taken {operation : Native → Step Native HandleId} {kind : Handle.Kind}
      {fallback : ErrorCode} {name : Response → Value}
      {decision : Except Failure Framework.Call}
      (opens : operation w.directory =
        w.directory.openObject kind fallback name decision)
      (performed : Act.perform operation w = (.ok node, w')) :
      w'.directory.pending = w.directory.pending.drop 1 := by
    have outcome : (operation w.directory).outcome = .ok node := congrArg Prod.fst performed
    have state : (operation w.directory).state = w'.directory :=
      congrArg (fun result => result.2.directory) performed
    rw [opens] at outcome state
    exact state ▸ (Native.openObject_of_ok outcome).2
  unfold openNode at entered
  rcases named : location.name? with _ | name <;> rw [named] at entered
  · exact taken rfl entered
  · exact taken rfl entered

/-- **A record that was located took three answers, or four with a bootstrap.** -/
theorem locate_script {w w₀ : World Native H} {found : Found}
    (located : c.locate request w = (.ok found, w₀)) :
    found.location = c.openedLocation request (w.directory.reply 0).ok ∧
      w₀.directory.pending =
        w.directory.pending.drop (if (w.directory.reply 0).ok then 3 else 4) := by
  obtain ⟨session, w₁, w₂, opened, entered, looked⟩ := locate_eq_ok located
  obtain ⟨location, first⟩ := openSession_script opened
  have second := openNode_script entered
  have performed := findRecord_eq_ok looked
  have outcome := congrArg Prod.fst performed
  have state : (w₂.directory.copyRecord found.node Directory.userRecords
      request.username).state = w₀.directory :=
    congrArg (fun result => result.2.directory) performed
  have third := Native.copyRecord_script outcome
  rw [state] at third
  refine ⟨location, ?_⟩
  rw [third, second, first, List.drop_drop, List.drop_drop]
  cases (w.directory.reply 0).ok <;> rfl

/-- The location that decides about authentication, read off the answers of the framework: the
first value of the record's location or, if it has none, the location that was opened. -/
def decisiveLocation (c : Changer) (request : Request) (d : Native) : Location :=
  match Native.valuesOf (d.reply (if (d.reply 0).ok then 3 else 4)) with
  | value :: _ => .ofText? value
  | [] => c.openedLocation request (d.reply 0).ok

/-- **The location that a run goes by is the one that the answers give.** -/
theorem Reached.canonical_eq {R : Native → Native → Prop} {w w₀ w₁ : World Native H}
    {found : Found} {values : List (Option String)}
    (reached : Reached R c request w found values w₀ w₁) :
    found.canonical values = c.decisiveLocation request w.directory ∧
      w₁.directory.handles = w₀.directory.handles := by
  obtain ⟨location, pending⟩ := locate_script reached.located
  obtain ⟨read, handles⟩ := Native.copyValues_script reached.read
  rw [Native.reply_of_pending_eq pending] at read
  refine ⟨?_, ?_⟩
  · unfold Found.canonical decisiveLocation
    rw [location, read, Nat.add_zero]
    cases Native.valuesOf _ <;> rfl
  · rw [reached.directory]
    exact handles

end Changer

end PasswordChange
