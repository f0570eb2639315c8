import PasswordChange.Proofs.Change
import PasswordChange.Proofs.Reachable
import PasswordChange.Proofs.Stations

/-!
# The stations at a directory in memory

An open handle on a directory in memory stands for a session, for a node or for a record, and what
it stands for does not change while other handles are opened and closed. With the invariant that the
nodes of the search are there, no lookup of the flow misses.

* `Memory.Holds` says what a handle stands for.
* `Memory.stations` are the stations of the flow.
-/

namespace PasswordChange.Directory.Memory

variable {d d' : Memory} {kind : Handle.Kind} {i j : HandleId} {ref : Ref}

/-! ## What handles stand for -/

/-- The handle is open, of this kind, and stands for this. -/
def Holds (d : Memory) (kind : Handle.Kind) (i : HandleId) (ref : Ref) : Prop :=
  ∃ h, d.handles.get? i = some h ∧ h.kind = kind ∧ h.ref = some ref

theorem Holds.access_eq (holds : d.Holds kind i ref) : d.handles.access i = .ok ref := by
  obtain ⟨h, there, _, isOpen⟩ := holds
  unfold Registry.access
  simp only [there, Handle.access, isOpen]

theorem Holds.isLocalSession_eq {path : Value} (holds : d.Holds kind i (.session path)) :
    d.isLocalSession i = .ok path.isSet := by
  unfold isLocalSession
  rw [holds.access_eq]
  rfl

theorem Holds.nodeNames_eq {names : List String} (holds : d.Holds kind i (.node names)) :
    d.nodeNames i = .ok names := by
  unfold nodeNames
  rw [holds.access_eq]
  rfl

theorem Holds.recordOf_eq {node user : String} (holds : d.Holds kind i (.record node user)) :
    d.recordOf i = .ok (node, user) := by
  unfold recordOf
  rw [holds.access_eq]
  rfl

theorem Holds.of_handles_eq (holds : d.Holds kind i ref) (same : d'.handles = d.handles) :
    d'.Holds kind i ref := by
  unfold Holds
  rw [same]
  exact holds

/-- A new handle stands for what it was issued for. -/
theorem holds_issue {h : Handle Ref} (isOpen : h.ref = some ref) (d : Memory) :
    (d.issue h).2.Holds h.kind (d.issue h).1 ref :=
  ⟨h, (Registry.get?_issue h d.handles _).trans (if_pos rfl), rfl, isOpen⟩

/-- A new handle is none of the open ones, which stand for the same as before. -/
theorem Holds.issue (holds : d.Holds kind i ref) (h : Handle Ref) :
    i ≠ (d.issue h).1 ∧ (d.issue h).2.Holds kind i ref := by
  obtain ⟨h', there, same, isOpen⟩ := holds
  have other : i ≠ (d.handles.issue h).1 := by
    rintro rfl
    simp [Registry.get?, Registry.issue] at there
  refine ⟨other, h', ?_, same, isOpen⟩
  exact (Registry.get?_issue h d.handles i).trans ((if_neg other).trans there)

/-- Closing a handle leaves the others as they are. -/
theorem get?_close_of_other (other : j ≠ i) (d : Memory) :
    (d.close j).state.handles.get? i = d.handles.get? i :=
  Registry.get?_close_of_ne (fun _ (released : List HandleId × List Event) =>
    release j (((d.handles.get? j).map Handle.kind).getD .plain) released.1) other d.handles
    (d.openHandles, [])

/-- The other handles stand for the same after one was closed. -/
theorem Holds.close (holds : d.Holds kind i ref) (other : j ≠ i) :
    (d.close j).state.Holds kind i ref := by
  obtain ⟨h, there, same, isOpen⟩ := holds
  exact ⟨h, (get?_close_of_other other d).trans there, same, isOpen⟩

/-- The object behind a handle is released when the handle is closed. -/
theorem Holds.events_close (holds : d.Holds kind i ref) :
    (d.close i).events = [.released kind] := by
  obtain ⟨h, there, rfl, isOpen⟩ := holds
  unfold Memory.close Registry.close Handle.close
  simp only [there, isOpen]
  rfl

/-! ## Operations between the stations -/

theorem Grounded.issue (grounded : d.Grounded) (h : Handle Ref) : (d.issue h).2.Grounded :=
  grounded.of_undisturbed (undisturbed_issue h d)

/-- An operation that hands out a handle leads to where the handle stands for something. -/
theorem leads_conclude {S : Memory → Prop} {T : HandleId → Memory → Prop} {call : Call}
    {decide : Memory → Except Failure (Handle Ref)}
    (reports : ∀ d e, S d → decide d = .error e → e.IsReported)
    (reaches : ∀ d h, S d → decide d = .ok h → T (d.issue h).1 (d.issue h).2) :
    Leads S (fun d => d.conclude call (decide d)) T := by
  intro d start
  dsimp only
  rcases decided : decide d with e | h
  · obtain ⟨error, rfl⟩ := reports d e start decided
    exact Or.inr ⟨error, rfl, start⟩
  · exact Or.inl ⟨_, rfl, reaches d h start decided⟩

/-- An operation that has handed out a handle has issued the one that was decided on. -/
theorem issued_of_conclude {call : Call} {decision : Except Failure (Handle Ref)}
    (opened : (d.conclude call decision).outcome = .ok i) :
    ∃ h, decision = .ok h ∧ (d.issue h).1 = i ∧
      (d.conclude call decision).state = (d.issue h).2 := by
  rcases decision with e | h <;> cases opened
  exact ⟨h, rfl, rfl, rfl⟩

/-- An operation that should have handed out a handle fails as the decision does. -/
theorem error_of_conclude {call : Call} {decision : Except Failure (Handle Ref)} {e : Failure}
    (failed : (d.conclude call decision).outcome = .error e) : decision = .error e := by
  rcases decision with e' | h <;> cases failed
  rfl

theorem decideSession_isReported {options : List (String × Value)} {e : Failure}
    (decided : d.decideSession options = .error e) : e.IsReported := by
  unfold decideSession at decided
  split at decided
  · cases decided
    exact ⟨_, rfl⟩
  · dsimp only at decided
    split at decided <;> split at decided <;> cases decided <;> exact ⟨_, rfl⟩

theorem createSession_isReported {options : List (String × Value)} {e : Failure}
    (failed : (d.createSession options).outcome = .error e) : e.IsReported :=
  decideSession_isReported (error_of_conclude failed)

/-- In a session a node is decided on by its name if it is visible. -/
theorem decideNodeByName_eq {s : HandleId} {path : Value} (holds : d.Holds kind s (.session path))
    (name : String) :
    d.decideNodeByName s name =
      if (d.visibleNodes path.isSet).contains name then
        .ok ⟨.node, .text name, some (.node [name])⟩
      else .error (.directory
        { code := .nodeUnknown
          description := some "Unable to open the directory node."
          failureReason := some ("The node '" ++ name ++ "' could not be found.") }) := by
  unfold decideNodeByName
  rw [holds.isLocalSession_eq]
  rfl

/-- In a session the search goes over the searchable nodes that are visible. -/
theorem decideNodeByType_eq {s : HandleId} {path : Value} (holds : d.Holds kind s (.session path)) :
    d.decideNodeByType s authenticationNode =
      .ok ⟨.node, .text "/Search",
        some (.node (d.searchOrder.filter (d.visibleNodes path.isSet).contains))⟩ := by
  unfold decideNodeByType
  rw [if_neg (fun differ => differ rfl), holds.isLocalSession_eq]
  rfl

/-- In a session only an error of the directory keeps a node from being opened by its name. -/
theorem decideNodeByName_isReported {s : HandleId} {path : Value}
    (holds : d.Holds kind s (.session path)) {name : String} {e : Failure}
    (decided : d.decideNodeByName s name = .error e) : e.IsReported := by
  rw [decideNodeByName_eq holds] at decided
  split at decided <;> cases decided
  exact ⟨_, rfl⟩

/-- In a session only an error of the directory keeps a node from being opened by its type. -/
theorem decideNodeByType_isReported {s : HandleId} {path : Value}
    (holds : d.Holds kind s (.session path)) {nodeType : String} {e : Failure}
    (decided : d.decideNodeByType s nodeType = .error e) : e.IsReported := by
  by_cases authentication : nodeType = authenticationNode
  · rw [authentication, decideNodeByType_eq holds] at decided
    cases decided
  · unfold decideNodeByType at decided
    rw [if_pos authentication] at decided
    cases decided
    exact ⟨_, rfl⟩

/-- Where the nodes are there, only an injected fault keeps a lookup from ending. -/
theorem decideRecord_isReported {n : HandleId} {names : List String}
    (holds : d.Holds kind n (.node names)) (known : ∀ name ∈ names, d.nodes.has name = true)
    {recordType user : String} {e : Failure}
    (decided : d.decideRecord n recordType user = .error e) : e.IsReported := by
  unfold decideRecord at decided
  split at decided
  · cases decided
    exact ⟨_, rfl⟩
  · split at decided
    · cases decided
    · obtain ⟨found, search⟩ := findUser_isOk known user
      rw [holds.nodeNames_eq] at decided
      simp only [bind, Except.bind, search] at decided
      cases found <;> cases decided

/-- Where the nodes of the search are there, an authenticator is refused by an error of the
directory. -/
theorem decideAuthenticator_isReported (grounded : d.Grounded) {node : String}
    (known : d.nodes.has node = true) {authname : String} {username : Item}
    {oldPassword : Option String} {e : Failure}
    (refused : d.decideAuthenticator node authname username oldPassword = .error e) :
    e.IsReported := by
  obtain ⟨found, search⟩ := authenticator_isOk known grounded authname
  unfold decideAuthenticator at refused
  rw [search] at refused
  rcases found with _ | ⟨home, account⟩
  · cases refused
    exact ⟨_, rfl⟩
  · simp only [bind, Except.bind] at refused
    split at refused
    · cases refused
      exact ⟨_, rfl⟩
    · split at refused <;> cases refused
      exact ⟨_, rfl⟩

variable (request : Request)

/-- The handle is open on nodes that are there. -/
def OpenNode (n : HandleId) (d : Memory) : Prop :=
  ∃ names, d.Holds .node n (.node names) ∧ ∀ name ∈ names, d.nodes.has name = true

/-- A node that was opened in a session is none of the sessions. -/
theorem openNode_issue (name : Value) {s : HandleId} {path : Value}
    (session : d.Holds .session s (.session path)) {names : List String}
    (known : ∀ name ∈ names, d.nodes.has name = true) :
    s ≠ (d.issue ⟨.node, name, some (.node names)⟩).1 ∧
      OpenNode (d.issue ⟨.node, name, some (.node names)⟩).1
        (d.issue ⟨.node, name, some (.node names)⟩).2 :=
  ⟨(session.issue _).1, names, holds_issue rfl d, known⟩

/-- Where the nodes of the search are there, the record of a user is found, or there is none, or an
injected fault is reported. -/
theorem leads_copyRecord (n : HandleId) :
    Leads (fun d => d.Grounded ∧ d.OpenNode n) (copyRecord n userRecords request.username)
      fun record? d => ∀ r, record? = some r →
        d.Grounded ∧ ∃ node, d.Denotes r node request.username := by
  rintro d ⟨grounded, names, holds, known⟩
  have denotes {r : HandleId}
      (found : (d.copyRecord n userRecords request.username).outcome = .ok (some r)) :=
    denotes_of_copyRecord found
  unfold copyRecord at denotes ⊢
  rcases decided : d.decideRecord n userRecords request.username with e | _ | h <;>
    simp only [decided] at denotes ⊢
  · obtain ⟨error, rfl⟩ := decideRecord_isReported holds known decided
    exact Or.inr ⟨error, rfl, grounded, names, holds, known⟩
  · exact Or.inl ⟨none, rfl, nofun⟩
  · refine Or.inl ⟨_, rfl, ?_⟩
    intro r same
    cases same
    exact ⟨grounded.issue h, denotes rfl⟩

/-- Where the nodes of the search are there, a refusal is an error of the directory. -/
theorem clearance_isReported (grounded : d.Grounded) {node : String} {needsAuth : Bool}
    {talk : Confirmation.Conversation} (present : (d.account? node request.username).isSome = true)
    {e : Failure} (refused : Changer.clearance request needsAuth talk node d = .error e) :
    e.IsReported := by
  unfold Changer.clearance permit at refused
  split at refused
  · cases refused
    exact ⟨_, rfl⟩
  · split at refused
    · exact decideAuthenticator_isReported grounded (has_of_account? present) refused
    · cases refused

/-- **The stations of the flow at a directory in memory.** -/
def stations : Stations Memory request where
  idle d := d.Grounded
  session s d := d.Grounded ∧ ∃ path, d.Holds .session s (.session path)
  entered s n d := d.Grounded ∧ s ≠ n ∧ d.OpenNode n
  node n d := d.Grounded ∧ d.OpenNode n
  record r d := d.Grounded ∧ ∃ node, d.Denotes r node request.username
  undergo deed d grounded := grounded.of_undisturbed (lookupFrame.undergo deed d)
  createSession options :=
    leads_conclude (fun _ _ _ decided => decideSession_isReported decided)
      fun d h grounded decided => by
        obtain ⟨kind, isOpen⟩ := decideSession_eq_ok decided
        exact ⟨grounded.issue h, _, kind ▸ holds_issue isOpen d⟩
  openNodeByName s name := by
    refine leads_conclude (fun d e ⟨_, _, holds⟩ => decideNodeByName_isReported holds) ?_
    intro d h ⟨grounded, path, holds⟩ decided
    obtain ⟨restricted, _, visible, rfl⟩ := decideNodeByName_eq_ok decided
    have known : ∀ other ∈ [name], d.nodes.has other = true :=
      List.forall_mem_singleton.2 (has_of_visible visible)
    obtain ⟨other, opened⟩ := openNode_issue (.text name) holds known
    exact ⟨grounded.issue _, other, opened⟩
  openNodeByType s := by
    refine leads_conclude (fun d e ⟨_, _, holds⟩ => decideNodeByType_isReported holds) ?_
    intro d h ⟨grounded, path, holds⟩ decided
    obtain ⟨restricted, _, rfl⟩ := decideNodeByType_eq_ok decided
    have known : ∀ name ∈ d.searchOrder.filter (d.visibleNodes restricted).contains,
        d.nodes.has name = true :=
      fun name member => has_of_visible (List.mem_filter.1 member).2
    obtain ⟨other, opened⟩ := openNode_issue (.text "/Search") holds known
    exact ⟨grounded.issue _, other, opened⟩
  leaveSession s n d entered := by
    obtain ⟨grounded, other, names, holds, known⟩ := entered
    have closed := (lookupFrame.close s d).1
    refine ⟨grounded.of_undisturbed closed, names, holds.close other, fun name member => ?_⟩
    exact closed.nodes ▸ known name member
  copyRecord := leads_copyRecord request
  copyValues r d there := by
    obtain ⟨grounded, node, denotes⟩ := there
    have read := copyValues_eq denotes
    refine ⟨[some node], ?_, ?_⟩ <;>
      rw [show Directory.copyValues r metanodeLocation d = _ from read]
    · rfl
    · exact ⟨grounded, node, denotes⟩
  submission {needsAuth answers password} r v confirmed d there := by
    obtain ⟨grounded, node, denotes⟩ := there
    obtain ⟨call, _, replacing⟩ := Changer.submissionOf_eq_replacing rfl confirmed denotes v
    rw [replacing]
    rcases replacing_cases (Changer.clearance request needsAuth
      (Confirmation.Conversation.of needsAuth answers) node d) call password denotes.present with
      ⟨_, ok, _⟩ | ⟨e, refused, failed, same⟩
    · exact Or.inl ⟨(), ok, trivial⟩
    · obtain ⟨error, rfl⟩ := clearance_isReported request grounded denotes.present refused
      refine Or.inr ⟨error, failed, ?_⟩
      rw [same]
      exact ⟨grounded, node, denotes⟩

end PasswordChange.Directory.Memory

namespace PasswordChange

/-- A scripted host can be asked everything if the operating system may only refuse to start the
loader. -/
theorem Host.Scripted.dependable : Host.Dependable (H := Host.Scripted) fun h =>
    ∀ cause, h.startFailure = some cause → cause.isRefusal = true where
  isSingleUser _ refusals := ⟨⟨_, rfl⟩, refusals⟩
  run path args h refusals := by
    change (∀ e, (Host.Scripted.run path args h).outcome = .error e → _) ∧
      ∀ cause, (Host.Scripted.run path args h).state.startFailure = some cause → _
    unfold Host.Scripted.run
    rcases start : h.startFailure with _ | cause <;> refine ⟨fun e failed => ?_, refusals⟩ <;>
      cases failed
    exact ⟨cause, rfl, refusals cause start⟩

end PasswordChange
