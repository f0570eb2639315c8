import PasswordChange.Proofs.Locality
import PasswordChange.Proofs.SearchOrder

/-!
# Over which nodes a node resolves names

A node that was opened goes on resolving names over the nodes that it stood for when it was opened,
whatever is done to the directory afterwards. But it is looked up anew who has an account in them.

* `Memory.scope` are the nodes that an opened node stands for.
* `Memory.Retains` is what no operation changes: nodes stay where they are, and local ones local.
* `Memory.copyRecord_eq` says what a lookup finds, `Memory.Lasting` for how long it is found there.
* `Memory.names_resolved` is the main result.
-/

namespace PasswordChange.Directory.Memory

variable {d d' : Memory} {n session : HandleId} {name? : Option String} {names : List String}

/-! ## Nodes stay -/

theorem has_addNode {name : String} (there : d.nodes.has name = true) (node : String)
    (searchable : Bool) : (d.addNode node searchable).nodes.has name = true := by
  unfold addNode
  dsimp only
  split
  · exact there
  · exact (has_put ..).2 (Or.inr there)

theorem Credited.has {name : String} {step : Step Memory Unit} (credited : d.Credited step)
    (there : d.nodes.has name = true) : step.state.nodes.has name = true := by
  rcases credited.state with same | ⟨node, user, password, replaced⟩
  · exact same ▸ there
  · rw [replaced, has_setAccountPassword]
    exact there

/-- **No operation takes a node away.** -/
theorem has_carryOut {name : String} (there : d.nodes.has name = true) (operation : Operation) :
    (operation.carryOut d).state.nodes.has name = true := by
  have aside {d' : Memory} (same : Undisturbed d d') : d'.nodes.has name = true :=
    same.nodes ▸ there
  cases operation with
  | addNode node searchable => exact has_addNode there node searchable
  | addUser node username password admin =>
      exact (has_put ..).2 (Or.inr (has_addNode there node true))
  | configure => exact there
  | undergo deed => exact aside (lookupFrame.undergo deed d)
  | createSession options => exact aside (lookupFrame.createSession options d).1
  | openNodeByName session name => exact aside (lookupFrame.openNodeByName session name d).1
  | openNodeByType session nodeType =>
      exact aside (lookupFrame.openNodeByType session nodeType d).1
  | copyRecord node recordType name =>
      exact aside (lookupFrame.copyRecord node recordType name d).1
  | copyValues record attributeName =>
      exact aside (lookupFrame.copyValues record attributeName d).1
  | setCredentials v record recordType authType items =>
      exact (credited_setCredentials v record recordType authType items d).has there
  | changePassword v record old new =>
      exact (credited_changePassword v record old new d).has there
  | close handle => exact aside (lookupFrame.close handle d).1

theorem has_replay {name : String} (there : d.nodes.has name = true)
    (operations : List Operation) : (replay operations d).nodes.has name = true := by
  induction operations generalizing d with
  | nil => exact there
  | cons operation rest ih => exact ih (has_carryOut there operation)

theorem Grounded.replay (grounded : d.Grounded) (operations : List Operation) :
    (replay operations d).Grounded := by
  induction operations generalizing d with
  | nil => exact grounded
  | cons operation rest ih =>
      have move : Move d (operation.carryOut d).state := by cases operation <;> constructor
      exact ih (grounded.move move)

/-! ## What an opened node stands for -/

/-- The operation that opens the named node or, without a name, the search node. -/
def opening (session : HandleId) : Option String → Operation
  | none => .openNodeByType session authenticationNode
  | some name => .openNodeByName session name

/-- The nodes over which a node resolves names that is opened in a session with these options: the
named one alone or, without a name, those of the search, and only the local ones of them if the
session is on a local database. -/
def scope (options : List (String × Value)) (d : Memory) : Option String → List String
  | none =>
    if (option options localPathOption).isSet then d.searchOrder.filter d.isLocal
    else d.searchOrder
  | some name => [name]

/-- An operation whose value is the handle that it returns has returned it. -/
theorem outcome_of_returned {step : Step Memory HandleId} {i : HandleId}
    (returned : (step.map some).outcome = .ok (some i)) : step.outcome = .ok i := by
  obtain ⟨_ | j, state, events⟩ := step <;> cases returned
  rfl

/-- A session that was opened is on the local database of its options. -/
theorem holds_of_createSession {options : List (String × Value)}
    (created : ((Operation.createSession options).carryOut d).outcome = .ok (some session)) :
    ((Operation.createSession options).carryOut d).state.Holds .session session
      (.session (option options localPathOption)) := by
  obtain ⟨h, decided, rfl, issued⟩ := issued_of_conclude (outcome_of_returned created)
  obtain ⟨kind, isOpen⟩ := decideSession_eq_ok decided
  change (d.createSession options).state.Holds _ _ _
  unfold createSession
  rw [issued]
  exact kind ▸ holds_issue isOpen d

/-- In a session the search goes over all the nodes that take part in it, or over all the local
ones: the search knows no node that is not there. -/
theorem searched_eq_scope (grounded : d.Grounded) (options : List (String × Value)) :
    d.searchOrder.filter (d.visibleNodes (option options localPathOption).isSet).contains =
      scope options d none := by
  have there (name : String) (member : name ∈ d.searchOrder) : name ∈ d.nodes.keys :=
    (Table.has_iff_mem_keys ..).1 (grounded name member)
  unfold scope visibleNodes
  split
  · refine List.filter_congr fun name member => ?_
    rw [Bool.eq_iff_iff, List.contains_iff_mem, List.mem_filter]
    exact and_iff_right (there name member)
  · refine List.filter_eq_self.2 fun name member => ?_
    exact List.contains_iff_mem.2 (there name member)

/-- A node is opened in a session that is open. -/
theorem isLocalSession_of_opening
    (opened : ((opening session name?).carryOut d).outcome = .ok (some n)) :
    ∃ restricted, d.isLocalSession session = .ok restricted := by
  cases name? with
  | some name =>
      obtain ⟨h, decided, _⟩ := issued_of_conclude (outcome_of_returned opened)
      obtain ⟨restricted, isSession, _⟩ := decideNodeByName_eq_ok decided
      exact ⟨restricted, isSession⟩
  | none =>
      obtain ⟨h, decided, _⟩ := issued_of_conclude (outcome_of_returned opened)
      obtain ⟨restricted, isSession, _⟩ := decideNodeByType_eq_ok decided
      exact ⟨restricted, isSession⟩

/-- **A node that was opened stands for its scope**, all of whose nodes are there. -/
theorem holds_of_opening {options : List (String × Value)} (grounded : d.Grounded)
    (holds : d.Holds .session session (.session (option options localPathOption)))
    (opened : ((opening session name?).carryOut d).outcome = .ok (some n)) :
    ((opening session name?).carryOut d).state.Holds .node n (.node (scope options d name?)) ∧
      ∀ name ∈ scope options d name?, d.nodes.has name = true := by
  cases name? with
  | some name =>
      have outcome := outcome_of_returned opened
      refine ⟨holds_of_openNodeByName outcome, List.forall_mem_singleton.2 ?_⟩
      obtain ⟨h, decided, _⟩ := issued_of_conclude outcome
      rw [decideNodeByName_eq holds] at decided
      by_cases visible : (d.visibleNodes (option options localPathOption).isSet).contains name
      · exact has_of_visible visible
      · rw [if_neg visible] at decided
        cases decided
  | none =>
      obtain ⟨h, decided, rfl, issued⟩ := issued_of_conclude (outcome_of_returned opened)
      rw [decideNodeByType_eq holds] at decided
      cases decided
      change (d.openNodeByType session authenticationNode).state.Holds .node _ _ ∧ _
      unfold openNodeByType
      rw [issued, ← searched_eq_scope grounded options]
      exact ⟨holds_issue rfl d, fun name member => has_of_visible (List.mem_filter.1 member).2⟩

/-! ## What a lookup finds -/

/-- Where all nodes are there, the first is found that has the user. -/
theorem findUser_eq_find? (known : ∀ name ∈ names, d.nodes.has name = true) (user : String) :
    d.findUser user names = .ok (names.find? fun name => (d.account? name user).isSome) := by
  induction names with
  | nil => rfl
  | cons name rest ih =>
      obtain ⟨here, others⟩ := List.forall_mem_cons.1 known
      rw [findUser_cons, hasUser?_eq, if_pos here, List.find?_cons, ih others]
      cases (d.account? name user).isSome <;> rfl

/-- **A lookup finds the user in the first node that has one.** -/
theorem copyRecord_eq (holds : d.Holds .node n (.node names))
    (known : ∀ name ∈ names, d.nodes.has name = true) (sound : d.faults.lookup = none)
    (user : String) :
    d.copyRecord n userRecords user =
      match names.find? fun name => (d.account? name user).isSome with
      | none => .ok none d [.called (.copyRecord userRecords user) true]
      | some home =>
        .ok (some (d.issue ⟨.record, .text user, some (.record home user)⟩).1)
          (d.issue ⟨.record, .text user, some (.record home user)⟩).2
          [.called (.copyRecord userRecords user) true] := by
  unfold copyRecord
  rw [decideRecord_eq holds, sound, findUser_eq_find? known]
  cases names.find? fun name => (d.account? name user).isSome <;> rfl

/-! ## For how long -/

/-- A handle that was closed stays closed. -/
theorem access_of_closed {kind : Handle.Kind} {i : HandleId} {ref : Ref}
    (holds : d.Holds kind i ref) {operations : List Operation} (closed : .close i ∈ operations) :
    (replay operations d).handles.access i = .error (.handleClosed kind) := by
  obtain ⟨h, issued, rfl, _⟩ := holds
  obtain ⟨early, late, rfl⟩ := List.append_of_mem closed
  rw [replay_append, replay_cons]
  have shut : ((Operation.close i).carryOut (replay early d)).state.handles.get? i =
      some h.closed := by
    rcases get?_replay issued early with same | ⟨_, same⟩
    · exact get?_close_self same
    · have again := get?_close_self same
      exact again
  have stays : (replay late ((Operation.close i).carryOut (replay early d)).state).handles.get? i =
      some h.closed := by
    rcases get?_replay shut late with same | ⟨_, same⟩ <;> exact same
  unfold Registry.access
  rw [stays]
  rfl

/-- The handle denotes a user's record in a node until it is closed, whatever else is done. -/
structure Lasting (d : Memory) (record : HandleId) (home user : String) : Prop where
  stands (later : List Operation) : .close record ∉ later →
    (replay later d).recordOf record = .ok (home, user) ∧
      ((replay later d).copyValues record metanodeLocation).outcome = .ok [some home]
  ends (later : List Operation) : .close record ∈ later →
    (replay later d).recordOf record = .error (.handleClosed .record)

theorem Holds.lasting {record : HandleId} {home user : String}
    (holds : d.Holds .record record (.record home user)) : d.Lasting record home user where
  stands later unclosed := by
    have there := (holds.stays later).resolve_right fun closed => unclosed closed.1
    refine ⟨there.recordOf_eq, ?_⟩
    unfold copyValues
    rw [if_neg (fun differ => differ rfl), there.recordOf_eq]
    rfl
  ends later closed := by
    unfold recordOf
    rw [access_of_closed holds closed]
    rfl

/-! ## The main result -/

/-- **A node resolves names over what it stood for when it was opened, and against the accounts
that are there when it is asked.** Whatever was done to the directory before its session was
created, between that and its opening, and after its opening: if the node is open, the user is found
in it exactly if one of these nodes has the user now, and then as a record of the first that has,
for as long as the record is not closed. -/
theorem names_resolved {d₀ d now : Memory} {options : List (String × Value)}
    {session node : HandleId} {name? : Option String} {between since : List Operation}
    (reachable : d₀.Reachable)
    (created : ((Operation.createSession options).carryOut d₀).outcome = .ok (some session))
    (reached : replay (.createSession options :: between) d₀ = d)
    (opened : ((opening session name?).carryOut d).outcome = .ok (some node))
    (elapsed : replay (opening session name? :: since) d = now) (unclosed : .close node ∉ since)
    (sound : now.faults.lookup = none) (user : String) :
    let names := scope options d name?
    ∃ record?, (now.copyRecord node userRecords user).outcome = .ok record? ∧
      (record? = none ↔ ∀ name ∈ names, now.account? name user = none) ∧
      ∀ record, record? = some record → ∃ home,
        names.find? (fun name => (now.account? name user).isSome) = some home ∧
        (now.copyRecord node userRecords user).state.Lasting record home user := by
  intro names
  have grounded : d.Grounded := reached ▸ reachable.grounded.replay _
  have inSession : d.Holds .session session (.session (option options localPathOption)) := by
    rcases (holds_of_createSession created).stays between with holds | ⟨_, shut⟩
    · exact reached ▸ holds
    · -- In a closed session no node could have been opened.
      obtain ⟨restricted, isSession⟩ := isLocalSession_of_opening opened
      obtain ⟨ref, behind, _⟩ := Failure.bind_eq_ok_iff.1 isSession
      rw [← reached, replay_cons, shut] at behind
      cases behind
  obtain ⟨holds, known⟩ := holds_of_opening grounded inSession opened
  have atNode : now.Holds .node node (.node names) :=
    elapsed ▸ (holds.stays since).resolve_right fun closed => unclosed closed.1
  have there : ∀ name ∈ names, now.nodes.has name = true := fun name member =>
    elapsed ▸ has_replay (known name member) (opening session name? :: since)
  rw [copyRecord_eq atNode there sound user]
  rcases found : names.find? (fun name => (now.account? name user).isSome) with _ | home
  · refine ⟨none, rfl, iff_of_true rfl fun name member => ?_, nofun⟩
    simpa using List.find?_eq_none.1 found name member
  · refine ⟨_, rfl, iff_of_false (by simp) fun nowhere => ?_, fun record same => ?_⟩
    · have present := List.find?_some found
      rw [nowhere home (List.mem_of_find?_eq_some found)] at present
      cases present
    · cases same
      exact ⟨home, rfl, (holds_issue rfl now).lasting⟩

/-- A directory with a user in a local node and one in a node of the network. -/
def branchOffice : Memory :=
  ({} : Memory).undergo .startLocalDaemon
    |>.addUser "/Local/Default" "alice" "a" false
    |>.addUser "/LDAPv3/ldap.example.com" "bob" "b" false

/-- The session is closed, and each of two more users is added to a local node, a new one and an old
one. -/
def arrivals : List Operation :=
  [.close ⟨0⟩, .addUser "/Local/New" "bob" "b" false, .addUser "/Local/Default" "carol" "c" false]

/-- The search node of a session on the local database, which was opened before the arrivals, does
not find the user who is in a new node and in one of the network, but the one in the old node. -/
theorem arrivals_resolved :
    let options : List (String × Value) := [(localPathOption, .text "/var/db/dslocal")]
    let now := replay (opening ⟨0⟩ none :: arrivals)
      (replay [.createSession options] branchOffice)
    .close ⟨1⟩ ∉ arrivals ∧ (now.copyRecord ⟨1⟩ userRecords "bob").outcome = .ok none ∧
    ∃ record, (now.copyRecord ⟨1⟩ userRecords "carol").outcome = .ok (some record) ∧
      (now.copyRecord ⟨1⟩ userRecords "carol").state.Lasting record "/Local/Default" "carol" := by
  intro options now
  have reachable : branchOffice.Reachable :=
    .move (.move (.move (.fresh true "/Local/") (.undergo .startLocalDaemon))
      (.addUser "/Local/Default" "alice" "a" false))
      (.addUser "/LDAPv3/ldap.example.com" "bob" "b" false)
  have created : ((Operation.createSession options).carryOut branchOffice).outcome =
      .ok (some ⟨0⟩) := rfl
  have opened : ((opening ⟨0⟩ none).carryOut
      (replay [.createSession options] branchOffice)).outcome = .ok (some ⟨1⟩) := rfl
  have unclosed : .close ⟨1⟩ ∉ arrivals := by simp [arrivals]
  have only : scope options (replay [.createSession options] branchOffice) none =
      ["/Local/Default"] := by decide +kernel
  obtain ⟨bob?, looked, nowhere, _⟩ :=
    names_resolved reachable created rfl opened rfl unclosed rfl "bob"
  obtain ⟨carol?, found, somewhere, lasting⟩ :=
    names_resolved reachable created rfl opened rfl unclosed rfl "carol"
  rw [only] at nowhere somewhere lasting
  have bob : now.account? "/Local/Default" "bob" = none := by decide +kernel
  have carol : (now.account? "/Local/Default" "carol").isSome = true := by decide +kernel
  refine ⟨unclosed, ?_, ?_⟩
  · rw [nowhere.2 (List.forall_mem_singleton.2 bob)] at looked
    exact looked
  · cases carol? with
    | none =>
        rw [somewhere.1 rfl _ (List.mem_singleton_self _)] at carol
        cases carol
    | some record =>
        obtain ⟨home, first, lasts⟩ := lasting record rfl
        obtain rfl : home = "/Local/Default" :=
          List.mem_singleton.1 (List.mem_of_find?_eq_some first)
        exact ⟨record, found, lasts⟩

end PasswordChange.Directory.Memory
