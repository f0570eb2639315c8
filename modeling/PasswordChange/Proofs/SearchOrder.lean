import Mathlib.Data.List.Induction
import PasswordChange.Proofs.History
import PasswordChange.Proofs.Searching
import PasswordChange.Proofs.Writes

/-!
# Which nodes take part in the search

A node joins the search when it is added as a searchable one, and also when a user is added to it,
even if it had been added as one that is not searchable. Nothing else changes the search, and a node
that has not joined stays out of all that goes by it.

* `Memory.Operation.joins?` is the node that an operation brings into the search.
* `Memory.searchOrder_replay` gives the order of the search after every sequence of operations.
* `Memory.Withheld` says what it means for a node to stay out of the search; `search_joined` puts
  the two together.
-/

namespace PasswordChange

namespace Directory.Memory

variable {d : Memory} {name : String}

/-! ## The order of the search -/

/-- The node that an operation brings into the search, if it is not there yet. -/
def Operation.joins? : Operation → Option String
  | addNode name searchable => if searchable then some name else none
  | addUser node _ _ _ => some node
  | _ => none

/-- A node joins the search at its end, once. -/
theorem searchOrder_addNode (name : String) (searchable : Bool) (d : Memory) :
    (d.addNode name searchable).searchOrder = d.searchOrder ++
      ((Operation.addNode name searchable).joins?.toList).removeAll d.searchOrder := by
  unfold addNode Operation.joins?
  cases searchable with
  | false => simp
  | true => by_cases member : name ∈ d.searchOrder <;> simp [List.removeAll, member]

theorem searchOrder_setAccountPassword (node user password : String) (d : Memory) :
    (d.setAccountPassword node user password).searchOrder = d.searchOrder := by
  obtain ⟨nodes, same⟩ := d.setAccountPassword_eq node user password
  rw [same]

theorem Credited.searchOrder_eq {step : Step Memory Unit} (credited : d.Credited step) :
    step.state.searchOrder = d.searchOrder := by
  rcases credited.state with same | ⟨node, user, password, replaced⟩
  · rw [same]
  · rw [replaced, searchOrder_setAccountPassword]

/-- **An operation adds to the search the node that it brings in, unless it is there.** -/
theorem searchOrder_carryOut (operation : Operation) (d : Memory) :
    (operation.carryOut d).state.searchOrder =
      d.searchOrder ++ (operation.joins?.toList).removeAll d.searchOrder := by
  have aside (stays : operation.joins? = none)
      (same : (operation.carryOut d).state.searchOrder = d.searchOrder) :
      (operation.carryOut d).state.searchOrder =
        d.searchOrder ++ (operation.joins?.toList).removeAll d.searchOrder := by
    rw [same, stays]
    exact (List.append_nil _).symm
  cases operation with
  | addNode name searchable => exact searchOrder_addNode name searchable d
  | addUser node username password admin => exact searchOrder_addNode node true d
  | configure => exact aside rfl rfl
  | undergo deed => exact aside rfl (lookupFrame.undergo deed d).searchOrder
  | createSession options =>
      exact aside rfl (lookupFrame.createSession options d).1.searchOrder
  | openNodeByName session name =>
      exact aside rfl (lookupFrame.openNodeByName session name d).1.searchOrder
  | openNodeByType session nodeType =>
      exact aside rfl (lookupFrame.openNodeByType session nodeType d).1.searchOrder
  | copyRecord node recordType name =>
      exact aside rfl (lookupFrame.copyRecord node recordType name d).1.searchOrder
  | copyValues record attributeName =>
      exact aside rfl (lookupFrame.copyValues record attributeName d).1.searchOrder
  | setCredentials v record recordType authType items =>
      exact aside rfl
        (credited_setCredentials v record recordType authType items d).searchOrder_eq
  | changePassword v record old new =>
      exact aside rfl (credited_changePassword v record old new d).searchOrder_eq
  | close handle => exact aside rfl (lookupFrame.close handle d).1.searchOrder

/-- The nodes that a sequence of operations brings into the search, in order. -/
def joined (operations : List Operation) : List String :=
  (operations.filterMap Operation.joins?).eraseDups

theorem joined_append_singleton (operations : List Operation) (operation : Operation) :
    joined (operations ++ [operation]) =
      joined operations ++ (operation.joins?.toList).removeAll (joined operations) := by
  have once (node? : Option String) (nodes : List String) :
      (node?.toList.removeAll nodes).eraseDups = node?.toList.removeAll nodes.eraseDups := by
    cases node? with
    | none => rfl
    | some node =>
        by_cases member : node ∈ nodes <;> simp [List.removeAll, List.eraseDups_cons, member]
  have last : [operation].filterMap Operation.joins? = operation.joins?.toList := by
    cases joins : operation.joins? <;> simp [joins]
  unfold joined
  rw [List.filterMap_append, last, List.eraseDups_append, once]

/-- **The search goes over the nodes in the order in which they joined.** -/
theorem searchOrder_replay (daemonRunning : Bool) (localRoot : String)
    (operations : List Operation) :
    (replay operations { daemonRunning, localRoot }).searchOrder = joined operations := by
  induction operations using List.reverseRecOn with
  | nil => rfl
  | append_singleton operations operation ih =>
      rw [replay_append]
      change (operation.carryOut _).state.searchOrder = _
      rw [searchOrder_carryOut, ih, joined_append_singleton]

/-- A list without duplicates stays one when a name joins it that may be there already. -/
theorem nodup_append_removeAll {names : List String} (nodup : names.Nodup)
    (name? : Option String) : (names ++ (name?.toList).removeAll names).Nodup := by
  cases name? with
  | none => simpa [List.removeAll] using nodup
  | some name =>
      by_cases member : name ∈ names
      · simpa [List.removeAll, member] using nodup
      · simpa [List.removeAll, member, List.nodup_append] using
          ⟨nodup, fun other inside same => member (same ▸ inside)⟩

theorem nodup_joined (operations : List Operation) : (joined operations).Nodup := by
  induction operations using List.reverseRecOn with
  | nil => exact List.nodup_nil
  | append_singleton operations operation ih =>
      rw [joined_append_singleton]
      exact nodup_append_removeAll ih operation.joins?

/-- A node takes part in the search if it was added as a searchable one or a user was added to
it. -/
theorem mem_joined_iff {operations : List Operation} : name ∈ joined operations ↔
    .addNode name true ∈ operations ∨
      ∃ user password admin, .addUser name user password admin ∈ operations := by
  unfold joined
  rw [List.mem_eraseDups, List.mem_filterMap]
  constructor
  · rintro ⟨operation, member, joins⟩
    cases operation with
    | addNode node searchable =>
        cases searchable <;> cases joins
        exact Or.inl member
    | addUser node user password admin =>
        cases joins
        exact Or.inr ⟨user, password, admin, member⟩
    | _ => cases joins
  · rintro (member | ⟨user, password, admin, member⟩)
    · exact ⟨_, member, rfl⟩
    · exact ⟨_, member, rfl⟩

/-! ## What goes by the search -/

/-- The node that is opened by type stands for nodes of the search. -/
theorem holds_of_openNodeByType {session n : HandleId} {nodeType : String}
    (opened : (d.openNodeByType session nodeType).outcome = .ok n) :
    ∃ names, (d.openNodeByType session nodeType).state.Holds .node n (.node names) ∧
      ∀ name ∈ names, name ∈ d.searchOrder := by
  obtain ⟨h, decided, rfl, issued⟩ := issued_of_conclude opened
  unfold openNodeByType
  rw [issued]
  obtain ⟨restricted, _, rfl⟩ := decideNodeByType_eq_ok decided
  exact ⟨_, holds_issue rfl d, fun name member => (List.mem_filter.1 member).1⟩

/-- The node that is opened by its name stands for itself. -/
theorem holds_of_openNodeByName {session n : HandleId}
    (opened : (d.openNodeByName session name).outcome = .ok n) :
    (d.openNodeByName session name).state.Holds .node n (.node [name]) := by
  obtain ⟨h, decided, rfl, issued⟩ := issued_of_conclude opened
  unfold openNodeByName
  rw [issued]
  obtain ⟨restricted, _, _, rfl⟩ := decideNodeByName_eq_ok decided
  exact holds_issue rfl d

/-- A record that is found lies in one of the nodes that were looked through. -/
theorem mem_of_copyRecord {n record : HandleId} {recordType user home owner : String}
    (copied : (d.copyRecord n recordType user).outcome = .ok (some record))
    (denotes : (d.copyRecord n recordType user).state.recordOf record = .ok (home, owner)) :
    ∃ names, d.handles.access n = .ok (.node names) ∧ home ∈ names := by
  unfold copyRecord at copied denotes
  rcases decided : d.decideRecord n recordType user with e | _ | h <;>
    simp only [decided] at copied denotes <;> cases copied
  obtain ⟨names, there, resolves, ended, rfl⟩ := decideRecord_eq_ok decided
  have record := (holds_issue (h := ⟨.record, .text user, some (.record there user)⟩) rfl
    d).recordOf_eq
  rw [Step.ok, record] at denotes
  cases denotes
  obtain ⟨ref, behind, isNode⟩ := Failure.bind_eq_ok_iff.1 resolves
  cases ref <;> cases isNode
  exact ⟨names, behind, mem_of_findUser ended⟩

/-- Whatever happens after a node was opened, what is found in it lies in a node that it stood for
when it was opened. -/
theorem Holds.mem_of_copyRecord {n record : HandleId} {kind : Handle.Kind} {names : List String}
    (holds : d.Holds kind n (.node names)) (later : List Operation)
    {recordType user home owner : String}
    (copied : ((replay later d).copyRecord n recordType user).outcome = .ok (some record))
    (denotes : ((replay later d).copyRecord n recordType user).state.recordOf record =
      .ok (home, owner)) : home ∈ names := by
  obtain ⟨names', behind, member⟩ := Memory.mem_of_copyRecord copied denotes
  rcases holds.stays later with same | ⟨_, shut⟩
  · rw [same.access_eq] at behind
    cases behind
    exact member
  · rw [shut] at behind
    cases behind

/-- An authenticator is found in the record's own node or in a node of the search. -/
theorem mem_of_authenticator {node authname home : String} {account : Account}
    (found : d.authenticator node authname = .ok (some (home, account))) :
    home = node ∨ home ∈ d.searchOrder := by
  unfold authenticator at found
  split at found
  · cases found
  · split at found
    · cases found
      exact Or.inl rfl
    · obtain ⟨first, search, rest⟩ := Failure.bind_eq_ok_iff.1 found
      cases first with
      | none => cases rest
      | some there =>
          obtain ⟨own, _, same⟩ := Option.map_eq_some_iff.1 (Except.ok.inj rest)
          cases same
          exact Or.inr (mem_of_findUser search)

/-- Every node with an account takes part in the search. -/
def Enlisted (d : Memory) : Prop :=
  ∀ node user, (d.account? node user).isSome = true → node ∈ d.searchOrder

/-- Every operation keeps the nodes with accounts in the search. -/
theorem Enlisted.carryOut (enlisted : d.Enlisted) (operation : Operation) :
    (operation.carryOut d).state.Enlisted := by
  have grown {node : String} (member : node ∈ d.searchOrder) :
      node ∈ (operation.carryOut d).state.searchOrder := by
    rw [searchOrder_carryOut]
    exact List.mem_append_left _ member
  intro node user present
  rcases operation.write?_cases d with
    ⟨_, same⟩ | ⟨n, u, password, admin, _, added⟩ | ⟨n, u, password, _, replaced⟩
  · rw [same] at present
    exact grown (enlisted node user present)
  · by_cases here : n = node ∧ u = user
    · rw [added, ← here.1]
      change n ∈ (d.addNode n true).searchOrder
      rw [searchOrder_addNode]
      by_cases member : n ∈ d.searchOrder <;>
        simp [Operation.joins?, List.removeAll, member]
    · rw [added, account?_addUser, if_neg here] at present
      exact grown (enlisted node user present)
  · refine grown (enlisted node user ?_)
    rw [replaced.account?_eq] at present
    split at present
    · rw [Option.isSome_map] at present
      exact present
    · exact present

theorem enlisted_replay (daemonRunning : Bool) (localRoot : String)
    (operations : List Operation) :
    (replay operations { daemonRunning, localRoot }).Enlisted := by
  have start : Enlisted { daemonRunning, localRoot } := fun _ _ => nofun
  generalize ({ daemonRunning, localRoot } : Memory) = d at start
  induction operations generalizing d with
  | nil => exact start
  | cons operation rest ih => exact ih _ (start.carryOut operation)

end Directory.Memory

namespace Changer

open Directory (Memory)
open Directory.Memory (holds_of_openNodeByType holds_of_openNodeByName)

variable {c : Changer} {request : Request} {w w₀ w₁ w₂ : World Memory Host.Scripted}

/-- A node that was opened stands for nodes of the search, or for the one that was named. -/
theorem holds_of_openNode {session n : HandleId} {location : Location}
    (opened : openNode session location w₁ = (.ok n, w₂)) :
    ∃ names, w₂.directory.Holds .node n (.node names) ∧
      ∀ name ∈ names, name ∈ w₁.directory.searchOrder ∨ location.name? = some name := by
  unfold openNode at opened
  rcases named : location.name? with _ | name <;> rw [named] at opened <;> dsimp only at opened
  · obtain ⟨names, holds, searched⟩ :=
      holds_of_openNodeByType (congrArg (fun result => result.1) opened)
    refine ⟨names, ?_, fun name member => Or.inl (searched name member)⟩
    exact congrArg (fun result => result.2.directory) opened ▸ holds
  · have holds := holds_of_openNodeByName (congrArg (fun result => result.1) opened)
    refine ⟨[name], ?_, List.forall_mem_singleton.2 (Or.inr rfl)⟩
    exact congrArg (fun result => result.2.directory) opened ▸ holds

/-- A session that is opened comes with the location to open. -/
theorem location_of_openSession {session : HandleId} {location : Location}
    (opened : c.openSession request w = (.ok (session, location), w₁)) :
    location = request.location ∨ location = c.openedLocation request false := by
  obtain ⟨events, d, result, way, same⟩ := c.openSession_opens request w
  rw [opened] at same
  simp only [Prod.mk.injEq] at same
  obtain ⟨ended, _⟩ := same
  cases way with
  | direct =>
      cases ended
      exact Or.inl rfl
  | refused | multiUser | unstarted | unasked | exited => cases ended
  | @loaded error second =>
      rcases outcome : second.outcome with e | session' <;> rw [outcome] at ended <;> cases ended
      exact Or.inr rfl

/-- The record that a run finds lies in a node of the search or in the one that was named, by the
request or after a bootstrap. -/
theorem mem_of_located {found : Found} {node owner : String}
    (located : c.locate request w = (.ok found, w₀))
    (denotes : w₀.directory.recordOf found.record = .ok (node, owner)) :
    node ∈ w.directory.searchOrder ∨ request.location.name? = some node ∨
      (c.openedLocation request false).name? = some node := by
  obtain ⟨session, w₁, w₂, opened, entered, looked⟩ := locate_eq_ok located
  have order : w₁.directory.searchOrder = w.directory.searchOrder := by
    have kept := c.openSession_keeps (Memory.lookupFrame.coversBootstrap Host.Scripted.emits
      fun _ _ => rfl) (fun _ => Memory.lookupFrame.keeps_perform
        (Memory.lookupFrame.createSession _)) request w
    rw [opened] at kept
    exact kept.directory.searchOrder
  rcases inner : openNode session found.location w₁ with ⟨result, w'⟩
  have closed : Act.perform (Directory.close session) w' =
      (.ok (), (Act.perform (Directory.close session) w').2) :=
    Prod.ext (Memory.close_eq session w'.directory).1 rfl
  rw [Act.closing, Act.always_of_ok inner closed] at entered
  cases entered
  obtain ⟨names, holds, among⟩ := holds_of_openNode inner
  have performed := findRecord_eq_ok looked
  have copied := congrArg (fun result => result.1) performed
  rw [← congrArg (fun result => result.2.directory) performed] at denotes
  have member : node ∈ names := holds.mem_of_copyRecord [.close session] copied denotes
  rcases among node member with searched | named
  · exact Or.inl (order ▸ searched)
  · rcases location_of_openSession opened with same | same <;> rw [same] at named
    · exact Or.inr (Or.inl named)
    · exact Or.inr (Or.inr named)

/-- A run that names no node changes accounts in nodes of the search only, or in the default node
after a bootstrap. -/
theorem account?_of_unnamed {name : String} (unnamed : request.location.name? = none)
    (elsewhere : c.settings.localDefaultNode ≠ name) (outside : name ∉ w.directory.searchOrder)
    (user : String) :
    (c.run request w).2.directory.account? name user = w.directory.account? name user := by
  rcases c.replaces_or_keeps request w with
    ⟨node, password, _, ⟨found, w₀, located, denotes⟩, replaced, _⟩ | ⟨_, undisturbed⟩
  · have other : node ≠ name := by
      rintro rfl
      rcases mem_of_located located denotes with searched | named | fallback
      · exact outside searched
      · rw [unnamed] at named
        cases named
      · have default : c.openedLocation request false = .named c.settings.localDefaultNode := by
          unfold openedLocation
          rw [unnamed]
          rfl
        rw [default, Location.name?_eq_some_iff] at fallback
        exact elsewhere (Location.named.inj fallback.1)
    rw [replaced.account?_eq, if_neg fun same => other same.1]
  · exact undisturbed.account?_eq name user

end Changer

namespace Directory.Memory

variable {d : Memory} {name : String}

/-- The node stays out of the search: none of its records is found in a node that was opened by
type, whatever happens after that, none of its accounts vouches for a change in another node, and a
run that names no node changes nothing in it, unless it is the default node of the bootstrap. -/
structure Withheld (d : Memory) (name : String) : Prop where
  records {session n record : HandleId} {nodeType recordType user home owner : String}
    (later : List Operation) :
    (d.openNodeByType session nodeType).outcome = .ok n →
    let d' := replay later (d.openNodeByType session nodeType).state
    (d'.copyRecord n recordType user).outcome = .ok (some record) →
    (d'.copyRecord n recordType user).state.recordOf record = .ok (home, owner) → home ≠ name
  authenticators {node authname home : String} {account : Account} : node ≠ name →
    d.authenticator node authname = .ok (some (home, account)) → home ≠ name
  runs (c : Changer) (request : Request) (w : World Memory Host.Scripted) : w.directory = d →
    request.location.name? = none → c.settings.localDefaultNode ≠ name →
    ∀ user, (c.run request w).2.directory.account? name user = d.account? name user

/-- **Whatever is not in the order of the search stays out of it.** -/
theorem withheld_of_not_mem (outside : name ∉ d.searchOrder) : d.Withheld name where
  records later opened copied denotes := by
    rintro rfl
    obtain ⟨names, holds, searched⟩ := holds_of_openNodeByType opened
    exact outside (searched _ (holds.mem_of_copyRecord later copied denotes))
  authenticators other found := by
    rintro rfl
    rcases mem_of_authenticator found with own | searched
    · exact other own.symm
    · exact outside searched
  runs c request w same unnamed elsewhere user := by
    subst same
    exact Changer.account?_of_unnamed unnamed elsewhere outside user

/-- **The search is over the nodes that have joined, in the order in which they did**: each of them
was added as a searchable node, or a user was added to it, however it had been added before. Every
node with an account is among them, and a node that has not joined stays out of the search. -/
theorem search_joined (daemonRunning : Bool) (localRoot : String) (operations : List Operation) :
    let d := replay operations { daemonRunning, localRoot }
    d.searchOrder = joined operations ∧ d.searchOrder.Nodup ∧
    (∀ name, name ∈ d.searchOrder ↔ .addNode name true ∈ operations ∨
      ∃ user password admin, .addUser name user password admin ∈ operations) ∧
    (∀ node user, (d.account? node user).isSome = true → node ∈ d.searchOrder) ∧
    ∀ name, name ∉ d.searchOrder → d.Withheld name := by
  intro d
  have order : d.searchOrder = joined operations :=
    searchOrder_replay daemonRunning localRoot operations
  refine ⟨order, order ▸ nodup_joined operations, fun name => ?_,
    enlisted_replay daemonRunning localRoot operations, fun name => withheld_of_not_mem⟩
  rw [order]
  exact mem_joined_iff

/-- A node is added that is not searchable, and then a user is added to it. -/
def hidden : List Operation :=
  [.addNode "/Hidden" false, .addUser "/Hidden" "alice" "a" false]

/-- The search finds the user there, although the node was never added as a searchable one. -/
theorem hidden_node_searched :
    .addNode "/Hidden" true ∉ hidden ∧ "/Hidden" ∈ (replay hidden {}).searchOrder ∧
    (replay (hidden ++ [.createSession [], .openNodeByType ⟨0⟩ authenticationNode,
      .copyRecord ⟨1⟩ userRecords "alice"]) {}).recordOf ⟨2⟩ = .ok ("/Hidden", "alice") := by
  refine ⟨by simp [hidden], ?_, rfl⟩
  obtain ⟨_, _, joins, _⟩ := search_joined true "/Local/" hidden
  exact (joins "/Hidden").2 (Or.inr ⟨"alice", "a", false, by simp [hidden]⟩)

end Directory.Memory

end PasswordChange
