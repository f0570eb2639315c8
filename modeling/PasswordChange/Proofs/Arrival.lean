import PasswordChange.Proofs.Alongside

/-!
# How a default session arrives at a node

Where the default session can be created, a run comes to a node in three steps that are always the
same: it creates the session, opens the node and closes the session. What comes of them depends on
the search order, on the nodes that are there and on the location of the request, and on nothing
else.

* `Memory.Serves` says that the default session can be created, and `Memory.reach?` over which nodes
  the node at a location resolves.
* `Changer.run_of_reach` says that a run enters this node, `Changer.run_of_unreached` that it fails
  if there is none.
* `Memory.Akin.run_agree` says that runs at directories that are akin go the same way.
-/

namespace PasswordChange

open Directory (Memory)

namespace Location

/-- The call that opens the node at a location. -/
def opening (l : Location) : Directory.Call :=
  match l.name? with
  | none => .openNodeByType Directory.authenticationNode
  | some name => .openNodeByName name

/-- The error when there is no node at a location. -/
def unknownNode (l : Location) : DirectoryError where
  code := .nodeUnknown
  description := some "Unable to open the directory node."
  failureReason := some ("The node '" ++ l.name?.getD "" ++ "' could not be found.")

/-- The events on the way to the node at a location. -/
def arrival (l : Location) (accepted : Bool) : List Event :=
  [.called (.createSession []) true, .called l.opening accepted, .released .session]

end Location

namespace Directory.Memory

variable {d d' e : Memory}

/-- The default session can be created. -/
structure Serves (d : Memory) : Prop where
  daemonRunning : d.daemonRunning = true
  faultless : d.faults.session = none

def defaultSession : Handle Ref :=
  ⟨.session, .text "default", some (.session .null)⟩

theorem Serves.decideSession_eq (serves : d.Serves) :
    d.decideSession [] = .ok defaultSession := by
  unfold decideSession
  rw [serves.faultless, serves.daemonRunning]
  rfl

/-- The default session is created exactly if it can be. -/
theorem serves_iff : d.Serves ↔ ∃ s, (d.createSession []).outcome = .ok s := by
  constructor
  · intro serves
    unfold createSession
    rw [serves.decideSession_eq]
    exact ⟨_, rfl⟩
  · rintro ⟨s, opens⟩
    unfold createSession decideSession at opens
    rcases fault : d.faults.session with _ | error <;> rw [fault] at opens
    · cases running : d.daemonRunning <;> rw [running] at opens
      · cases opens
      · exact ⟨running, fault⟩
    · cases opens

/-- The nodes that the search of a default session goes over. -/
def searched (d : Memory) : List String :=
  d.searchOrder.filter d.nodes.keys.contains

/-- The nodes over which the node at a location resolves in a default session, if there is one. -/
def reach? (d : Memory) (l : Location) : Option (List String) :=
  match l.name? with
  | none => some d.searched
  | some name => if d.nodes.keys.contains name then some [name] else none

/-- What is decided on when the node at a location is opened. -/
def decideNode (d : Memory) (l : Location) : Except Failure (Handle Ref) :=
  match d.reach? l with
  | none => .error (.directory l.unknownNode)
  | some names => .ok ⟨.node, .text (l.name?.getD "/Search"), some (.node names)⟩

theorem SameStore.decideNode_eq (same : SameStore d d') (l : Location) :
    d'.decideNode l = d.decideNode l := by
  obtain ⟨_, _, rfl⟩ := same
  rfl

variable {H : Type} {w : World Memory H} {s : HandleId} {path : Value} {l : Location}

/-- In a session that is not restricted, the node at a location is opened if it can be reached. -/
theorem openNode_eq (holds : w.directory.Holds .session s (.session path))
    (unrestricted : path.isSet = false) :
    Changer.openNode s l w = Act.perform (fun d => d.conclude l.opening (d.decideNode l)) w := by
  have performed {operation : Memory → Step Memory HandleId}
      (same : operation w.directory = w.directory.conclude l.opening (w.directory.decideNode l)) :
      Act.perform operation w =
        Act.perform (fun d => d.conclude l.opening (d.decideNode l)) w := by
    unfold Act.perform
    rw [same]
  unfold Changer.openNode
  rcases named : l.name? with _ | name
  · refine performed ?_
    change w.directory.openNodeByType s authenticationNode = _
    unfold openNodeByType Location.opening decideNode reach?
    rw [decideNodeByType_eq holds, unrestricted, named]
    rfl
  · refine performed ?_
    change w.directory.openNodeByName s name = _
    unfold openNodeByName Location.opening decideNode reach? Location.unknownNode
    rw [decideNodeByName_eq holds, unrestricted, named]
    change conclude _ (ite (w.directory.nodes.keys.contains name = true) _ _) _ = _
    dsimp only
    split <;> rfl

end Directory.Memory

namespace Changer

open Directory.Memory

variable {H : Type} [Host H] {c : Changer} {request : Request} {w : World Memory H}

/-- The world after the session was closed on the way to a location. -/
def arrived (w : World Memory H) (d : Memory) (l : Location) (accepted : Bool) : World Memory H :=
  { w with directory := d, journal := w.journal ++ l.arrival accepted }

/-- The session is created, and it is not restricted. -/
theorem openSession_of_serves (c : Changer) (request : Request) (serves : w.directory.Serves) :
    ∃ s d, SameStore w.directory d ∧ d.Holds .session s (.session .null) ∧
      c.openSession request w = (.ok (s, request.location),
        { w with directory := d, journal := w.journal ++ [.called (.createSession []) true] }) := by
  refine ⟨_, _, sameStore_issue defaultSession _, holds_issue rfl w.directory,
    openSession_of_ok ?_⟩
  have created : w.directory.createSession [] = .ok (w.directory.issue defaultSession).1
      (w.directory.issue defaultSession).2 [.called (.createSession []) true] := by
    unfold createSession
    rw [serves.decideSession_eq]
    rfl
  unfold Act.perform
  rw [show Directory.createSession [] w.directory = _ from created]
  rfl

omit [Host H] in
/-- After the node was opened, or could not be, the session is closed. -/
theorem closing_openNode {s : HandleId} {path : Value} {l : Location}
    (holds : w.directory.Holds .session s (.session path)) (unrestricted : path.isSet = false) :
    let opened := w.directory.conclude l.opening (w.directory.decideNode l)
    let closed := opened.state.close s
    Act.closing s (openNode s l) w = (opened.outcome, { w with
      directory := closed.state, journal := w.journal ++ opened.events ++ closed.events }) :=
  Comparison.closing_eq (openNode_eq holds unrestricted) (close_eq s _).1

/-- **A default session arrives at the node at the location of the request**, if it can be
reached. -/
theorem arrives (c : Changer) (serves : w.directory.Serves) {names : List String}
    (reach : w.directory.reach? request.location = some names) :
    ∃ s w₁ n d, c.openSession request w = (.ok (s, request.location), w₁) ∧
      Act.closing s (openNode s request.location) w₁ =
        (.ok n, arrived w d request.location true) ∧
      SameStore w.directory d ∧ d.Holds .node n (.node names) := by
  obtain ⟨s, d, same, holds, opened⟩ := openSession_of_serves c request serves
  let h : Handle Ref := ⟨.node, .text (request.location.name?.getD "/Search"), some (.node names)⟩
  have again : d.decideNode request.location = .ok h := by
    rw [same.decideNode_eq]
    unfold decideNode
    rw [reach]
  obtain ⟨other, still⟩ := holds.issue h
  refine ⟨s, _, (d.issue h).1, ((d.issue h).2.close s).state, opened, ?_,
    same.trans ((sameStore_issue h d).trans (sameStore_close s _)), (holds_issue rfl d).close other⟩
  refine (closing_openNode holds rfl).trans ?_
  dsimp only
  rw [again]
  rw [show (conclude _ (.ok h) d).state = (d.issue h).2 from rfl, still.events_close]
  simp [arrived, Location.arrival, conclude, Step.ok, h]

/-- There is nowhere to arrive where the node at the location of the request cannot be reached. -/
theorem run_of_unreached (c : Changer) (serves : w.directory.Serves)
    (unreached : w.directory.reach? request.location = none) :
    ∃ d, SameStore w.directory d ∧
      c.run request w = (.error (.directory request.location.unknownNode),
        arrived w d request.location false) := by
  obtain ⟨s, d, same, holds, opened⟩ := openSession_of_serves c request serves
  have again : d.decideNode request.location =
      .error (.directory request.location.unknownNode) := by
    rw [same.decideNode_eq]
    unfold decideNode
    rw [unreached]
  refine ⟨(d.close s).state, same.trans (sameStore_close s d), ?_⟩
  rw [run_eq_proceed]
  refine (Act.andThen_of_ok opened).trans (Act.andThen_of_error ?_)
  refine (closing_openNode holds rfl).trans ?_
  dsimp only
  rw [again]
  rw [show (conclude _ (.error _) d).state = d from rfl, holds.events_close]
  simp [arrived, Location.arrival, conclude, Step.fail]

/-- **A run in the default session enters the node at the location of its request.** -/
theorem run_of_reach (c : Changer) (serves : w.directory.Serves) {names : List String}
    (reach : w.directory.reach? request.location = some names) :
    ∃ n d, SameStore w.directory d ∧ d.Holds .node n (.node names) ∧
      c.run request w =
        c.enter request request.location n (arrived w d request.location true) := by
  obtain ⟨s, w₁, n, d, opened, entered, same, holds⟩ := arrives c serves reach
  refine ⟨n, d, same, holds, ?_⟩
  rw [run_eq_proceed]
  exact (Act.andThen_of_ok opened).trans (Act.andThen_of_ok entered)

/-! ## From the node on -/

omit [Host H] in
/-- The location that was asked for makes no difference to the service at a record, which has a
location of its own. -/
theorem serve_eq {record : HandleId} {node : String}
    (denotes : w.directory.Denotes record node request.username) (l l' : Location) :
    c.serve record request l' w = c.serve record request l w := by
  have read : (Act.perform (Directory.copyValues record Directory.metanodeLocation) :
      Act Memory H _) w = (.ok [some node], { w with journal := w.journal ++ [] }) := by
    unfold Act.perform
    rw [show Directory.copyValues record Directory.metanodeLocation w.directory = _ from
      copyValues_eq denotes]
    rfl
  unfold serve
  rw [Act.bind_eq_andThen, Act.bind_eq_andThen, Act.andThen_of_ok read, Act.andThen_of_ok read]
  rfl

omit [Host H] in
/-- Nor does it to the flow from the node on. -/
theorem enter_eq (l l' : Location) (n : HandleId) :
    c.enter request l' n w = c.enter request l n w := by
  have same : (findRecord n request.username >>= fun record =>
        Act.closing record (c.serve record request l') : Act Memory H Outcome) w =
      (findRecord n request.username >>= fun record =>
        Act.closing record (c.serve record request l)) w := by
    rw [Act.bind_eq_andThen, Act.bind_eq_andThen]
    rcases looked : findRecord n request.username w with ⟨e | record, w₁⟩
    · rw [Act.andThen_of_error looked, Act.andThen_of_error looked]
    · obtain ⟨node, denotes⟩ := denotes_of_findRecord looked
      rw [Act.andThen_of_ok looked, Act.andThen_of_ok looked]
      unfold Act.closing Act.always
      rw [serve_eq denotes l l']
  unfold enter Act.closing Act.always at same ⊢
  rw [same]

end Changer

namespace Directory.Memory.Akin

variable {H : Type} {c : Changer} {request : Request} {S : Memory → Memory → Prop}
  {Home : String → Prop} (akin : Akin c request S Home) {w w' : World Memory H}

include akin

/-- Two worlds are abreast after an arrival on both sides. -/
theorem arrived_abreast (abreast : sameness.Abreast S w w') {d d' : Memory}
    (store : SameStore w.directory d) (store' : SameStore w'.directory d') (l l' : Location)
    (accepted accepted' : Bool) :
    sameness.Abreast S (Changer.arrived w d l accepted) (Changer.arrived w' d' l' accepted') :=
  ⟨akin.store abreast.directory store store', abreast.host, abreast.vault, abreast.answers⟩

/-- From nodes on in which the user is found in the same node, the flow goes the same way, whatever
the locations are that these nodes were opened at. -/
theorem enter_agree {n n' : HandleId} (abreast : sameness.Abreast S w w')
    (there : AtNode request.username Home n n' w.directory w'.directory) (l l' : Location) :
    sameness.Agree S w (c.enter request l n w) w' (c.enter request l' n' w') := by
  rw [Changer.enter_eq l l']
  exact agree_of_inStep (akin.nodeAccord.enter_inStep n n' l)
    (abreast.mono fun related => ⟨related, there⟩)

variable [Host H]

/-- **Runs at directories that are akin go the same way** where the default session can be created,
if the same nodes are reached on both sides and the user is found in the same one of them. -/
theorem run_agree (abreast : sameness.Abreast S w w') (serves : w.directory.Serves)
    (serves' : w'.directory.Serves)
    (same : w'.directory.reach? request.location = w.directory.reach? request.location)
    (looksUp : ∀ names, w.directory.reach? request.location = some names →
      LooksUp request.username Home names names w.directory w'.directory) :
    sameness.Agree S w (c.run request w) w' (c.run request w') := by
  rcases reach : w.directory.reach? request.location with _ | names <;> rw [reach] at same
  · obtain ⟨d, store, ran⟩ := Changer.run_of_unreached c serves reach
    obtain ⟨d', store', ran'⟩ := Changer.run_of_unreached c serves' same
    rw [ran, ran']
    exact ⟨rfl, akin.arrived_abreast abreast store store' _ _ _ _, _, _, rfl, rfl, rfl⟩
  · obtain ⟨n, d, store, holds, ran⟩ := Changer.run_of_reach c serves reach
    obtain ⟨n', d', store', holds', ran'⟩ := Changer.run_of_reach c serves' same
    have there : AtNode request.username Home n n' d d' :=
      ⟨names, names, ⟨holds, holds'⟩, (looksUp names reach).of_eq
        (store.undisturbed.findUser_eq _ _) (store'.undisturbed.findUser_eq _ _)⟩
    have entered := akin.enter_agree
      (akin.arrived_abreast abreast store store' request.location request.location true true)
      there request.location request.location
    have arrivals : sameness.Along w (Changer.arrived w d request.location true) w'
        (Changer.arrived w' d' request.location true) := ⟨_, _, rfl, rfl, rfl⟩
    rw [ran, ran']
    exact ⟨entered.result, entered.abreast, arrivals.trans entered.along⟩

end Directory.Memory.Akin

end PasswordChange
