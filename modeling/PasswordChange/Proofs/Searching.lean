import PasswordChange.Proofs.Arrival

/-!
# Searching for a user and naming the node

A run looks for the user in the search, or in a node that is named. If the search ends in the node
that would be named, both runs come to the same record, and from there on only the record's own
location counts. So they are the same but for the call that opens the node, whatever the search node
is called.

* `SameButOpening` says what is the same at the end of two such runs.
* `Changer.decides_at_home` says that the trust decision is made for the node of the record.
* `searching_and_naming_agree` is the main result.
-/

namespace PasswordChange

open Directory (Memory)

/-! ## What is the same -/

/-- The two journals show the same prompts, lines, log entries, attempts to change a password and
released handles. -/
structure Journal.SameViews (j j' : Journal) : Prop where
  prompts : j'.prompts = j.prompts
  said : j'.said = j.said
  warned : j'.warned = j.warned
  errorLines (threshold : Log.Level) : j'.errorLines threshold = j.errorLines threshold
  logged : j'.logged = j.logged
  mutations : j'.mutations = j.mutations
  released : j'.released = j.released

theorem Location.isCredential_opening (l : Location) : l.opening.isCredential = false := by
  unfold opening
  split <;> rfl

/-- The call that opens a node is not seen in these views. -/
theorem Journal.sameViews_of_opening (l l' : Location) (before after : List Event) :
    SameViews (before ++ .called l.opening true :: after)
      (before ++ .called l'.opening true :: after) := by
  constructor
  case mutations =>
    simp [Journal.mutations, Journal.calls, l.isCredential_opening, l'.isCredential_opening]
  all_goals
    intros
    simp [Journal.prompts, Journal.said, Journal.warned, Journal.errorLines, Journal.logged,
      Journal.released]

/-- At the end of two runs from the same world, which opened nodes at the locations `l` and `l'`,
everything is the same but the call that opened the node. -/
structure SameButOpening {H : Type} (l l' : Location) (w : World Memory H)
    (first second : Except Failure Outcome × World Memory H) : Prop where
  result : second.1 = first.1
  store : first.2.directory.SameStore second.2.directory
  answers : second.2.answers = first.2.answers
  views : (w.since first.2).SameViews (w.since second.2)
  events : ∃ before after, w.since first.2 = before ++ .called l.opening true :: after ∧
    w.since second.2 = before ++ .called l'.opening true :: after

namespace Directory.Memory

variable {H : Type} {c : Changer} {request : Request} {w : World Memory H} {d d' : Memory}

theorem SameStore.setAccountPassword (same : SameStore d d') (node user password : String) :
    SameStore (d.setAccountPassword node user password)
      (d'.setAccountPassword node user password) := by
  obtain ⟨handles, openHandles, rfl⟩ := same
  unfold Memory.setAccountPassword
  rw [show account? { d with handles, openHandles } node user = d.account? node user from rfl]
  split <;> exact ⟨_, _, rfl⟩

/-- Handles are no concern of the flow. -/
theorem akin_sameStore (c : Changer) (request : Request) :
    Akin c request SameStore fun _ => True where
  store same first second := (first.symm.trans same).trans second
  faults := by
    rintro d _ ⟨_, _, rfl⟩
    rfl
  present same _ present := by
    rw [same.undisturbed.account?_eq]
    exact present
  permits := by
    intro d d' home oldPassword same _ _ _
    have undisturbed := same.undisturbed
    refine decideAuthenticator_congr ?_ (fun _ _ => undisturbed.account?_eq _ _) _ oldPassword
    rw [undisturbed.searchOrder, undisturbed.findUser_eq]
  changes := by
    rintro d _ home oldPassword ⟨_, _, rfl⟩ _
    rfl
  replaces password same _ _ := same.setAccountPassword _ _ _

/-- The record that is found is that of the node in which the user is. -/
theorem recordOf_of_copyRecord {n record : HandleId} {names : List String} {user home : String}
    (holds : d.Holds .node n (.node names)) (resolves : d.findUser user names = .ok (some home))
    (copied : (d.copyRecord n userRecords user).outcome = .ok (some record)) :
    (d.copyRecord n userRecords user).state.recordOf record = .ok (home, user) := by
  have decided := decideRecord_eq holds user
  rw [resolves] at decided
  unfold copyRecord at copied ⊢
  rcases fault : d.faults.lookup with _ | error <;> rw [fault] at decided <;>
    simp only [decided] at copied ⊢
  · cases copied
    exact (holds_issue rfl d).recordOf_eq
  · cases copied

end Directory.Memory

namespace Changer

open Directory.Memory

variable {c : Changer} {request : Request} {w : World Memory Host.Scripted} {names : List String}
  {home : String}

/-- In a default session, the record of the node in which the user is found is located. -/
theorem recordOf_of_located (serves : w.directory.Serves)
    (reach : w.directory.reach? request.location = some names)
    (resolves : w.directory.findUser request.username names = .ok (some home)) {found : Found}
    {w₀ : World Memory Host.Scripted} (located : c.locate request w = (.ok found, w₀)) :
    w₀.directory.recordOf found.record = .ok (home, request.username) := by
  obtain ⟨s, w₁, n, d, opened, entered, store, holds⟩ := arrives c serves reach
  obtain ⟨_, _, _, opened', entered', looked⟩ := locate_eq_ok located
  rw [opened] at opened'
  simp only [Prod.mk.injEq, Except.ok.injEq] at opened'
  obtain ⟨⟨rfl, location⟩, rfl⟩ := opened'
  rw [← location, entered] at entered'
  simp only [Prod.mk.injEq, Except.ok.injEq] at entered'
  obtain ⟨rfl, rfl⟩ := entered'
  have performed := findRecord_eq_ok looked
  have still := (store.undisturbed.findUser_eq request.username names).trans resolves
  have record := recordOf_of_copyRecord holds still (congrArg (fun result => result.1) performed)
  have state : (d.copyRecord found.node Directory.userRecords request.username).state =
      w₀.directory := congrArg (fun result => result.2.directory) performed
  rw [← state]
  exact record

/-- **The trust decision is made for the node in which the user is found.** -/
theorem decides_at_home (serves : w.directory.Serves)
    (reach : w.directory.reach? request.location = some names)
    (resolves : w.directory.findUser request.username names = .ok (some home)) {outcome : Outcome}
    (done : (c.run request w).1 = .ok outcome) :
    outcome.location = .named home ∧ outcome.needsAuth = c.needsAuthentication (.named home) := by
  rcases c.run_course Memory.lookupFrame Host.Scripted.emits request w with
    stopped | ⟨found, values, w₀, w₁, talk, prelude, rest, course⟩
  · obtain ⟨e, failed⟩ := stopped.failed
    rw [failed] at done
    cases done
  · obtain ⟨node, denotes, _, concludes⟩ := course.denotes
    have record := recordOf_of_located serves reach resolves course.reached.located
    rw [denotes.recordOf] at record
    cases record
    rw [done] at concludes
    generalize (c.run request w).2.directory = last at concludes
    generalize ended : (Except.ok outcome : Except Failure Outcome) = result at concludes
    cases concludes with
    | interrupted => cases ended
    | declined =>
        cases ended
        exact ⟨rfl, rfl⟩
    | @submitted _ _ _ step =>
        rcases same : step.outcome with e | _ <;> rw [same] at ended <;> cases ended
        exact ⟨rfl, rfl⟩

end Changer

/-! ## Two runs -/

namespace Directory.Memory

variable {H : Type} {w : World Memory H} {d d' : Memory} {user home : String}

/-- The node in which a user is found can be reached by its name, and the user is found there. An
empty name leads to the search again. -/
theorem reach_of_resolved (resolves : d.findUser user d.searched = .ok (some home)) :
    ∃ names, d.reach? (.named home) = some names ∧ d.findUser user names = .ok (some home) := by
  have present : (d.account? home user).isSome = true := isSome_of_findUser resolves
  have known : d.nodes.has home = true := has_of_account? present
  by_cases nameless : home = ""
  · refine ⟨d.searched, ?_, resolves⟩
    unfold reach?
    rw [nameless]
    rfl
  · refine ⟨[home], ?_, ?_⟩
    · have named : (Location.named home).name? = some home :=
        Location.name?_eq_some_iff.2 ⟨rfl, nameless⟩
      unfold reach?
      rw [named]
      exact if_pos (List.contains_iff_mem.2 ((Table.has_iff_mem_keys _ _).1 known))
    · obtain ⟨accounts, get⟩ := Option.isSome_iff_exists.1 known
      rw [account?_of_get? get] at present
      unfold findUser
      rw [get]
      exact if_pos present

/-- Acts that agree after the arrival at two nodes are the same but for the opening of the node. -/
theorem sameButOpening_of_agree {l l' : Location}
    {first second : Except Failure Outcome × World Memory H}
    (agree : sameness.Agree SameStore (Changer.arrived w d l true) first
      (Changer.arrived w d' l' true) second) : SameButOpening l l' w first second := by
  obtain ⟨result, abreast, added, added', grown, grown', same⟩ := agree
  have same : added = added' := same
  subst same
  have since : w.since first.2 =
      [.called (.createSession []) true] ++ .called l.opening true ::
        (.released .session :: added) :=
    World.since_of_journal_eq (by rw [grown]; simp [Changer.arrived, Location.arrival])
  have since' : w.since second.2 =
      [.called (.createSession []) true] ++ .called l'.opening true ::
        (.released .session :: added) :=
    World.since_of_journal_eq (by rw [grown']; simp [Changer.arrived, Location.arrival])
  refine ⟨result, abreast.directory, ?_, ?_, _, _, since, since'⟩
  · rw [abreast.answers]
    exact Answer.map_rename_identity _
  · rw [since, since']
    exact Journal.sameViews_of_opening l l' _ _

end Directory.Memory

/-- **Searching for a user and naming the node are the same.** Where the default session can be
created and the search finds the user in a node, a run that searches and a run that names the node
end in the same way, with the same directory and the same events but for the call that opens the
node. Both decide about trust by the node that was found. -/
theorem searching_and_naming_agree (c : Changer) (request : Request)
    (w : World Memory Host.Scripted) (home : String)
    (serves : ∃ s, (w.directory.createSession []).outcome = .ok s)
    (resolves : w.directory.findUser request.username w.directory.searched = .ok (some home)) :
    let searching := c.run { request with location := .unspecified } w
    let naming := c.run { request with location := .named home } w
    SameButOpening .unspecified (.named home) w searching naming ∧
      ∀ outcome, searching.1 = .ok outcome → outcome.location = .named home ∧
        outcome.needsAuth = c.needsAuthentication (.named home) := by
  have serves := Memory.serves_iff.2 serves
  obtain ⟨names, reach, resolves'⟩ := Memory.reach_of_resolved resolves
  let search : Request := { request with location := .unspecified }
  let name : Request := { request with location := .named home }
  have reached : w.directory.reach? search.location = some w.directory.searched := rfl
  obtain ⟨n, d, store, holds, ran⟩ := Changer.run_of_reach c serves reached
  have reached' : w.directory.reach? name.location = some names := reach
  obtain ⟨n', d', store', holds', ran'⟩ := Changer.run_of_reach c serves reached'
  refine ⟨?_, fun outcome done => Changer.decides_at_home serves reached resolves done⟩
  have there : Memory.AtNode request.username (fun _ => True) n n' d d' := by
    have looksUp : Memory.LooksUp request.username (fun _ => True) w.directory.searched names
        w.directory w.directory := ⟨resolves'.trans resolves.symm, fun _ _ => trivial⟩
    exact ⟨_, _, ⟨holds, holds'⟩, looksUp.of_eq (store.undisturbed.findUser_eq _ _)
      (store'.undisturbed.findUser_eq _ _)⟩
  have akin := Memory.akin_sameStore c request
  have abreast : Memory.sameness.Abreast Memory.SameStore w w :=
    ⟨.refl _, rfl, rfl, (Answer.map_rename_identity w.answers).symm⟩
  have arrived := akin.arrived_abreast abreast store store' .unspecified (.named home) true true
  have entered := akin.enter_agree arrived there .unspecified (.named home)
  rw [show c.run { request with location := .unspecified } w = _ from ran,
    show c.run { request with location := .named home } w = _ from ran']
  exact Memory.sameButOpening_of_agree entered

/-- The search goes over a local node and over one in the network, where alice has her account. -/
def officeNetwork : Memory :=
  (Memory.addUser "/Local/Default" "heidi" "h" true {}).addUser "/LDAPv3/ldap.example.com" "alice"
    "a" false

/-- Alice types her password and a new one twice. -/
def alicesAnswers : World Memory Host.Scripted where
  directory := officeNetwork
  host := {}
  answers := [.text "a", .text "new", .text "new"]

def alicesRequest : Request :=
  ⟨"alice", .unspecified, "alice", nofun, nofun⟩

/-- The password of alice is changed in the same way by a search and by the name of her node. -/
theorem alice_found_either_way :
    let searching := Changer.run ⟨{}, false⟩ alicesRequest alicesAnswers
    let naming := Changer.run ⟨{}, false⟩
      { alicesRequest with location := .named "/LDAPv3/ldap.example.com" } alicesAnswers
    SameButOpening .unspecified (.named "/LDAPv3/ldap.example.com") alicesAnswers searching
        naming ∧
      searching.1.toOption =
        some ⟨some "alice", true, true, .named "/LDAPv3/ldap.example.com"⟩ ∧
      naming.2.directory.passwordOf "/LDAPv3/ldap.example.com" "alice" = some "new" := by
  have serves : ∃ s, (alicesAnswers.directory.createSession []).outcome = .ok s :=
    Memory.serves_iff.1 ⟨rfl, rfl⟩
  have resolves : alicesAnswers.directory.findUser alicesRequest.username
      alicesAnswers.directory.searched = .ok (some "/LDAPv3/ldap.example.com") := by
    rfl
  obtain ⟨same, _⟩ :=
    searching_and_naming_agree ⟨{}, false⟩ alicesRequest alicesAnswers _ serves resolves
  exact ⟨same, by decide +kernel, by decide +kernel⟩

end PasswordChange
