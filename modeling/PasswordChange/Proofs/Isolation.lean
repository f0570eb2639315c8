import PasswordChange.Proofs.Alongside
import PasswordChange.Proofs.Locality

/-!
# Sessions on the local database are isolated, but for the authenticator

A run that has no session but one on the local database changes no password outside the local part
of a directory. What it does and shows depends on the local part alone and on the accounts that
vouch for the user. Those are searched for in the whole directory.

* `Memory.SameVouchers` says that the same accounts vouch in two directories.
* `Memory.Kindred` is the relation between two directories that agree locally, which every operation
  of a run keeps (`Memory.isolation`).
* `Memory.outsider_is_heard` shows what the search for the authenticator lets through.
* `local_sessions_isolated` is the main result, and `administrator_outside_heard` is a run in which
  another account vouches.
-/

namespace PasswordChange

namespace Directory.Memory

variable {c : Changer} {request : Request} {o o' d d' e e' : Memory} {node user home : String}

/-! ## Kindred directories -/

/-- In the local nodes in which the user has an account and has to be vouched for, the same account
vouches in both directories. -/
def SameVouchers (c : Changer) (request : Request) (d d' : Memory) : Prop :=
  ∀ node, d.isLocal node = true → (d.account? node request.username).isSome = true →
    c.needsAuthentication (.named node) = true →
    d'.voucher? node request.authname = d.voucher? node request.authname

/-- The accounts in the nodes that are not local are the same. -/
def KeptOutside (o d : Memory) : Prop :=
  ∀ node user, o.isLocal node = false → d.account? node user = o.account? node user

/-- Two directories that agree locally and in the accounts that vouch, and that were `o` and `o'`
before. -/
structure Kindred (c : Changer) (request : Request) (o o' d d' : Memory) : Prop where
  agree : AgreeLocally d d'
  grounded : d.Grounded
  grounded' : d'.Grounded
  vouchers : SameVouchers c request d d'
  root : d.localRoot = o.localRoot ∧ d'.localRoot = o'.localRoot
  outside : KeptOutside o d
  outside' : KeptOutside o' d'

theorem KeptOutside.setAccountPassword (outside : KeptOutside o d) (here : o.isLocal home = true)
    (user password : String) : KeptOutside o (d.setAccountPassword home user password) := by
  intro node name there
  have other : home ≠ node := by
    intro same
    rw [← same, here] at there
    cases there
  rw [account?_setAccountPassword, if_neg fun same => other same.1]
  exact outside node name there

/-- Whoever vouches for a change of an own account does so with that account. -/
theorem AgreeLocally.sameVouchers_of_own (agree : AgreeLocally d d')
    (own : request.authname = request.username) : SameVouchers c request d d' := by
  intro node here present _
  have account := agree.account?_eq here request.username
  unfold voucher?
  rw [own, account, Option.or_of_isSome present, Option.or_of_isSome present]

theorem localRoot_setAccountPassword (node user password : String) (d : Memory) :
    (d.setAccountPassword node user password).localRoot = d.localRoot := by
  obtain ⟨nodes, same⟩ := d.setAccountPassword_eq node user password
  rw [same]

/-- A password that is replaced is no concern of those who vouch for somebody else. -/
theorem voucher?_setAccountPassword {authname password : String} (other : user ≠ authname) :
    (d.setAccountPassword home user password).voucher? node authname =
      d.voucher? node authname := by
  have kept (name : String) :
      (d.setAccountPassword home user password).account? name authname =
        d.account? name authname := by
    rw [account?_setAccountPassword, if_neg fun same => other same.2]
  have order : (d.setAccountPassword home user password).searchOrder = d.searchOrder := by
    obtain ⟨nodes, same⟩ := d.setAccountPassword_eq home user password
    rw [same]
  unfold voucher?
  rw [order]
  simp only [kept]

theorem Undisturbed.voucher?_eq (same : Undisturbed d e) (node authname : String) :
    e.voucher? node authname = d.voucher? node authname := by
  unfold voucher?
  rw [same.account?_eq, same.searchOrder]
  simp only [same.account?_eq]

namespace Kindred

/-- Directories that agree locally and in those who vouch are kindred at first. -/
theorem start (agree : AgreeLocally d d') (reachable : d.Reachable) (reachable' : d'.Reachable)
    (vouchers : SameVouchers c request d d') : Kindred c request d d' d d' where
  agree := agree
  grounded := reachable.grounded
  grounded' := reachable'.grounded
  vouchers := vouchers
  root := ⟨rfl, rfl⟩
  outside _ _ _ := rfl
  outside' _ _ _ := rfl

/-- Directories that are not disturbed stay kindred while they agree. -/
theorem of_undisturbed (kindred : Kindred c request o o' d d') (agree : AgreeLocally e e')
    (same : Undisturbed d e) (same' : Undisturbed d' e') (root : e.localRoot = d.localRoot) :
    Kindred c request o o' e e' := by
  refine ⟨agree, kindred.grounded.of_undisturbed same, kindred.grounded'.of_undisturbed same', ?_,
    ⟨root.trans kindred.root.1, ?_⟩, ?_, ?_⟩
  · intro node here present needed
    unfold isLocal at here
    rw [root] at here
    rw [same.account?_eq] at present
    rw [same.voucher?_eq, same'.voucher?_eq]
    exact kindred.vouchers node here present needed
  · rw [agree.localRoot, root, ← kindred.agree.localRoot]
    exact kindred.root.2
  · intro node user there
    rw [same.account?_eq]
    exact kindred.outside node user there
  · intro node user there
    rw [same'.account?_eq]
    exact kindred.outside' node user there

theorem store (kindred : Kindred c request o o' d d') (same : SameStore d e)
    (same' : SameStore d' e') : Kindred c request o o' e e' := by
  obtain ⟨root, nodes, order, daemon, localDaemon, faults⟩ := kindred.agree
  have undisturbed := same.undisturbed
  have undisturbed' := same'.undisturbed
  obtain ⟨_, _, rfl⟩ := same
  obtain ⟨_, _, rfl⟩ := same'
  exact kindred.of_undisturbed ⟨root, nodes, order, daemon, localDaemon, faults⟩ undisturbed
    undisturbed' rfl

theorem issue (kindred : Kindred c request o o' d d') (h : Handle Ref) :
    Kindred c request o o' (d.issue h).2 (d'.issue h).2 :=
  kindred.store (sameStore_issue h d) (sameStore_issue h d')

theorem close (kindred : Kindred c request o o' d d') (i i' : HandleId) :
    Kindred c request o o' (d.close i).state (d'.close i').state :=
  kindred.store (sameStore_close i d) (sameStore_close i' d')

theorem undergo (kindred : Kindred c request o o' d d') (deed : Deed) :
    Kindred c request o o' (d.undergo deed) (d'.undergo deed) := by
  obtain ⟨root, nodes, order, daemon, localDaemon, faults⟩ := kindred.agree
  have agree : AgreeLocally (d.undergo deed) (d'.undergo deed) := by
    cases deed with
    | startLocalDaemon => exact ⟨root, nodes, order, daemon, rfl, faults⟩
    | startDaemon => exact ⟨root, nodes, order, rfl, localDaemon, faults⟩
    | clearSessionError =>
        exact ⟨root, nodes, order, daemon, localDaemon,
          congrArg ({ · with session := none }) faults⟩
  have root' : (d.undergo deed).localRoot = d.localRoot := by
    cases deed <;> rfl
  exact kindred.of_undisturbed agree (lookupFrame.undergo deed d) (lookupFrame.undergo deed d')
    root'

/-- A password that is replaced in a local node is replaced in both directories, and nothing else
is. -/
theorem setAccountPassword (kindred : Kindred c request o o' d d') (here : d.isLocal home = true)
    (present : (d.account? home request.username).isSome = true) (password : String) :
    Kindred c request o o' (d.setAccountPassword home request.username password)
      (d'.setAccountPassword home request.username password) := by
  have agree := kindred.agree.setAccountPassword here present password
  have root := localRoot_setAccountPassword home request.username password
  refine ⟨agree, kindred.grounded.setAccountPassword _ _ _,
    kindred.grounded'.setAccountPassword _ _ _, ?_,
    ⟨(root d).trans kindred.root.1, (root d').trans kindred.root.2⟩, ?_, ?_⟩
  · by_cases own : request.authname = request.username
    · exact agree.sameVouchers_of_own own
    · intro node there has needed
      -- The authenticator is somebody else, and so has kept the account.
      rw [voucher?_setAccountPassword (Ne.symm own), voucher?_setAccountPassword (Ne.symm own)]
      refine kindred.vouchers node ?_ ?_ needed
      · unfold isLocal at there
        rwa [root] at there
      · rw [account?_setAccountPassword] at has
        split at has
        · rwa [Option.isSome_map] at has
        · exact has
  · refine kindred.outside.setAccountPassword ?_ request.username password
    unfold isLocal
    rwa [← kindred.root.1]
  · refine kindred.outside'.setAccountPassword ?_ request.username password
    unfold isLocal
    rwa [← kindred.root.2, kindred.agree.localRoot]

end Kindred

/-! ## The stations of the flow -/

/-- Handles that are decided on in the same way are handed out in the same way. -/
theorem tandem_conclude {S E : Memory → Memory → Prop}
    {T : HandleId → HandleId → Memory → Memory → Prop} {call : Call}
    {decide decide' : Memory → Except Failure (Handle Ref)}
    (same : ∀ d d', S d d' → decide' d' = decide d)
    (reaches : ∀ d d' h, S d d' → decide d = .ok h →
      T (d.issue h).1 (d'.issue h).1 (d.issue h).2 (d'.issue h).2)
    (stays : ∀ d d', S d d' → E d d') :
    sameness.Tandem S (fun d => d.conclude call (decide d))
      (fun d => d.conclude call (decide' d)) T E := by
  intro d d' related _
  dsimp only
  rw [same d d' related]
  rcases decided : decide d with e | h
  · exact .fail (.same e) (stays d d' related) rfl
  · exact .ok (reaches d d' h related decided) rfl

/-- What was local before is local. -/
theorem Kindred.isLocal_eq (kindred : Kindred c request o o' d d') : d.isLocal = o.isLocal := by
  funext node
  unfold isLocal
  rw [kindred.root.1]

/-- A user with an account in a local node has one there on both sides. -/
theorem Kindred.present (kindred : Kindred c request o o' d d') (here : d.isLocal home = true)
    (present : (d.account? home user).isSome = true) : (d'.account? home user).isSome = true := by
  rw [kindred.agree.account?_eq here]
  exact present

/-- Kindred directories stay so while accounts of the user in local nodes are changed. -/
theorem Kindred.akin (c : Changer) (request : Request) (o o' : Memory) :
    Akin c request (Kindred c request o o') fun home => o.isLocal home = true where
  store := Kindred.store
  faults kindred := kindred.agree.faults
  present := by
    intro d d' home kindred here present
    rw [← kindred.isLocal_eq] at here
    exact kindred.present here present
  permits := by
    intro d d' home oldPassword kindred here present needed
    rw [← kindred.isLocal_eq] at here
    exact AgreeLocally.decideAuthenticator_eq (has_of_account? present)
      (has_of_account? (kindred.present here present)) kindred.grounded kindred.grounded'
      (kindred.vouchers home here present needed) _ oldPassword
  changes := by
    intro d d' home oldPassword kindred here
    rw [← kindred.isLocal_eq] at here
    exact kindred.agree.decideChange_eq here _ oldPassword
  replaces := by
    intro d d' home password kindred here present
    rw [← kindred.isLocal_eq] at here
    exact kindred.setAccountPassword here present password

section Stations

variable (c request o o')

/-- Both handles are open on a session on the local database. -/
structure InSession (s s' : HandleId) (d d' : Memory) : Prop where
  kindred : Kindred c request o o' d d'
  session : ∃ path, path.isSet = true ∧
    Shares .session s s' (.session path) (.session path) d d'

end Stations

/-- Local nodes are opened in a session, and the user is found in the same one on both sides. -/
theorem InSession.enter {s s' : HandleId} (there : InSession c request o o' s s' d d')
    (name : Value) {names : List String} (here : ∀ name ∈ names, d.isLocal name = true) :
    let h : Handle Ref := ⟨.node, name, some (.node names)⟩
    InSession c request o o' s s' (d.issue h).2 (d'.issue h).2 ∧
      AtNode request.username (fun home => o.isLocal home = true) (d.issue h).1 (d'.issue h).1
        (d.issue h).2 (d'.issue h).2 ∧
      s ≠ (d.issue h).1 ∧ s' ≠ (d'.issue h).1 := by
  obtain ⟨kindred, path, isSet, shares⟩ := there
  have after := kindred.issue ⟨.node, name, some (.node names)⟩
  obtain ⟨other, still⟩ := shares.issue ⟨.node, name, some (.node names)⟩
    ⟨.node, name, some (.node names)⟩
  refine ⟨⟨after, path, isSet, still⟩, ⟨names, names, shares_issue rfl d d', ?_, ?_⟩, other⟩
  · exact after.agree.findUser_eq request.username here
  · intro home found
    rw [← kindred.isLocal_eq]
    exact here home (mem_of_findUser found)

/-- **Kindred directories go through the flow side by side where no session but one on the local
database can be opened.** -/
def isolation (c : Changer) (request : Request) (o o' : Memory)
    (named : c.settings.localDatabase ≠ "") : Accord Memory Memory sameness c request where
  toNodeAccord := (Kindred.akin c request o o').nodeAccord
  cold d d' := Kindred c request o o' d d' ∧ ∀ h, d.decideSession [] ≠ .ok h
  session := InSession c request o o'
  entered s s' n n' d d' :=
    InSession c request o o' s s' d d' ∧
      AtNode request.username (fun home => o.isLocal home = true) n n' d d' ∧ s ≠ n ∧ s' ≠ n'
  earlier _ _ := id
  undergo deed _ _ kindred := kindred.undergo deed
  createSession := by
    refine tandem_conclude (fun _ _ start => start.1.agree.decideSession_eq []) ?_
      fun _ _ => And.left
    intro d _ h start decided
    exact (start.2 h decided).elim
  createLocalSession := by
    refine tandem_conclude (fun _ _ kindred => kindred.agree.decideSession_eq c.localOptions) ?_
      fun _ _ => id
    intro d d' h kindred decided
    obtain ⟨kind, isOpen⟩ := decideSession_eq_ok decided
    refine ⟨kindred.issue h, _, ?_, kind ▸ shares_issue isOpen d d'⟩
    simpa [option, Changer.localOptions, localPathOption, Value.isSet] using named
  openNodeByName s s' name := by
    refine tandem_conclude ?_ ?_ fun _ _ => id
    · intro d d' there
      obtain ⟨kindred, path, isSet, holds, holds'⟩ := there
      rw [decideNodeByName_eq holds, decideNodeByName_eq holds', isSet,
        kindred.agree.visibleNodes_eq]
    · intro d d' h there decided
      have ⟨path, isSet, holds, _⟩ := there.session
      rw [decideNodeByName_eq holds, isSet] at decided
      split at decided <;> cases decided
      next visible =>
        exact there.enter _ (List.forall_mem_singleton.2 (isLocal_of_visible visible))
  openNodeByType s s' := by
    refine tandem_conclude ?_ ?_ fun _ _ => id
    · intro d d' there
      obtain ⟨kindred, path, isSet, holds, holds'⟩ := there
      rw [decideNodeByType_eq holds, decideNodeByType_eq holds', isSet, kindred.agree.searched_eq]
    · intro d d' h there decided
      have ⟨path, isSet, holds, _⟩ := there.session
      rw [decideNodeByType_eq holds, isSet] at decided
      cases decided
      exact there.enter _ fun name member => isLocal_of_visible (List.mem_filter.1 member).2
  closeSession s s' := by
    refine closes_of_shares ?_ fun d d' there => there.kindred.close s s'
    intro d d' there
    obtain ⟨path, _, shares⟩ := there.session
    exact ⟨_, _, _, shares⟩
  leaveSession s s' n n' := by
    refine closes_of_shares ?_ ?_
    · intro d d' there
      obtain ⟨path, _, shares⟩ := there.1.session
      exact ⟨_, _, _, shares⟩
    · intro d d' there
      obtain ⟨session, node, other⟩ := there
      exact ⟨session.kindred.close s s', node.close other⟩

/-! ## Outsiders -/

/-- Nobody of this name has an account in a local node. -/
def IsOutsider (d : Memory) (authname : String) : Prop :=
  ∀ node, d.isLocal node = true → d.account? node authname = none

/-- The account of an outsider is looked for in the nodes of the search that are not local. -/
theorem voucher?_of_isOutsider {authname : String} (outsider : d.IsOutsider authname)
    (here : d.isLocal node = true) :
    d.voucher? node authname =
      (d.searchOrder.filter fun name => !d.isLocal name).findSome? (d.account? · authname) := by
  unfold voucher?
  rw [outsider node here, Option.none_or]
  induction d.searchOrder with
  | nil => rfl
  | cons name rest ih =>
      cases there : d.isLocal name with
      | true => simpa [there, outsider name there] using ih
      | false => simp [there, List.findSome?_cons, ih]

/-- **Outsiders are heard.** A change in a local node is permitted to somebody who has no account in
any local node if and only if the first account of that name outside permits it. -/
theorem outsider_is_heard {authname username : String} {oldPassword : Option String}
    (grounded : d.Grounded) (outsider : d.IsOutsider authname) (here : d.isLocal node = true)
    (known : d.nodes.has node = true) :
    d.decideAuthenticator node authname (.text username) oldPassword = .ok () ↔
      ∃ account, (d.searchOrder.filter fun name => !d.isLocal name).findSome?
          (d.account? · authname) = some account ∧
        oldPassword = some account.password ∧ (authname = username ∨ account.admin = true) := by
  rw [← voucher?_of_isOutsider outsider here]
  exact decideAuthenticator_eq_ok_iff known grounded

/-! ## Two runs -/

/-- Where no session is opened, none was decided on. -/
theorem decideSession_ne_ok {options : List (String × Value)}
    (down : ∀ s, (d.createSession options).outcome ≠ .ok s) (h : Handle Ref) :
    d.decideSession options ≠ .ok h := by
  intro decided
  apply down (d.issue h).1
  unfold createSession
  rw [decided]
  rfl

/-- A run ends in the same way at kindred directories, which stay kindred. -/
theorem Kindred.run (kindred : Kindred c request d d' d d')
    (down : ∀ h, d.decideSession [] ≠ .ok h) (named : c.settings.localDatabase ≠ "")
    (w : World Memory Host.Scripted) :
    let first := c.run request { w with directory := d }
    let second := c.run request { w with directory := d' }
    second.1 = first.1 ∧
      World.since { w with directory := d' } second.2 =
        World.since { w with directory := d } first.2 ∧
      Kindred c request d d' first.2.directory second.2.directory := by
  have abreast : sameness.Abreast (isolation c request d d' named).cold { w with directory := d }
      { w with directory := d' } :=
    ⟨⟨kindred, down⟩, rfl, rfl, (Answer.map_rename_identity w.answers).symm⟩
  have inStep := (isolation c request d d' named).run_inStep Host.Scripted.emits_isCommon
  obtain ⟨result, after, added, added', grown, grown', same⟩ := agree_of_inStep inStep abreast
  have same : added = added' := same
  refine ⟨result, ?_, after.directory⟩
  rw [World.since_of_journal_eq grown, World.since_of_journal_eq grown', same]

end Directory.Memory

open Directory (Memory)

/-- **Runs on the local database are isolated where the same accounts vouch.** Where no session but
one on the local database can be opened, a run changes no password outside the local part of the
directory. If two directories agree locally, and in the local nodes of the user the same account
vouches in both, then the run ends in the same way, with the same events, and the directories agree
locally afterwards. -/
theorem local_sessions_isolated (c : Changer) (request : Request)
    (w : World Memory Host.Scripted) (d d' : Memory) (reachable : d.Reachable)
    (reachable' : d'.Reachable) (agree : d.AgreeLocally d')
    (down : ∀ s, (d.createSession []).outcome ≠ .ok s) (named : c.settings.localDatabase ≠ "") :
    let first := c.run request { w with directory := d }
    let second := c.run request { w with directory := d' }
    (d.KeptOutside first.2.directory ∧ d'.KeptOutside second.2.directory) ∧
      (d.SameVouchers c request d' →
        second.1 = first.1 ∧
          World.since { w with directory := d' } second.2 =
            World.since { w with directory := d } first.2 ∧
          first.2.directory.AgreeLocally second.2.directory) := by
  have down := Memory.decideSession_ne_ok down
  have down' (h : Handle Memory.Ref) : d'.decideSession [] ≠ .ok h :=
    agree.decideSession_eq [] ▸ down h
  refine ⟨⟨?_, ?_⟩, fun vouchers => ?_⟩
  · -- A directory is kindred to itself, whoever vouches there.
    have alone : Memory.Kindred c request d d d d :=
      .start (.refl d) reachable reachable fun _ _ _ _ => rfl
    exact (alone.run down named w).2.2.outside
  · have alone : Memory.Kindred c request d' d' d' d' :=
      .start (.refl d') reachable' reachable' fun _ _ _ _ => rfl
    exact (alone.run down' named w).2.2.outside
  · have kindred := Memory.Kindred.start agree reachable reachable' vouchers
    obtain ⟨result, events, after⟩ := kindred.run down named w
    exact ⟨result, events, after.agree⟩

/-- Heidi has an account on the local database, and the daemon does not run. -/
def heidisMachine : Memory :=
  Memory.addUser "/Local/Default" "heidi" "h" false { daemonRunning := false }

/-- The same machine, with an administrator in a directory outside. -/
def heidisNetwork : Memory :=
  heidisMachine.addUser "/LDAPv3/ldap.example.com" "ldapadmin" "p" true

theorem heidisMachine_reachable : heidisMachine.Reachable :=
  .move (.fresh false "/Local/") (.addUser _ _ _ _)

theorem heidisNetwork_reachable : heidisNetwork.Reachable :=
  .move heidisMachine_reachable (.addUser _ _ _ _)

theorem heidis_machines_agree : heidisMachine.AgreeLocally heidisNetwork := by
  refine ⟨rfl, ?_, ?_, rfl, rfl, rfl⟩ <;> decide +kernel

/-- In single-user mode the loader starts the local daemon, and a password is typed and a new one
twice. -/
def singleUserMode (password : String) : World Memory Host.Scripted where
  directory := {}
  host := { singleUser := true, deeds := [.startLocalDaemon] }
  answers := [.text password, .text "new", .text "new"]

/-- Heidi vouches for a change of her own password. -/
def heidisRequest : Request :=
  ⟨"heidi", .unspecified, "heidi", by decide, by decide⟩

/-- The administrator vouches for a change of the password of heidi. -/
def administratorsRequest : Request :=
  ⟨"heidi", .unspecified, "ldapadmin", by decide, by decide⟩

/-- The run of an unprivileged caller with this directory. -/
def runWith (request : Request) (w : World Memory Host.Scripted) (d : Memory) :
    Except Failure Outcome × World Memory Host.Scripted :=
  Changer.run ⟨{}, false⟩ request { w with directory := d }

/-- When heidi vouches for herself, an administrator outside makes no difference. -/
theorem heidis_change_isolated :
    let first := runWith heidisRequest (singleUserMode "h") heidisMachine
    let second := runWith heidisRequest (singleUserMode "h") heidisNetwork
    heidisMachine.AgreeLocally heidisNetwork ∧ second.1 = first.1 ∧
      first.2.directory.AgreeLocally second.2.directory ∧
      heidisNetwork.KeptOutside second.2.directory ∧
      first.2.directory.passwordOf "/Local/Default" "heidi" = some "new" := by
  have agree := heidis_machines_agree
  have down (s : HandleId) : (heidisMachine.createSession []).outcome ≠ .ok s := by
    intro opened
    cases opened
  have changed : (runWith heidisRequest (singleUserMode "h") heidisMachine).2.directory.passwordOf
      "/Local/Default" "heidi" = some "new" := by
    decide +kernel
  unfold runWith at changed ⊢
  obtain ⟨⟨_, outside⟩, isolated⟩ := local_sessions_isolated ⟨{}, false⟩ heidisRequest
    (singleUserMode "h") heidisMachine heidisNetwork heidisMachine_reachable heidisNetwork_reachable
    agree down (by decide)
  obtain ⟨result, _, after⟩ := isolated (agree.sameVouchers_of_own rfl)
  exact ⟨agree, result, after, outside, changed⟩

/-- **An administrator outside is heard**, though the session is on the local database: the machines
agree locally, and the password of heidi changes only on the one whose network has him. -/
theorem administrator_outside_heard :
    let first := runWith administratorsRequest (singleUserMode "p") heidisMachine
    let second := runWith administratorsRequest (singleUserMode "p") heidisNetwork
    heidisMachine.AgreeLocally heidisNetwork ∧
      (heidisMachine.decideAuthenticator "/Local/Default" "ldapadmin" (.text "heidi") (some "p") ≠
          .ok () ∧
        first.1.isOk = false ∧
        first.2.directory.passwordOf "/Local/Default" "heidi" = some "h") ∧
      heidisNetwork.decideAuthenticator "/Local/Default" "ldapadmin" (.text "heidi") (some "p") =
          .ok () ∧
        second.1.isOk = true ∧
        second.2.directory.passwordOf "/Local/Default" "heidi" = some "new" := by
  have outsider : heidisMachine.IsOutsider "ldapadmin" := by
    intro node _
    unfold heidisMachine
    rw [Memory.account?_addUser, if_neg (by simp)]
    rfl
  have outsider' : heidisNetwork.IsOutsider "ldapadmin" := by
    intro node here
    have elsewhere : "/LDAPv3/ldap.example.com" ≠ node := by
      intro same
      subst same
      revert here
      decide +kernel
    unfold heidisNetwork
    rw [Memory.account?_addUser, if_neg fun same => elsewhere same.1]
    exact outsider node here
  have unheard : heidisMachine.decideAuthenticator "/Local/Default" "ldapadmin" (.text "heidi")
      (some "p") ≠ .ok () := by
    intro accepted
    obtain ⟨account, found, _⟩ := (Memory.outsider_is_heard heidisMachine_reachable.grounded
      outsider (by decide +kernel) (by decide +kernel)).1 accepted
    cases found
  have heard : heidisNetwork.decideAuthenticator "/Local/Default" "ldapadmin" (.text "heidi")
      (some "p") = .ok () := by
    apply (Memory.outsider_is_heard heidisNetwork_reachable.grounded outsider'
      (by decide +kernel) (by decide +kernel)).2
    exact ⟨⟨"p", true⟩, rfl, rfl, Or.inr rfl⟩
  exact ⟨heidis_machines_agree, ⟨unheard, by decide +kernel, by decide +kernel⟩, heard,
    by decide +kernel, by decide +kernel⟩

end PasswordChange
