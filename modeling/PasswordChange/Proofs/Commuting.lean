import PasswordChange.Proofs.Arrival

/-!
# Independent changes commute

A change of a password reads which users are in which nodes, and the password of whoever vouches for
it; it writes the password of its target. So two changes do not notice each other if their targets
are different and neither is vouched for by the target of the other.

* `Memory.AgreeBut` says that two directories differ in the password of one entry at most.
* `Commission.target?` and `Commission.voucher?` are the entries that a call of the library resolves
  to and is vouched for by.
* `Commission.carryOut_agree` is what a call does in a directory in which somebody else's password
  is another one.
* `independent_changes_commute` is the main result.
-/

namespace PasswordChange

open Directory (Memory)

namespace Directory.Memory

variable {d d' e e' o o' : Memory} {node user home : String}

/-- A place for an account: a node and the name of a user. -/
structure Entry where
  node : String
  user : String
  deriving DecidableEq, Repr

/-- The user's entry in the first of the nodes that has one. -/
def findEntry? (d : Memory) (user : String) (names : List String) : Option Entry :=
  match d.findUser user names with
  | .ok (some node) => some ⟨node, user⟩
  | .ok none | .error _ => none

theorem findEntry?_eq_some_iff {names : List String} {entry : Entry} :
    d.findEntry? user names = some entry ↔
      d.findUser user names = .ok (some entry.node) ∧ entry.user = user := by
  obtain ⟨node, name⟩ := entry
  unfold findEntry?
  rcases d.findUser user names with _ | _ | home
  · simp
  · simp
  · simp [eq_comm]

/-! ## Directories that differ in one password -/

/-- The directories are the same, but for their handles and for the account at one entry, if there
is one to be left out. -/
structure AgreeBut (exempt? : Option Entry) (d d' : Memory) : Prop where
  daemonRunning : d'.daemonRunning = d.daemonRunning
  faults : d'.faults = d.faults
  searchOrder : d'.searchOrder = d.searchOrder
  hasUser?_eq (user node : String) : d'.hasUser? user node = d.hasUser? user node
  account?_eq (node user : String) : exempt? ≠ some ⟨node, user⟩ →
    d'.account? node user = d.account? node user

namespace AgreeBut

variable {exempt? : Option Entry}

theorem refl (exempt? : Option Entry) (d : Memory) : AgreeBut exempt? d d :=
  ⟨rfl, rfl, rfl, fun _ _ => rfl, fun _ _ _ => rfl⟩

theorem trans (first : AgreeBut exempt? d d') (second : AgreeBut exempt? d' e) :
    AgreeBut exempt? d e where
  daemonRunning := second.daemonRunning.trans first.daemonRunning
  faults := second.faults.trans first.faults
  searchOrder := second.searchOrder.trans first.searchOrder
  hasUser?_eq user node := (second.hasUser?_eq user node).trans (first.hasUser?_eq user node)
  account?_eq node user other :=
    (second.account?_eq node user other).trans (first.account?_eq node user other)

theorem store (agree : AgreeBut exempt? d d') (same : SameStore d e) (same' : SameStore d' e') :
    AgreeBut exempt? e e' := by
  obtain ⟨_, _, rfl⟩ := same
  obtain ⟨_, _, rfl⟩ := same'
  exact ⟨agree.daemonRunning, agree.faults, agree.searchOrder, agree.hasUser?_eq,
    agree.account?_eq⟩

/-- The same password can be put in on both sides. -/
theorem setAccountPassword (agree : AgreeBut exempt? d d') (node user password : String) :
    AgreeBut exempt? (d.setAccountPassword node user password)
      (d'.setAccountPassword node user password) := by
  obtain ⟨nodes, same⟩ := d.setAccountPassword_eq node user password
  obtain ⟨nodes', same'⟩ := d'.setAccountPassword_eq node user password
  refine ⟨?_, ?_, ?_, ?_, ?_⟩
  · rw [same, same']
    exact agree.daemonRunning
  · rw [same, same']
    exact agree.faults
  · rw [same, same']
    exact agree.searchOrder
  · intro name home
    rw [hasUser?_setAccountPassword, hasUser?_setAccountPassword]
    exact agree.hasUser?_eq name home
  · intro home name other
    rw [account?_setAccountPassword, account?_setAccountPassword, agree.account?_eq home name other]

/-- The password of the entry that is left out can be put in on one side. -/
theorem of_setAccountPassword (node user password : String) (d : Memory) :
    AgreeBut (some ⟨node, user⟩) d (d.setAccountPassword node user password) := by
  obtain ⟨nodes, same⟩ := d.setAccountPassword_eq node user password
  refine ⟨?_, ?_, ?_, ?_, ?_⟩
  · rw [same]
  · rw [same]
  · rw [same]
  · intro name home
    exact hasUser?_setAccountPassword node user password name home d
  · intro home name other
    rw [account?_setAccountPassword, if_neg]
    rintro ⟨rfl, rfl⟩
    exact other rfl

/-! ### What is the same -/

theorem findUser_eq (agree : AgreeBut exempt? d d') (user : String) (names : List String) :
    d'.findUser user names = d.findUser user names :=
  findUser_congr (agree.hasUser?_eq user) names

theorem serves (agree : AgreeBut exempt? d d') (serves : d.Serves) : d'.Serves := by
  constructor
  · rw [agree.daemonRunning]
    exact serves.daemonRunning
  · rw [agree.faults]
    exact serves.faultless

/-- The same nodes are there, so the same ones are reached. -/
theorem reach?_eq (agree : AgreeBut exempt? d d') (l : Location) : d'.reach? l = d.reach? l := by
  have known (name : String) : d'.nodes.keys.contains name = d.nodes.keys.contains name := by
    rw [Bool.eq_iff_iff, List.contains_iff_mem, List.contains_iff_mem, ← Table.has_iff_mem_keys,
      ← Table.has_iff_mem_keys]
    have same := congrArg Option.isSome (agree.hasUser?_eq "" name)
    unfold hasUser? at same
    rw [Option.isSome_map, Option.isSome_map] at same
    unfold Table.has
    rw [same]
  unfold reach? searched
  rw [agree.searchOrder, funext known]

theorem decideChange_eq (agree : AgreeBut exempt? d d') (apart : exempt? ≠ some ⟨node, user⟩)
    (oldPassword : Option String) :
    d'.decideChange node user oldPassword = d.decideChange node user oldPassword := by
  unfold decideChange
  rw [agree.faults, accountOf_eq, accountOf_eq, agree.hasUser?_eq, agree.account?_eq _ _ apart]

end AgreeBut

/-- Two directories of which nothing has changed but the password at the own entry since they were
`o` and `o'`, and which differ at the foreign entry at most. -/
structure Besides (own? foreign? : Option Entry) (o o' d d' : Memory) : Prop where
  agree : AgreeBut foreign? d d'
  changed : AgreeBut own? o d
  changed' : AgreeBut own? o' d'

/-- What happens at the own entry goes the same way whatever the foreign password is, if neither the
own entry nor the one that vouches is the foreign one. -/
theorem Besides.akin {c : Changer} {request : Request} {own? foreign? : Option Entry}
    (apart : ∀ entry, own? = some entry → foreign? ≠ some entry)
    (vouched : ∀ home, own? = some ⟨home, request.username⟩ →
      c.needsAuthentication (.named home) = true → ∀ entry,
      o.findEntry? request.authname (home :: o.searchOrder) = some entry → foreign? ≠ some entry) :
    Akin c request (Besides own? foreign? o o') fun home =>
      own? = some ⟨home, request.username⟩ where
  store besides same same' :=
    ⟨besides.agree.store same same', besides.changed.store (.refl o) same,
      besides.changed'.store (.refl o') same'⟩
  faults besides := besides.agree.faults
  present besides own present := by
    rw [besides.agree.account?_eq _ _ (apart _ own)]
    exact present
  permits := by
    intro d d' home oldPassword besides own _ needed
    refine decideAuthenticator_congr ?_ ?_ _ oldPassword
    · rw [besides.agree.searchOrder, besides.agree.findUser_eq]
    · intro there found
      rw [besides.changed.searchOrder, besides.changed.findUser_eq] at found
      exact besides.agree.account?_eq there request.authname
        (vouched home own needed _ (findEntry?_eq_some_iff.2 ⟨found, rfl⟩))
  changes oldPassword besides own := besides.agree.decideChange_eq (apart _ own) oldPassword
  replaces := by
    rintro d d' home password ⟨agree, changed, changed'⟩ rfl _
    exact ⟨agree.setAccountPassword _ _ _, changed.trans (.of_setAccountPassword _ _ _ d),
      changed'.trans (.of_setAccountPassword _ _ _ d')⟩

end Directory.Memory

open Directory.Memory

/-! ## Calls of the library -/

/-- A call of the library that reports how it ended, with the host and the answers that it meets. -/
structure Commission where
  settings : Settings
  programName : String
  form : Form
  host : Host.Scripted
  answers : List Answer

namespace Commission

variable (commission : Commission) (d : Memory)

/-- The world in which the call is made at a directory. -/
def world : World Memory Host.Scripted where
  directory := d
  host := commission.host
  answers := commission.answers

/-- The status that the call returns, or its failure, and the world after it. -/
def carryOut : Except Failure Status × World Memory Host.Scripted :=
  changePassword commission.settings commission.programName commission.form (commission.world d)

/-- The directory after the call. -/
def leave : Memory :=
  (commission.carryOut d).2.directory

def changer : Changer :=
  ⟨commission.settings, commission.host.privileged⟩

/-- The request that the call makes, if there is a user on the form. -/
def request? : Option Request :=
  if Text.isBlank commission.form.username then none else commission.form.submit.toOption

/-- The entry that the call resolves to in a default session. -/
def target? : Option Entry := do
  let request ← commission.request?
  let names ← d.reach? request.location
  d.findEntry? request.username names

/-- The entry whose password the call has to prove, if it has to prove one. -/
def voucher? : Option Entry := do
  let request ← commission.request?
  let target ← commission.target? d
  if commission.changer.needsAuthentication (.named target.node) then
    d.findEntry? request.authname (target.node :: d.searchOrder)
  else none

end Commission

/-- The calls resolve to different entries, and neither authenticates against the target of the
other. -/
structure Independent (a b : Commission) (d : Memory) : Prop where
  targets (entry : Entry) : a.target? d = some entry → b.target? d ≠ some entry
  voucher (entry : Entry) : a.voucher? d = some entry → b.target? d ≠ some entry
  voucher' (entry : Entry) : b.voucher? d = some entry → a.target? d ≠ some entry

namespace Commission

variable (commission : Commission) {d d' : Memory} {request : Request}

variable {commission} in
theorem target?_of_found (requested : commission.request? = some request) {names : List String}
    (reach : d.reach? request.location = some names) {home : String}
    (found : d.findUser request.username names = .ok (some home)) :
    commission.target? d = some ⟨home, request.username⟩ := by
  unfold target?
  simp only [requested, reach, Option.bind_eq_bind, Option.bind_some]
  exact findEntry?_eq_some_iff.2 ⟨found, rfl⟩

variable {commission} in
theorem voucher?_of_target (requested : commission.request? = some request) {target : Entry}
    (own : commission.target? d = some target)
    (needed : commission.changer.needsAuthentication (.named target.node) = true) :
    commission.voucher? d = d.findEntry? request.authname (target.node :: d.searchOrder) := by
  unfold voucher?
  simp only [requested, own, Option.bind_eq_bind, Option.bind_some]
  exact if_pos needed

/-- **A call does not notice the password of an entry that it neither resolves to nor authenticates
against.** Nor does it change anything but the password of the entry that it resolves to. -/
theorem carryOut_agree {foreign? : Option Entry} (serves : d.Serves)
    (agree : AgreeBut foreign? d d')
    (apart : ∀ entry, commission.target? d = some entry → foreign? ≠ some entry)
    (vouched : ∀ entry, commission.voucher? d = some entry → foreign? ≠ some entry) :
    sameness.Agree (Besides (commission.target? d) foreign? d d') (commission.world d)
      (commission.carryOut d) (commission.world d') (commission.carryOut d') := by
  have besides : Besides (commission.target? d) foreign? d d' d d' := ⟨agree, .refl _ d, .refl _ d'⟩
  have abreast : sameness.Abreast (Besides (commission.target? d) foreign? d d')
      (commission.world d) (commission.world d') :=
    ⟨besides, rfl, rfl, (Answer.map_rename_identity _).symm⟩
  unfold carryOut
  cases blank : Text.isBlank commission.form.username with
  | true =>
      rw [Errand.changePassword_of_isBlank blank, Errand.changePassword_of_isBlank blank]
      exact ⟨rfl, abreast, .refl _ _⟩
  | false =>
      obtain ⟨request, submitted⟩ := Errand.submit_of_not_isBlank blank
      have requested : commission.request? = some request := by
        unfold request?
        rw [blank, submitted]
        rfl
      obtain ⟨asked, along⟩ := abreast.add [.queried .privileged] (List.forall_mem_singleton.2 rfl)
      rw [Errand.changePassword_of_submit blank submitted,
        Errand.changePassword_of_submit blank submitted]
      have akin : Akin commission.changer request
          (Besides (commission.target? d) foreign? d d') fun home =>
            commission.target? d = some ⟨home, request.username⟩ := by
        refine Besides.akin apart fun home own needed entry found => vouched entry ?_
        rw [voucher?_of_target requested own needed]
        exact found
      have looksUp (names : List String) (reach : d.reach? request.location = some names) :
          LooksUp request.username (fun home => commission.target? d =
            some ⟨home, request.username⟩) names names d d' :=
        ⟨agree.findUser_eq _ _, fun home found => target?_of_found requested reach found⟩
      have ran := akin.run_agree asked serves (agree.serves serves) (agree.reach?_eq _) looksUp
      have reported := ran.reported commission.programName
      exact ⟨reported.result, reported.abreast, along.trans reported.along⟩

/-- A call changes nothing but the password of the entry that it resolves to. -/
theorem agreeBut_leave (serves : d.Serves) :
    AgreeBut (commission.target? d) d (commission.leave d) := by
  have alone := commission.carryOut_agree serves (.refl none d) (fun _ _ => nofun) fun _ _ => nofun
  exact alone.abreast.directory.changed

variable {commission} in
/-- A call that agrees with itself at another directory returns and shows the same there. -/
theorem shows_of_agree {S : Memory → Memory → Prop}
    (agree : sameness.Agree S (commission.world d) (commission.carryOut d) (commission.world d')
      (commission.carryOut d')) :
    (commission.carryOut d').1 = (commission.carryOut d).1 ∧
      (commission.carryOut d').2.journal = (commission.carryOut d).2.journal := by
  obtain ⟨result, _, added, added', grown, grown', same⟩ := agree
  have same : added = added' := same
  rw [grown, grown', same]
  exact ⟨result, rfl⟩

end Commission

/-- **Independent changes commute.** Where the default session can be created, two calls that
resolve to different entries, neither of which authenticates against the target of the other, return
the same in both orders, prompt and write the same, and leave the same passwords behind. -/
theorem independent_changes_commute (a b : Commission) (d : Memory)
    (running : d.daemonRunning = true) (faultless : d.faults.session = none)
    (independent : Independent a b d) :
    ((a.carryOut (b.leave d)).1 = (a.carryOut d).1 ∧
        (a.carryOut (b.leave d)).2.journal = (a.carryOut d).2.journal) ∧
      ((b.carryOut (a.leave d)).1 = (b.carryOut d).1 ∧
        (b.carryOut (a.leave d)).2.journal = (b.carryOut d).2.journal) ∧
      ∀ node user, (b.leave (a.leave d)).passwordOf node user =
        (a.leave (b.leave d)).passwordOf node user := by
  have serves : d.Serves := ⟨running, faultless⟩
  have first := a.carryOut_agree serves (b.agreeBut_leave serves) independent.targets
    independent.voucher
  have second := b.carryOut_agree serves (a.agreeBut_leave serves)
    (fun entry own foreign => independent.targets entry foreign own) independent.voucher'
  refine ⟨Commission.shows_of_agree first, Commission.shows_of_agree second, fun node user => ?_⟩
  have afterA : Besides (a.target? d) (b.target? d) d (b.leave d) (a.leave d)
      (a.leave (b.leave d)) := first.abreast.directory
  have afterB : Besides (b.target? d) (a.target? d) d (a.leave d) (b.leave d)
      (b.leave (a.leave d)) := second.abreast.directory
  have account : (b.leave (a.leave d)).account? node user =
      (a.leave (b.leave d)).account? node user := by
    -- The account is as the first call left it, if that is its target, and else as the second did.
    by_cases own : a.target? d = some ⟨node, user⟩
    · have other := independent.targets _ own
      rw [afterB.changed'.account?_eq node user other, afterA.agree.account?_eq node user other]
    · rw [afterB.agree.account?_eq node user own, afterA.changed'.account?_eq node user own]
  unfold passwordOf
  rw [account]

/-- Alice and bob have accounts in the network, which has an administrator. -/
def sharedNetwork : Memory :=
  let node := "/LDAPv3/ldap.example.com"
  ((Memory.addUser node "alice" "a" false {}).addUser node "bob" "b" false).addUser node
    "ldapadmin" "p" true

/-- Alice changes her own password. -/
def aliceForHerself : Commission where
  settings := {}
  programName := "passwd"
  form := { username := some "alice" }
  host := {}
  answers := [.text "a", .text "new", .text "new"]

/-- The administrator changes the password of bob. -/
def administratorForBob : Commission where
  settings := {}
  programName := "passwd"
  form := { username := some "bob", authname := some "ldapadmin" }
  host := {}
  answers := [.text "p", .text "other", .text "other"]

/-- What alice and the administrator do is independent, and is done in either order. -/
theorem alice_and_administrator_commute :
    let alice := aliceForHerself
    let administrator := administratorForBob
    Independent alice administrator sharedNetwork ∧
      (alice.carryOut (administrator.leave sharedNetwork)).2.journal =
        (alice.carryOut sharedNetwork).2.journal ∧
      (administrator.leave (alice.leave sharedNetwork)).passwordOf "/LDAPv3/ldap.example.com"
        "alice" = some "new" ∧
      (alice.leave (administrator.leave sharedNetwork)).passwordOf "/LDAPv3/ldap.example.com"
        "bob" = some "other" := by
  have target : aliceForHerself.target? sharedNetwork =
      some ⟨"/LDAPv3/ldap.example.com", "alice"⟩ := by decide +kernel
  have target' : administratorForBob.target? sharedNetwork =
      some ⟨"/LDAPv3/ldap.example.com", "bob"⟩ := by decide +kernel
  have voucher : aliceForHerself.voucher? sharedNetwork =
      some ⟨"/LDAPv3/ldap.example.com", "alice"⟩ := by decide +kernel
  have voucher' : administratorForBob.voucher? sharedNetwork =
      some ⟨"/LDAPv3/ldap.example.com", "ldapadmin"⟩ := by decide +kernel
  have independent : Independent aliceForHerself administratorForBob sharedNetwork := by
    constructor <;> intro entry own
    · rw [target] at own
      rw [target', ← own]
      decide
    · rw [voucher] at own
      rw [target', ← own]
      decide
    · rw [voucher'] at own
      rw [target, ← own]
      decide
  obtain ⟨⟨_, shown⟩, _, same⟩ := independent_changes_commute aliceForHerself administratorForBob
    sharedNetwork rfl rfl independent
  refine ⟨independent, shown, by decide +kernel, ?_⟩
  rw [← same]
  decide +kernel

end PasswordChange
