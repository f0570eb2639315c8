import PasswordChange.Proofs.Decided

/-!
# Credential operations on a directory in memory

What the credential operations of a directory in memory decide, and what they do.

* `Memory.Vouches` says, without the search, whose account vouches for a change of a record;
  `decideAuthenticator_eq_ok_iff` says that the authenticators who vouch are those that are
  accepted.
* `Memory.setCredentials_eq` and `Memory.changePassword_eq` say what the operations do to a
  record that is there: they replace one password if they are permitted, and else nothing.
* `Memory.Replaced` is the frame of a replacement.
-/

namespace PasswordChange.Directory.Memory

variable {d d' : Memory} {node user username authname home : String}

/-! ## Accounts -/

theorem account?_eq_none_of_not_has (absent : d.nodes.has node = false) (user : String) :
    d.account? node user = none := by
  have missing : d.nodes.get? node = none := by
    simpa [Table.has] using absent
  simp [account?, accounts, missing]

theorem account?_of_get? {accounts : Table Account} (known : d.nodes.get? node = some accounts)
    (user : String) : d.account? node user = accounts.get? user := by
  simp [account?, Memory.accounts, known]

/-- An account that is there can be looked up in its node. -/
theorem accountOf_eq_ok_iff {account : Account} :
    d.accountOf node user = .ok account ↔ d.account? node user = some account := by
  unfold accountOf
  rcases known : d.nodes.get? node with _ | accounts
  · simp [account?, Memory.accounts, known]
  · rw [account?_of_get? known]
    dsimp only
    cases accounts.get? user <;> simp

/-! ## The authenticator -/

/-- The account of the authenticator of a change in the node: the one in the node itself or, if
there is none, the one in the first node of the search that has one. -/
def voucher? (d : Memory) (node authname : String) : Option Account :=
  (d.account? node authname).or (d.searchOrder.findSome? (d.account? · authname))

/-- The search ends with the first node that has the user. -/
theorem findSome?_of_findUser {names : List String} {found : Option String}
    (ended : d.findUser user names = .ok found) :
    names.findSome? (d.account? · user) = found.bind (d.account? · user) := by
  induction names with
  | nil =>
      cases ended
      rfl
  | cons name rest ih =>
      unfold findUser at ended
      split at ended
      · cases ended
      next accounts known =>
        have here := account?_of_get? known user
        rw [List.findSome?_cons, here]
        split at ended
        next present =>
          cases ended
          obtain ⟨account, get⟩ := Option.isSome_iff_exists.1 present
          rw [get, Option.bind_some, here, get]
        next absent =>
          have none : accounts.get? user = none := by
            simpa [Table.has] using absent
          rw [none]
          exact ih ended

/-- The search ends, in one way or the other, where every node is known. -/
theorem findUser_isOk {names : List String} (known : ∀ name ∈ names, d.nodes.has name = true)
    (user : String) : ∃ found, d.findUser user names = .ok found := by
  induction names with
  | nil => exact ⟨none, rfl⟩
  | cons name rest ih =>
      obtain ⟨here, others⟩ := List.forall_mem_cons.1 known
      obtain ⟨accounts, get⟩ := Option.isSome_iff_exists.1 here
      unfold findUser
      rw [get]
      dsimp only
      split
      · exact ⟨_, rfl⟩
      · exact ih others

/-- Nodes that are known can be looked through. -/
theorem lookThrough_eq {names : List String} (known : ∀ name ∈ names, d.nodes.has name = true) :
    d.lookThrough names = .ok () := by
  induction names with
  | nil => rfl
  | cons name rest ih =>
      obtain ⟨here, others⟩ := List.forall_mem_cons.1 known
      obtain ⟨accounts, get⟩ := Option.isSome_iff_exists.1 here
      unfold lookThrough
      rw [get]
      exact ih others

/-- Whoever is found to vouch for a change is the one who does. -/
theorem voucher?_of_authenticator {found : Option (String × Account)}
    (ended : d.authenticator node authname = .ok found) :
    d.voucher? node authname = found.map Prod.snd := by
  unfold authenticator at ended
  split at ended
  · cases ended
  next accounts known =>
    have here := account?_of_get? known authname
    unfold voucher?
    split at ended
    next own present =>
      cases ended
      rw [here, present]
      rfl
    next absent =>
      rw [here, absent, Option.none_or]
      rcases search : d.findUser authname d.searchOrder with _ | first <;> rw [search] at ended
      · cases ended
      · rw [findSome?_of_findUser search]
        cases first with
        | none =>
            cases ended
            rfl
        | some home =>
            cases ended
            simp only [Option.bind_some, Option.map_map, Function.comp_def, Option.map_id']

/-- Somebody is found to vouch, or nobody, where the node and all nodes of the search are
known. -/
theorem authenticator_isOk (known : d.nodes.has node = true)
    (order : ∀ name ∈ d.searchOrder, d.nodes.has name = true) (authname : String) :
    ∃ found, d.authenticator node authname = .ok found := by
  obtain ⟨accounts, get⟩ := Option.isSome_iff_exists.1 known
  obtain ⟨first, search⟩ := findUser_isOk order authname
  unfold authenticator
  rw [get]
  dsimp only
  split
  · exact ⟨_, rfl⟩
  · rw [search]
    cases first <;> exact ⟨_, rfl⟩

/-- The old password is that of the authenticator, who is the user or an administrator. -/
def Vouches (d : Memory) (node username authname : String) (oldPassword : Option String) : Prop :=
  ∃ account, d.voucher? node authname = some account ∧ oldPassword = some account.password ∧
    (authname = username ∨ account.admin = true)

theorem vouches_of_decideAuthenticator {oldPassword : Option String}
    (permitted : d.decideAuthenticator node authname (.text username) oldPassword = .ok ()) :
    d.Vouches node username authname oldPassword := by
  obtain ⟨found, search, rest⟩ := Failure.bind_eq_ok_iff.1 permitted
  have vouching := voucher?_of_authenticator search
  rcases found with _ | ⟨home, account⟩
  · cases rest
  · refine ⟨account, vouching, ?_⟩
    dsimp only at rest
    split at rest
    · cases rest
    next same =>
      split at rest
      · cases rest
      next entitled =>
        refine ⟨Decidable.not_not.1 same, ?_⟩
        by_cases own : authname = username
        · exact Or.inl own
        · right
          simpa [Ne.symm own] using entitled

/-- **Where the nodes are known, those who vouch are permitted, and nobody else.** -/
theorem decideAuthenticator_eq_ok_iff (known : d.nodes.has node = true)
    (order : ∀ name ∈ d.searchOrder, d.nodes.has name = true) {oldPassword : Option String} :
    d.decideAuthenticator node authname (.text username) oldPassword = .ok () ↔
      d.Vouches node username authname oldPassword := by
  refine ⟨vouches_of_decideAuthenticator, ?_⟩
  rintro ⟨account, vouching, same, entitled⟩
  obtain ⟨found, search⟩ := authenticator_isOk known order authname
  rw [voucher?_of_authenticator search] at vouching
  obtain ⟨⟨home, found⟩, rfl, rfl⟩ := Option.map_eq_some_iff.1 vouching
  have mayChange : (decide ((Item.text username) ≠ .text authname) && !found.admin) = false := by
    rcases entitled with rfl | admin
    · simp
    · have : found.admin = true := admin
      simp [this]
  refine Failure.bind_eq_ok_iff.2 ⟨_, search, ?_⟩
  dsimp only
  rw [if_neg (not_not_intro same), if_neg (by rw [mayChange]; exact Bool.false_ne_true)]

/-- A search that breaks off is no interruption by the user. -/
theorem findUser_ne_interrupted (user : String) (names : List String) :
    d.findUser user names ≠ .error .interrupted := by
  induction names with
  | nil =>
      intro same
      cases same
  | cons name rest ih =>
      unfold findUser
      split
      · intro same
        cases same
      · split
        · intro same
          cases same
        · exact ih

theorem authenticator_ne_interrupted (node authname : String) :
    d.authenticator node authname ≠ .error .interrupted := by
  unfold authenticator
  split
  · intro same
    cases same
  · split
    · intro same
      cases same
    · rcases search : d.findUser authname d.searchOrder with e | found
      · intro same
        cases same
        exact findUser_ne_interrupted authname d.searchOrder search
      · cases found <;> exact fun same => by cases same

/-- A refusal is no interruption by the user. -/
theorem decideAuthenticator_ne_interrupted (node authname : String) (username : Item)
    (oldPassword : Option String) :
    d.decideAuthenticator node authname username oldPassword ≠ .error .interrupted := by
  unfold decideAuthenticator
  rcases search : d.authenticator node authname with e | found
  · intro same
    cases same
    exact authenticator_ne_interrupted node authname search
  · rcases found with _ | ⟨home, account⟩
    · intro same
      cases same
    · simp only [bind, Except.bind]
      split
      · intro same
        cases same
      · split <;> exact fun same => by cases same

/-! ## Records -/

/-- The handle stands for the record of a user, who has an account in its node. -/
structure Denotes (d : Memory) (record : HandleId) (node user : String) : Prop where
  recordOf : d.recordOf record = .ok (node, user)
  present : (d.account? node user).isSome = true

/-- Whoever is found in a node has an account there. -/
theorem isSome_of_findUser {names : List String}
    (ended : d.findUser user names = .ok (some home)) : (d.account? home user).isSome = true := by
  induction names with
  | nil => cases ended
  | cons name rest ih =>
      unfold findUser at ended
      split at ended
      · cases ended
      next accounts known =>
        split at ended
        next present =>
          cases ended
          rw [account?_of_get? known]
          exact present
        next absent => exact ih ended

/-- The record that a lookup gives denotes an account of the user it was asked for. -/
theorem denotes_of_copyRecord {handle record : HandleId}
    (found : (d.copyRecord handle userRecords user).outcome = .ok (some record)) :
    ∃ home, (d.copyRecord handle userRecords user).state.Denotes record home user := by
  unfold copyRecord at found ⊢
  rcases decided : d.decideRecord handle userRecords user with _ | _ | h <;>
    simp only [decided] at found ⊢
  · cases found
  · cases found
  · cases found
    obtain ⟨names, home, _, ended, rfl⟩ := decideRecord_eq_ok decided
    have present : (d.account? home user).isSome = true := isSome_of_findUser ended
    refine ⟨home, ?_, present⟩
    simp only [recordOf, issue, Registry.access, Registry.get?_issue, Handle.access, bind,
      Except.bind, Step.ok, if_true]

/-- The only value of a record's location is the name of its node. -/
theorem copyValues_eq {record : HandleId} (denotes : d.Denotes record node user) :
    d.copyValues record metanodeLocation = .ok [some node] d [] := by
  unfold copyValues
  rw [if_neg (fun differ => differ rfl), denotes.recordOf]

/-! ## Replacing a password -/

/-- The second directory is the first with one password replaced, that of an account which is
there. -/
structure Replaced (d d' : Memory) (node user password : String) : Prop where
  present : (d.account? node user).isSome = true
  account?_eq (n u : String) : d'.account? n u =
    if node = n ∧ user = u then (d.account? n u).map ({ · with password }) else d.account? n u
  nodes : d'.nodes.keys = d.nodes.keys
  users (n : String) : (d'.accounts n).keys = (d.accounts n).keys
  searchOrder : d'.searchOrder = d.searchOrder

theorem has_of_account? (present : (d.account? node user).isSome = true) :
    d.nodes.has node = true := by
  cases known : d.nodes.has node with
  | true => rfl
  | false => simp [account?_eq_none_of_not_has known] at present

theorem mem_keys_of_account? (present : (d.account? node user).isSome = true) :
    user ∈ (d.accounts node).keys :=
  (Table.has_iff_mem_keys _ _).1 present

theorem replaced_setAccountPassword (present : (d.account? node user).isSome = true)
    (password : String) :
    d.Replaced (d.setAccountPassword node user password) node user password where
  present := present
  account?_eq := d.account?_setAccountPassword node user password
  nodes := by
    obtain ⟨account, there⟩ := Option.isSome_iff_exists.1 present
    have node_mem := (Table.has_iff_mem_keys _ _).1 (has_of_account? present)
    simp only [setAccountPassword, there, Table.keys_put, if_pos node_mem]
  users n := by
    obtain ⟨account, there⟩ := Option.isSome_iff_exists.1 present
    have user_mem := mem_keys_of_account? present
    simp only [setAccountPassword, there, accounts, Table.get?_put]
    split
    next same =>
      subst same
      rw [Option.getD_some, Table.keys_put]
      exact if_pos user_mem
    next => rfl
  searchOrder := by
    obtain ⟨nodes, same⟩ := d.setAccountPassword_eq node user password
    rw [same]

theorem handles_setAccountPassword (node user password : String) (d : Memory) :
    (d.setAccountPassword node user password).handles = d.handles := by
  obtain ⟨nodes, same⟩ := d.setAccountPassword_eq node user password
  rw [same]

theorem revealed?_ofSecret? (v : Vault) (s? : Option SecretId) :
    revealed? v (.ofSecret? s?) = v.reveal? s? := by
  cases s? <;> rfl

/-- A secret that has a text is revealed. -/
theorem revealed_of_reveal? {v : Vault} {s? : Option SecretId} {text : String}
    (read : v.reveal? s? = .ok (some text)) : revealed v (.ofSecret? s?) = .ok text := by
  cases s? with
  | none => cases read
  | some s =>
      change (v.reveal s).map some = .ok (some text) at read
      change v.reveal s = .ok text
      rcases given : v.reveal s with _ | revealed <;> rw [given] at read
      · cases read
      · cases read
        rfl

/-- The injected fault of credential operations comes before their decision. -/
def permit (d : Memory) (decision : Except Failure Unit) : Except Failure Unit :=
  match d.faults.commit with
  | some e => .error (.directory e)
  | none => decision

/-- An operation that replaces a password if it is permitted, and else does nothing. -/
def replacing (permission : Except Failure Unit) (call : Call) (node user password : String)
    (d : Memory) : Step Memory Unit :=
  match permission with
  | .ok _ => .ok () (d.setAccountPassword node user password) [.called call true]
  | .error e => .fail e d [.called call false]

/-- **Setting a password with credentials replaces it if the authenticator may do so.** -/
theorem setCredentials_eq {v : Vault} {record : HandleId} {new old : Item} {password : String}
    {oldPassword : Option String} (denotes : d.Denotes record node user)
    (given : revealed v new = .ok password) (proof : revealed? v old = .ok oldPassword)
    (username authname : String) :
    setCredentials v record userRecords setPassword [.text username, new, .text authname, old] d =
      replacing (d.permit (d.decideAuthenticator node authname (.text username) oldPassword))
        (.setCredentials userRecords setPassword (.text username) password (.text authname)
          oldPassword) node user password d := by
  obtain ⟨account, there⟩ := Option.isSome_iff_exists.1 denotes.present
  have found := accountOf_eq_ok_iff.2 there
  unfold setCredentials
  simp only [given, proof, decideCredentials, permit]
  rcases d.faults.commit with _ | fault
  case some => rfl
  case none =>
    simp only [denotes.recordOf, bind, Except.bind, found, replacing]
    rcases d.decideAuthenticator node authname (.text username) oldPassword with _ | _ <;> rfl

/-- Changing a password replaces it if the old one is accepted. -/
theorem changePassword_eq_replacing {v : Vault} {record : HandleId} {old new : Item}
    {password : String} {oldPassword : Option String} (place : d.recordOf record = .ok (node, user))
    (given : revealed v new = .ok password) (proof : revealed? v old = .ok oldPassword) :
    changePassword v record old new d =
      replacing (d.decideChange node user oldPassword) (.changePassword user oldPassword password)
        node user password d := by
  have named := recordOf_of_key place "username"
  unfold changePassword
  simp only [given, proof, named, replacing]
  rcases d.decideChange node user oldPassword with _ | _ <;> rfl

/-- **Changing a password without an old one replaces it.** -/
theorem changePassword_eq {v : Vault} {record : HandleId} {new : Item} {password : String}
    (denotes : d.Denotes record node user) (given : revealed v new = .ok password) :
    changePassword v record .absent new d =
      replacing (d.permit (.ok ())) (.changePassword user none password) node user password d := by
  obtain ⟨account, there⟩ := Option.isSome_iff_exists.1 denotes.present
  have decided : d.decideChange node user none = d.permit (.ok ()) := by
    unfold decideChange permit
    rw [accountOf_eq_ok_iff.2 there]
    rfl
  rw [changePassword_eq_replacing denotes.recordOf given rfl, decided]

/-- A replacement that was permitted is one, and a refused one changes nothing. -/
theorem replacing_cases (permission : Except Failure Unit) (call : Call) (password : String)
    (present : (d.account? node user).isSome = true) :
    (permission = .ok () ∧ (replacing permission call node user password d).outcome = .ok () ∧
      d.Replaced (replacing permission call node user password d).state node user password) ∨
    ∃ e, permission = .error e ∧
      (replacing permission call node user password d).outcome = .error e ∧
      (replacing permission call node user password d).state = d := by
  cases permission with
  | ok _ => exact Or.inl ⟨rfl, rfl, replaced_setAccountPassword present password⟩
  | error e => exact Or.inr ⟨e, rfl, rfl, rfl⟩

theorem permit_eq_ok_iff {decision : Except Failure Unit} :
    d.permit decision = .ok () ↔ d.faults.commit = none ∧ decision = .ok () := by
  unfold permit
  cases d.faults.commit <;> simp

end PasswordChange.Directory.Memory
