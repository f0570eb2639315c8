import PasswordChange.Proofs.Standing
import PasswordChange.Proofs.Succession

/-!
# The store as the replay of its writes

An account is written when a user is added and when a credential operation on a record that denotes
it succeeds. What is stored is what was written last, and an operation that fails has not happened,
but for the call that it has recorded.

* `Memory.Write` is what an operation writes to an entry, `Memory.writes` are all writes of a
  sequence of operations.
* `Memory.Operation.write?_cases` is the step: an operation makes its write and no other.
* `Memory.Operation.of_error` says what remains of an operation that fails.
* `Memory.store_replays_writes` says of every sequence of operations what is stored.
-/

namespace PasswordChange.Directory.Memory

variable {d : Memory} {node user : String}

/-! ## Writes -/

/-- A password that is written to the entry of a user in a node, with a flag if the entry is put
there with it. -/
structure Write where
  node : String
  user : String
  password : String
  admin? : Option Bool
  deriving DecidableEq, Repr

def Write.isTo (node user : String) (write : Write) : Bool :=
  write.node = node ∧ write.user = user

namespace Operation

/-- The password that a credential operation is to set. -/
def newPassword? : Operation → Option String
  | setCredentials v _ _ _ [_, new, _, _] => (revealed v new).toOption
  | changePassword v _ _ new => (revealed v new).toOption
  | _ => none

/-- What an operation writes: a user who is added, or the new password to the entry that the record
of a credential operation denotes, if the operation succeeds. -/
def write? (d : Memory) : Operation → Option Write
  | addUser node username password admin => some ⟨node, username, password, some admin⟩
  | operation =>
    if (operation.carryOut d).outcome.isOk then do
      let (node, user) ← operation.entry? d
      let password ← operation.newPassword?
      some ⟨node, user, password, none⟩
    else none

/-- The call that an operation has recorded, if it comes that far. -/
def call? (d : Memory) : Operation → Option Call
  | createSession options => some (.createSession options)
  | openNodeByName _ name => some (.openNodeByName name)
  | openNodeByType _ nodeType => some (.openNodeByType nodeType)
  | copyRecord _ recordType name => some (.copyRecord recordType name)
  | setCredentials v _ recordType authType [username, new, authname, old] => do
    let newPassword ← (revealed v new).toOption
    let oldPassword ← (revealed? v old).toOption
    some (.setCredentials recordType authType username newPassword authname oldPassword)
  | changePassword v record old new => do
    let oldPassword ← (revealed? v old).toOption
    let newPassword ← (revealed v new).toOption
    let (_, user) ← (d.recordOf record).toOption
    some (.changePassword user oldPassword newPassword)
  | _ => none

end Operation

/-- What a sequence of operations writes, in order. -/
def writes : List Operation → Memory → List Write
  | [], _ => []
  | operation :: rest, d =>
    (operation.write? d).toList ++ writes rest (operation.carryOut d).state

/-! ## Credential operations -/

/-- A credential operation sets its new password in the entry that its record denotes, and there is
one. Or it fails and changes nothing. Either way it has recorded its call, if it has one. -/
inductive Rewrites (d : Memory) (operation : Operation) : Step Memory Unit → Prop where
  | done {node user password : String} {call : Call} :
    operation.entry? d = some (node, user) → (d.account? node user).isSome = true →
    operation.newPassword? = some password →
    Rewrites d operation (.ok () (d.setAccountPassword node user password) [.called call true])
  | failed {e : Failure} {events : List Event} :
    events = (operation.call? d).toList.map (.called · false) →
    Rewrites d operation (.fail e d events)

theorem rewrites_setCredentials (v : Vault) (record : HandleId) (recordType authType : String)
    (items : List Item) (d : Memory) :
    Rewrites d (.setCredentials v record recordType authType items)
      (setCredentials v record recordType authType items d) := by
  unfold setCredentials
  split
  case h_2 items shape =>
    refine .failed ?_
    unfold Operation.call?
    split <;> first | rfl | simp_all
  case h_1 username new authname old =>
    rcases given : revealed v new with e | newPassword
    · exact .failed (by simp [Operation.call?, given, Except.toOption])
    · rcases proof : revealed? v old with e | oldPassword
      · exact .failed (by simp [Operation.call?, given, proof, Except.toOption])
      · dsimp only
        rcases decided : d.decideCredentials record authType username authname oldPassword with
          e | ⟨node, user⟩
        · exact .failed (by simp [Operation.call?, given, proof, Except.toOption])
        · obtain ⟨authname, rfl, place, permitted, present⟩ := decideCredentials_eq_ok decided
          refine .done ?_ present ?_
          · simp [Operation.entry?, place, Except.toOption]
          · simp [Operation.newPassword?, given, Except.toOption]

/-- A change is favoured only if there is something to change. -/
theorem present_of_decideChange {oldPassword : Option String}
    (decided : d.decideChange node user oldPassword = .ok ()) :
    (d.account? node user).isSome = true := by
  unfold decideChange at decided
  split at decided
  · cases decided
  · obtain ⟨account, there, _⟩ := Failure.bind_eq_ok_iff.1 decided
    rw [accountOf_eq_ok_iff.1 there]
    rfl

theorem rewrites_changePassword (v : Vault) (record : HandleId) (old new : Item) (d : Memory) :
    Rewrites d (.changePassword v record old new) (changePassword v record old new d) := by
  unfold changePassword
  rcases proof : revealed? v old with e | oldPassword
  · exact .failed (by simp [Operation.call?, proof, Except.toOption])
  · rcases given : revealed v new with e | newPassword
    · exact .failed (by simp [Operation.call?, given, proof, Except.toOption])
    · rcases named : d.recordOf record "username" with e | ⟨node, user⟩
      · have missed : (d.recordOf record).toOption = none := by
          rw [d.toOption_recordOf record _ "username", named]
          rfl
        refine .failed ?_
        simp only [Operation.call?, given, proof, missed]
        rfl
      · have place := recordOf_of_key named "node"
        dsimp only
        rcases decided : d.decideChange node user oldPassword with e | _
        · exact .failed (by simp [Operation.call?, given, proof, place, Except.toOption])
        · refine .done ?_ (present_of_decideChange decided) ?_
          · simp [Operation.entry?, place, Except.toOption]
          · simp [Operation.newPassword?, given, Except.toOption]

/-! ## The step -/

/-- Unless it adds a user, an operation writes what it was to set. -/
theorem Operation.write?_eq (operation : Operation)
    (other : ∀ node user password admin, operation ≠ .addUser node user password admin) :
    operation.write? d =
      if (operation.carryOut d).outcome.isOk then do
        let (node, user) ← operation.entry? d
        let password ← operation.newPassword?
        some ⟨node, user, password, none⟩
      else none := by
  cases operation with
  | addUser => exact (other _ _ _ _ rfl).elim
  | _ => rfl

/-- What a credential operation does to the accounts. -/
theorem Rewrites.cases {operation : Operation} {step : Step Memory Unit}
    (rewrites : Rewrites d operation step)
    (carriedOut : operation.carryOut d = step.map fun _ => none)
    (credential : ∀ node user password admin, operation ≠ .addUser node user password admin) :
    (operation.write? d = none ∧ (operation.carryOut d).state = d) ∨
      ∃ node user password, operation.write? d = some ⟨node, user, password, none⟩ ∧
        d.Replaced (operation.carryOut d).state node user password := by
  rw [operation.write?_eq credential, carriedOut]
  cases rewrites with
  | failed => exact Or.inl ⟨rfl, rfl⟩
  | @done node user password _ about present given =>
      refine Or.inr ⟨node, user, password, ?_, replaced_setAccountPassword present password⟩
      rw [about, given]
      rfl

/-- **An operation makes its write and no other**: it is none that writes, it adds a user, or it
replaces a password. -/
theorem Operation.write?_cases (operation : Operation) (d : Memory) :
    (operation.write? d = none ∧
      ∀ n u, (operation.carryOut d).state.account? n u = d.account? n u) ∨
    (∃ node user password admin, operation.write? d = some ⟨node, user, password, some admin⟩ ∧
      (operation.carryOut d).state = d.addUser node user password admin) ∨
    ∃ node user password, operation.write? d = some ⟨node, user, password, none⟩ ∧
      d.Replaced (operation.carryOut d).state node user password := by
  -- An operation that is about no record writes nothing.
  have aside (about : operation.entry? d = none)
      (other : ∀ node user password admin, operation ≠ .addUser node user password admin) :
      operation.write? d = none := by
    rw [operation.write?_eq other, about]
    exact ite_self none
  cases operation with
  | addNode name searchable =>
      exact Or.inl ⟨aside rfl nofun, d.account?_addNode name searchable⟩
  | addUser node user password admin =>
      exact Or.inr (Or.inl ⟨node, user, password, admin, rfl, rfl⟩)
  | configure => exact Or.inl ⟨aside rfl nofun, fun _ _ => rfl⟩
  | undergo deed =>
      exact Or.inl ⟨aside rfl nofun, (lookupFrame.undergo deed d).account?_eq⟩
  | createSession options =>
      exact Or.inl ⟨aside rfl nofun, (lookupFrame.createSession options d).1.account?_eq⟩
  | openNodeByName session name =>
      exact Or.inl ⟨aside rfl nofun, (lookupFrame.openNodeByName session name d).1.account?_eq⟩
  | openNodeByType session nodeType =>
      exact Or.inl
        ⟨aside rfl nofun, (lookupFrame.openNodeByType session nodeType d).1.account?_eq⟩
  | copyRecord node recordType name =>
      exact Or.inl
        ⟨aside rfl nofun, (lookupFrame.copyRecord node recordType name d).1.account?_eq⟩
  | copyValues record attributeName =>
      exact Or.inl
        ⟨aside rfl nofun, (lookupFrame.copyValues record attributeName d).1.account?_eq⟩
  | close handle =>
      exact Or.inl ⟨aside rfl nofun, (lookupFrame.close handle d).1.account?_eq⟩
  | setCredentials v record recordType authType items =>
      rcases (rewrites_setCredentials v record recordType authType items d).cases rfl nofun with
        ⟨none, same⟩ | replaced
      · exact Or.inl ⟨none, fun _ _ => by rw [same]⟩
      · exact Or.inr (Or.inr replaced)
  | changePassword v record old new =>
      rcases (rewrites_changePassword v record old new d).cases rfl nofun with
        ⟨none, same⟩ | replaced
      · exact Or.inl ⟨none, fun _ _ => by rw [same]⟩
      · exact Or.inr (Or.inr replaced)

/-- **An operation that fails changes nothing, and no event remains but its own call.** -/
theorem Operation.of_error {operation : Operation} {e : Failure}
    (failed : (operation.carryOut d).outcome = .error e) :
    (operation.carryOut d).state = d ∧
      (operation.carryOut d).events = (operation.call? d).toList.map (.called · false) := by
  have concluded (call : Call) (decision : Except Failure (Handle Ref))
      (failed : ((d.conclude call decision).map some).outcome = .error e) :
      (d.conclude call decision).state = d ∧
        (d.conclude call decision).events = [.called call false] := by
    cases decision with
    | error => exact ⟨rfl, rfl⟩
    | ok h => cases failed
  have rewritten {step : Step Memory Unit} (rewrites : Rewrites d operation step)
      (failed : (step.map fun _ => (none : Option HandleId)).outcome = .error e) :
      step.state = d ∧ step.events = (operation.call? d).toList.map (.called · false) := by
    cases rewrites with
    | done => cases failed
    | failed events => exact ⟨rfl, events⟩
  cases operation with
  | addNode | addUser | configure | undergo => cases failed
  | createSession | openNodeByName | openNodeByType => exact concluded _ _ failed
  | copyRecord node recordType name =>
      change (d.copyRecord node recordType name).outcome = .error e at failed
      change (d.copyRecord node recordType name).state = d ∧
        (d.copyRecord node recordType name).events = [.called (.copyRecord recordType name) false]
      unfold Memory.copyRecord at failed ⊢
      rcases decided : d.decideRecord node recordType name with _ | _ | h <;>
        simp only [decided] at failed ⊢
      · exact ⟨rfl, rfl⟩
      · cases failed
      · cases failed
  | copyValues record attributeName =>
      change (d.copyValues record attributeName).state = d ∧
        (d.copyValues record attributeName).events = []
      refine ⟨copyValues_state record attributeName d, ?_⟩
      unfold Memory.copyValues
      repeat' split
      all_goals rfl
  | setCredentials v record recordType authType items =>
      exact rewritten (rewrites_setCredentials v record recordType authType items d) failed
  | changePassword v record old new =>
      exact rewritten (rewrites_changePassword v record old new d) failed
  | close handle =>
      change (d.close handle).outcome.map _ = .error e at failed
      rw [(close_eq handle d).1] at failed
      cases failed

/-- An entry that is there stays there. -/
theorem Operation.present_carryOut (operation : Operation)
    (present : (d.account? node user).isSome = true) :
    ((operation.carryOut d).state.account? node user).isSome = true := by
  rcases operation.write?_cases d with
    ⟨_, same⟩ | ⟨n, u, password, admin, _, added⟩ | ⟨n, u, password, _, replaced⟩
  · rw [same]
    exact present
  · rw [added, account?_addUser]
    split
    · rfl
    · exact present
  · rw [replaced.account?_eq]
    split
    · rw [Option.isSome_map]
      exact present
    · exact present

theorem present_replay (operations : List Operation)
    (present : (d.account? node user).isSome = true) :
    ((replay operations d).account? node user).isSome = true := by
  induction operations generalizing d with
  | nil => exact present
  | cons operation rest ih => exact ih (operation.present_carryOut present)

/-! ## The run -/

/-- The writes to one entry. -/
def writesTo (node user : String) (writes : List Write) : List Write :=
  writes.filter (·.isTo node user)

/-- Every password is the one that was written last, and every flag is the one that came with the
last entry that was put there. -/
structure Stores (d : Memory) (writes : List Write) : Prop where
  password (node user : String) :
    d.passwordOf node user = (writesTo node user writes).getLast?.map Write.password
  admin (node user : String) : (d.account? node user).map Account.admin =
    ((writesTo node user writes).filterMap Write.admin?).getLast?

theorem writesTo_append_singleton (writes : List Write) (write : Write) :
    writesTo node user (writes ++ [write]) =
      if write.node = node ∧ write.user = user then writesTo node user writes ++ [write]
      else writesTo node user writes := by
  unfold writesTo Write.isTo
  rw [List.filter_append]
  by_cases about : write.node = node ∧ write.user = user <;> simp [about]

/-- One more write is stored if its entry has the password and the flag that came with it, or else
the flag that it had before. -/
theorem Stores.write {d' : Memory} {writes : List Write} (stores : d.Stores writes) {write : Write}
    (admin : Bool) (written : d'.account? write.node write.user = some ⟨write.password, admin⟩)
    (flag : write.admin?.or ((d.account? write.node write.user).map Account.admin) = some admin)
    (others : ∀ n u, ¬ (write.node = n ∧ write.user = u) → d'.account? n u = d.account? n u) :
    d'.Stores (writes ++ [write]) where
  password node user := by
    rw [writesTo_append_singleton]
    split
    next about =>
      obtain ⟨rfl, rfl⟩ := about
      rw [passwordOf, written, List.getLast?_concat]
      rfl
    next other =>
      rw [passwordOf, others node user other]
      exact stores.password node user
  admin node user := by
    rw [writesTo_append_singleton]
    split
    next about =>
      obtain ⟨rfl, rfl⟩ := about
      rw [stores.admin] at flag
      rw [written, List.filterMap_append, List.getLast?_append]
      cases given : write.admin? <;> rw [given] at flag <;> simpa [given] using flag.symm
    next other =>
      rw [others node user other]
      exact stores.admin node user

/-- **What is stored after an operation is what was stored before and its write.** -/
theorem Stores.step {writes : List Write} (stores : d.Stores writes) (operation : Operation) :
    (operation.carryOut d).state.Stores (writes ++ (operation.write? d).toList) := by
  rcases operation.write?_cases d with
    ⟨none, same⟩ | ⟨n, u, password, admin, written, added⟩ | ⟨n, u, password, written, replaced⟩
  · rw [none, Option.toList_none, List.append_nil]
    constructor <;> intro node user
    · rw [passwordOf, same]
      exact stores.password node user
    · rw [same]
      exact stores.admin node user
  · rw [written, added]
    refine stores.write admin ?_ rfl fun n' u' other => ?_
    · exact (account?_addUser ..).trans (if_pos ⟨rfl, rfl⟩)
    · exact (account?_addUser ..).trans (if_neg other)
  · rw [written]
    obtain ⟨account, there⟩ := Option.isSome_iff_exists.1 replaced.present
    refine stores.write account.admin ?_ ?_ fun n' u' other => ?_
    · rw [replaced.account?_eq, if_pos ⟨rfl, rfl⟩, there]
      rfl
    · rw [there]
      rfl
    · rw [replaced.account?_eq, if_neg other]

/-- What a sequence of operations has written is stored. -/
theorem Stores.run {before : List Write} (stores : d.Stores before) (operations : List Operation) :
    (replay operations d).Stores (before ++ writes operations d) := by
  induction operations generalizing d before with
  | nil =>
      rw [writes, List.append_nil]
      exact stores
  | cons operation rest ih =>
      rw [writes, ← List.append_assoc]
      exact ih (stores.step operation)

/-- In a new directory nothing is stored. -/
theorem stores_fresh (daemonRunning : Bool) (localRoot : String) :
    Stores { daemonRunning, localRoot } [] :=
  ⟨fun _ _ => rfl, fun _ _ => rfl⟩

/-- **The store is the replay of its writes**: whatever is done to a new directory, every password
is the one that was written last, by adding the user or by a credential operation that succeeded on
a record of the entry, and flags come with added users only. No entry disappears, and a record
denotes its entry until its handle is closed. An operation that fails changes nothing, and has at
most recorded its call. -/
theorem store_replays_writes (daemonRunning : Bool) (localRoot : String)
    (operations : List Operation) :
    let fresh : Memory := { daemonRunning, localRoot }
    let d := replay operations fresh
    d.Stores (writes operations fresh) ∧
    (∀ node user, (d.account? node user).isSome = true →
      ∀ later, ((replay later d).account? node user).isSome = true) ∧
    (∀ record node user, d.recordOf record = .ok (node, user) →
      ∀ later, (replay later d).recordOf record = .ok (node, user) ∨
        .close record ∈ later ∧
          ∃ kind, (replay later d).recordOf record = .error (.handleClosed kind)) ∧
    ∀ (operation : Operation) e, (operation.carryOut d).outcome = .error e →
      (operation.carryOut d).state = d ∧
      (operation.carryOut d).events = (operation.call? d).toList.map (.called · false) := by
  intro fresh d
  refine ⟨(stores_fresh daemonRunning localRoot).run operations,
    fun node user present later => present_replay later present, ?_,
    fun operation e failed => Operation.of_error failed⟩
  intro record node user denotes later
  obtain ⟨kind, holds⟩ := holds_of_recordOf denotes
  rcases holds.stays later with same | ⟨member, shut⟩
  · exact Or.inl same.recordOf_eq
  · refine Or.inr ⟨member, kind, ?_⟩
    unfold recordOf
    rw [shut]
    rfl

end PasswordChange.Directory.Memory
