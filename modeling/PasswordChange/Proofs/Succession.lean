import PasswordChange.Proofs.Entitlement
import PasswordChange.Proofs.Operation

/-!
# The succession of passwords

Clients that prove the password of an account before they replace it do not overwrite each other's
changes, however their operations are interleaved. Both commits that ask for a proof, the change of
a password and the setting of one by its own user, compare the old password with that of the entry
which they write.

* `Memory.Operation.commit?` is what an operation commits on an entry.
* `Memory.Operation.commit?_cases` is the step: a commit gave the stored password and replaced it,
  and every other operation leaves it alone.
* `Memory.commits_succeed_one_another` says so of every sequence of operations.
-/

namespace PasswordChange

namespace Directory

/-- The passwords with which an operation replaced a password. -/
structure Commit where
  old : Option String
  new : String
  deriving DecidableEq, Repr

/-- The passwords that a credential call was made with. -/
def Call.commit? : Call → Option Commit
  | setCredentials _ _ _ newPassword _ oldPassword => some ⟨oldPassword, newPassword⟩
  | changePassword _ oldPassword newPassword => some ⟨oldPassword, newPassword⟩
  | createSession _ | openNodeByName _ | openNodeByType _ | copyRecord .. => none

end Directory

/-- The passwords of a recorded credential call. -/
def Event.commit? : Event → Option Directory.Commit
  | called call _ => call.commit?
  | _ => none

namespace Directory.Memory

variable {d : Memory} {node user stored : String}

namespace Operation

/-- The entry that a credential operation is about: the one that its record denotes. -/
def entry? (d : Memory) : Operation → Option (String × String)
  | setCredentials _ record .. | changePassword _ record .. => (d.recordOf record).toOption
  | _ => none

/-- What an operation commits on the entry of a user in a node, if it succeeds. -/
def commit? (node user : String) (d : Memory) (operation : Operation) : Option Commit :=
  let step := operation.carryOut d
  if operation.entry? d = some (node, user) ∧ step.outcome.isOk = true then
    step.events.findSome? Event.commit?
  else none

/-- The operation replaces the password of the entry only on proof of the present one: it does not
put a new entry in its place, a change gives an old password, and credentials name the record's user
as the user and as the authenticator. -/
def AsksForProof (node user : String) (d : Memory) : Operation → Prop
  | addUser other username _ _ => ¬ (other = node ∧ username = user)
  | setCredentials _ record _ _ items =>
    d.recordOf record = .ok (node, user) → ∃ new old, items = [.text user, new, .text user, old]
  | changePassword _ record old _ => d.recordOf record = .ok (node, user) → old ≠ .absent
  | _ => True

end Operation

/-- Every operation of a sequence asks for proof, in the state in which its turn comes. -/
def AllAskForProof (node user : String) : List Operation → Memory → Prop
  | [], _ => True
  | operation :: rest, d =>
    operation.AsksForProof node user d ∧ AllAskForProof node user rest (operation.carryOut d).state

/-- What a sequence of operations commits on an entry, in order. -/
def commits (node user : String) : List Operation → Memory → List Commit
  | [], _ => []
  | operation :: rest, d =>
    (operation.commit? node user d).toList ++ commits node user rest (operation.carryOut d).state

/-! ## Credential operations -/

/-- A credential operation that succeeds records its call and replaces the password of the entry
that its record denotes, given a proof; one that fails changes nothing. -/
inductive Commits (d : Memory) (record : HandleId) (proof : String → String → Commit → Prop) :
    Step Memory Unit → Prop where
  | done {node user : String} {call : Call} {old : Option String} {new : String} :
    d.recordOf record = .ok (node, user) → call.commit? = some ⟨old, new⟩ →
    proof node user ⟨old, new⟩ →
    Commits d record proof (.ok () (d.setAccountPassword node user new) [.called call true])
  | failed {e : Failure} {events : List Event} : Commits d record proof (.fail e d events)

/-- Setting a password with credentials takes the word of the authenticator. -/
theorem commits_setCredentials (v : Vault) (record : HandleId) (recordType authType : String)
    (items : List Item) (d : Memory) :
    Commits d record (fun node _ commit => ∃ username new authname old home account,
        items = [username, new, .text authname, old] ∧
        d.authenticator node authname = .ok (some (home, account)) ∧
        commit.old = some account.password)
      (setCredentials v record recordType authType items d) := by
  unfold setCredentials
  split
  case h_2 => exact .failed
  case h_1 username new authname? old =>
    split
    · exact .failed
    · split
      · exact .failed
      · dsimp only
        split
        · exact .failed
        next decided =>
          obtain ⟨authname, rfl, place, permitted, _⟩ := decideCredentials_eq_ok decided
          obtain ⟨home, account, vouching, verified, _⟩ := permitted_by permitted
          exact .done place rfl
            ⟨username, new, authname, old, home, account, rfl, vouching, verified⟩

/-- A change is favoured only if the old password, if it is given, is the stored one. -/
theorem passwordOf_of_decideChange {old : String}
    (decided : d.decideChange node user (some old) = .ok ()) :
    d.passwordOf node user = some old := by
  unfold decideChange at decided
  split at decided
  · cases decided
  · obtain ⟨account, there, rest⟩ := Failure.bind_eq_ok_iff.1 decided
    dsimp only at rest
    split at rest
    · cases rest
    next same =>
      unfold passwordOf
      rw [accountOf_eq_ok_iff.1 there, ← Decidable.not_not.1 same]
      rfl

/-- An item that is not absent reveals a text, if anything. -/
theorem revealed?_ne_none {v : Vault} {item : Item} (given : item ≠ .absent) :
    revealed? v item ≠ .ok none := by
  intro same
  cases item with
  | absent => exact given rfl
  | text => cases same
  | secret id =>
      change (v.reveal id).map some = .ok none at same
      cases read : v.reveal id <;> rw [read] at same <;> cases same

/-- Changing a password compares the old one, if it is given, with the stored one. -/
theorem commits_changePassword (v : Vault) (record : HandleId) (old new : Item) (d : Memory) :
    Commits d record (fun node user commit => old ≠ .absent → commit.old = d.passwordOf node user)
      (changePassword v record old new d) := by
  unfold changePassword
  split
  · exact .failed
  next oldPassword proof =>
    split
    · exact .failed
    · split
      · exact .failed
      next node user place =>
        dsimp only
        split
        · exact .failed
        next decided =>
          refine .done (recordOf_of_key place _) rfl ?_
          intro given
          cases oldPassword with
          | none => exact absurd proof (revealed?_ne_none given)
          | some old => exact (passwordOf_of_decideChange decided).symm

/-! ## The step -/

theorem passwordOf_setAccountPassword (present : d.passwordOf node user = some stored)
    (n u password : String) : (d.setAccountPassword n u password).passwordOf node user =
      some (if n = node ∧ u = user then password else stored) := by
  unfold passwordOf at present ⊢
  obtain ⟨account, there, rfl⟩ := Option.map_eq_some_iff.1 present
  rw [account?_setAccountPassword, there]
  split <;> rfl

/-- A credential operation that proves the stored password has replaced it, or did not succeed on
the entry and left its password alone. -/
theorem Commits.cases {operation : Operation} {record : HandleId} {step : Step Memory Unit}
    {proof : String → String → Commit → Prop} (commits : Commits d record proof step)
    (carriedOut : operation.carryOut d = step.map fun _ => none)
    (about : operation.entry? d = (d.recordOf record).toOption)
    (present : d.passwordOf node user = some stored)
    (proved : d.recordOf record = .ok (node, user) → ∀ commit, proof node user commit →
      commit.old = some stored) :
    (∃ new, operation.commit? node user d = some ⟨some stored, new⟩ ∧
      (operation.carryOut d).state.passwordOf node user = some new) ∨
    operation.commit? node user d = none ∧
      (operation.carryOut d).state.passwordOf node user = some stored := by
  unfold Operation.commit?
  rw [carriedOut, about]
  cases commits with
  | failed =>
      refine Or.inr ⟨if_neg ?_, present⟩
      rintro ⟨_, succeeded⟩
      cases succeeded
  | @done n u call old new place recorded proof =>
      have after := passwordOf_setAccountPassword present n u new
      by_cases same : n = node ∧ u = user
      · obtain ⟨rfl, rfl⟩ := same
        have given : old = some stored := proved place _ proof
        rw [if_pos ⟨rfl, rfl⟩] at after
        refine Or.inl ⟨new, ?_, after⟩
        rw [place, if_pos ⟨rfl, rfl⟩, ← given]
        simp only [Step.map, Step.ok, List.findSome?_cons, Event.commit?, recorded]
      · rw [if_neg same] at after
        refine Or.inr ⟨if_neg ?_, after⟩
        rintro ⟨about, _⟩
        rw [place] at about
        cases about
        exact same ⟨rfl, rfl⟩

/-- **An operation that asks for proof and commits on the entry gave the stored password and
replaced it; without a commit the stored password stays.** -/
theorem Operation.commit?_cases {operation : Operation}
    (present : d.passwordOf node user = some stored)
    (asks : operation.AsksForProof node user d) :
    (∃ new, operation.commit? node user d = some ⟨some stored, new⟩ ∧
      (operation.carryOut d).state.passwordOf node user = some new) ∨
    operation.commit? node user d = none ∧
      (operation.carryOut d).state.passwordOf node user = some stored := by
  -- An operation that is about no record commits nothing, and has only to keep the entry.
  have aside (about : operation.entry? d = none)
      (kept : (operation.carryOut d).state.account? node user = d.account? node user) :
      operation.commit? node user d = none ∧
        (operation.carryOut d).state.passwordOf node user = some stored := by
    constructor
    · unfold commit?
      rw [about]
      exact if_neg fun succeeded => by cases succeeded.1
    · unfold passwordOf
      rw [kept]
      exact present
  cases operation with
  | addNode name searchable => exact Or.inr (aside rfl (d.account?_addNode name searchable _ _))
  | addUser other username password admin =>
      refine Or.inr (aside rfl ((d.account?_addUser other username password admin _ _).trans ?_))
      exact if_neg asks
  | configure => exact Or.inr (aside rfl rfl)
  | undergo deed => exact Or.inr (aside rfl ((lookupFrame.undergo deed d).account?_eq _ _))
  | createSession options =>
      exact Or.inr (aside rfl ((lookupFrame.createSession options d).1.account?_eq _ _))
  | openNodeByName session name =>
      exact Or.inr (aside rfl ((lookupFrame.openNodeByName session name d).1.account?_eq _ _))
  | openNodeByType session nodeType =>
      exact Or.inr (aside rfl ((lookupFrame.openNodeByType session nodeType d).1.account?_eq _ _))
  | copyRecord node recordType name =>
      exact Or.inr (aside rfl ((lookupFrame.copyRecord node recordType name d).1.account?_eq _ _))
  | copyValues record attributeName =>
      exact Or.inr (aside rfl ((lookupFrame.copyValues record attributeName d).1.account?_eq _ _))
  | close handle => exact Or.inr (aside rfl ((lookupFrame.close handle d).1.account?_eq _ _))
  | setCredentials v record recordType authType items =>
      refine (commits_setCredentials v record recordType authType items d).cases rfl rfl present ?_
      rintro place commit ⟨username, new, authname, old, home, account, given, vouching, verified⟩
      obtain ⟨new', old', named⟩ := asks place
      rw [named] at given
      cases given
      -- The user's own entry vouches, since the record's node is asked first.
      obtain ⟨own, there, rfl⟩ := Option.map_eq_some_iff.1 present
      rw [authenticator_of_present there] at vouching
      cases vouching
      exact verified
  | changePassword v record old new =>
      refine (commits_changePassword v record old new d).cases rfl rfl present ?_
      intro place commit compared
      rw [compared (asks place), present]

/-! ## The run -/

/-- The first commit gave the password `stored`, and every later one the password that the commit
before it had set. -/
def Succeed (stored : String) : List Commit → Prop
  | [] => True
  | commit :: rest => commit.old = some stored ∧ Succeed commit.new rest

/-- The password after the commits. -/
def lastPassword (stored : String) (commits : List Commit) : String :=
  (commits.getLast?.map Commit.new).getD stored

theorem lastPassword_cons (stored : String) (commit : Commit) (rest : List Commit) :
    lastPassword stored (commit :: rest) = lastPassword commit.new rest := by
  unfold lastPassword
  rw [List.getLast?_cons]
  cases rest.getLast? <;> rfl

/-- The commits of a sequence that asks for proof succeed one another, and the password of the last
one is stored in the end. -/
theorem succeed_commits {operations : List Operation}
    (present : d.passwordOf node user = some stored)
    (asks : AllAskForProof node user operations d) :
    Succeed stored (commits node user operations d) ∧
      (replay operations d).passwordOf node user =
        some (lastPassword stored (commits node user operations d)) := by
  induction operations generalizing d stored with
  | nil => exact ⟨trivial, present⟩
  | cons operation rest ih =>
      obtain ⟨here, later⟩ := asks
      rw [replay_cons, commits]
      rcases Operation.commit?_cases present here with ⟨new, committed, after⟩ | ⟨none, after⟩
      · obtain ⟨chain, last⟩ := ih after later
        rw [committed]
        refine ⟨⟨rfl, chain⟩, ?_⟩
        rw [last]
        exact congrArg some (lastPassword_cons stored ⟨some stored, new⟩ _).symm
      · obtain ⟨chain, last⟩ := ih after later
        rw [none]
        exact ⟨chain, last⟩

/-- What is asked of a sequence is asked of each of its parts. -/
theorem AllAskForProof.append {early late : List Operation}
    (asks : AllAskForProof node user (early ++ late) d) :
    AllAskForProof node user early d ∧ AllAskForProof node user late (replay early d) := by
  induction early generalizing d with
  | nil => exact ⟨trivial, asks⟩
  | cons operation rest ih =>
      obtain ⟨here, later⟩ := asks
      obtain ⟨first, second⟩ := ih later
      exact ⟨⟨here, first⟩, second⟩

/-- **However the operations of any number of clients are interleaved, no update of an entry is
lost**: the commits on it succeed one another, the password of the last one is stored in the end,
and each of them gave the password that was stored just before it. -/
theorem commits_succeed_one_another {operations : List Operation}
    (present : d.passwordOf node user = some stored)
    (asks : AllAskForProof node user operations d) :
    Succeed stored (commits node user operations d) ∧
    (replay operations d).passwordOf node user =
      some (lastPassword stored (commits node user operations d)) ∧
    ∀ early operation late commit, operations = early ++ operation :: late →
      operation.commit? node user (replay early d) = some commit →
      commit.old = (replay early d).passwordOf node user := by
  obtain ⟨chain, last⟩ := succeed_commits present asks
  refine ⟨chain, last, ?_⟩
  rintro early operation late commit rfl committed
  obtain ⟨before, asked, _⟩ := asks.append
  have now := (succeed_commits present before).2
  rcases Operation.commit?_cases now asked with ⟨new, this, _⟩ | ⟨none, _⟩
  · rw [committed] at this
    cases this
    exact now.symm
  · rw [committed] at none
    cases none

/-! ## Two clients -/

/-- A directory with one account. -/
def household : Memory :=
  Memory.addUser "/Local/Default" "alice" "a" false {}

/-- The secrets with the texts `a`, `b` and `c`. -/
def passwords : Vault :=
  (((Vault.empty.issue "a").2.issue "b").2.issue "c").2

/-- Two clients open the same record; both change its password from `a`, and then one of them sets
it to `c` with the password `b` that the other one has set. -/
def rivalry : List Operation :=
  [.createSession [], .createSession [],
    .openNodeByType ⟨0⟩ authenticationNode, .openNodeByName ⟨1⟩ "/Local/Default",
    .copyRecord ⟨2⟩ userRecords "alice", .copyRecord ⟨3⟩ userRecords "alice",
    .changePassword passwords ⟨4⟩ (.secret ⟨0⟩) (.secret ⟨1⟩),
    .changePassword passwords ⟨5⟩ (.secret ⟨0⟩) (.secret ⟨2⟩), .close ⟨4⟩,
    .setCredentials passwords ⟨5⟩ userRecords setPassword
      [.text "alice", .secret ⟨2⟩, .text "alice", .secret ⟨1⟩]]

/-- Of two changes from the same password only one is a commit, and a later one succeeds it. -/
theorem rivalry_commits :
    commits "/Local/Default" "alice" rivalry household = [⟨some "a", "b"⟩, ⟨some "b", "c"⟩] ∧
    Succeed "a" (commits "/Local/Default" "alice" rivalry household) ∧
    (replay rivalry household).passwordOf "/Local/Default" "alice" = some "c" ∧
    ∀ early operation late commit, rivalry = early ++ operation :: late →
      operation.commit? "/Local/Default" "alice" (replay early household) = some commit →
      commit.old = (replay early household).passwordOf "/Local/Default" "alice" := by
  have present : household.passwordOf "/Local/Default" "alice" = some "a" := rfl
  have asks : AllAskForProof "/Local/Default" "alice" rivalry household :=
    ⟨trivial, trivial, trivial, trivial, trivial, trivial, (fun _ => nofun), (fun _ => nofun),
      trivial, fun _ => ⟨_, _, rfl⟩, trivial⟩
  have both : commits "/Local/Default" "alice" rivalry household =
      [⟨some "a", "b"⟩, ⟨some "b", "c"⟩] := rfl
  obtain ⟨chain, last, each⟩ := commits_succeed_one_another present asks
  refine ⟨both, chain, ?_, each⟩
  rw [last, both]
  rfl

end Directory.Memory

end PasswordChange
