import PasswordChange.Proofs.Change
import PasswordChange.Proofs.Reachable

/-!
# Who is entitled to replace a password

A credential operation is told twice whose password to replace: by the record, whose account it
overwrites, and by the name of a user, with which it compares the authenticator's name. An account
that vouches for itself is therefore not asked to be an administrator's, whichever record the
operation is on.

* `Memory.Accepted` says what an accepted operation has done, and which account vouched for it.
* `Memory.Entitled` are the accounts that should be able to vouch, `Memory.PosesAs` is the case in
  which another one does.
* `credential_operations_entitled_iff` says that this is the only such case, for an operation and
  for a commit.
-/

namespace PasswordChange.Directory.Memory

variable {d d' : Memory} {node user authname home : String} {account : Account}

/-- The account that vouches is the one that the authenticator has in the node it was found in. -/
theorem account?_of_authenticator
    (found : d.authenticator node authname = .ok (some (home, account))) :
    d.account? home authname = some account := by
  unfold authenticator at found
  split at found
  · cases found
  next accounts known =>
    split at found
    next own present =>
      cases found
      rw [account?_of_get? known]
      exact present
    next absent =>
      obtain ⟨first, _, rest⟩ := Failure.bind_eq_ok_iff.1 found
      cases first with
      | none => cases rest
      | some name =>
          obtain ⟨own, present, same⟩ := Option.map_eq_some_iff.1 (Except.ok.inj rest)
          cases same
          exact present

/-- Whoever has an account in the record's own node vouches with it. -/
theorem authenticator_of_present (present : d.account? node authname = some account) :
    d.authenticator node authname = .ok (some (node, account)) := by
  have known : d.nodes.has node = true := by
    apply has_of_account?
    rw [present]
    rfl
  obtain ⟨accounts, get⟩ := Option.isSome_iff_exists.1 known
  rw [account?_of_get? get] at present
  unfold authenticator
  rw [get]
  dsimp only
  rw [present]

/-- A permission was given on the word of an account with the old password, which bears the name of
the user or is an administrator's. -/
theorem permitted_by {username : Item} {oldPassword : Option String}
    (permitted : d.decideAuthenticator node authname username oldPassword = .ok ()) :
    ∃ home account, d.authenticator node authname = .ok (some (home, account)) ∧
      oldPassword = some account.password ∧
      (username = .text authname ∨ account.admin = true) := by
  obtain ⟨found, search, rest⟩ := Failure.bind_eq_ok_iff.1 permitted
  rcases found with _ | ⟨home, account⟩
  · cases rest
  dsimp only at rest
  split at rest
  · cases rest
  next same =>
    split at rest
    · cases rest
    next entitled =>
      refine ⟨home, account, search, Decidable.not_not.1 same, ?_⟩
      by_cases own : username = .text authname
      · exact Or.inl own
      · right
        simpa [own] using entitled

/-- An operation on a record was accepted: the password of the account that the record denotes was
replaced, after the account of `authname` in the node `home` had vouched with the old password. -/
structure Accepted (d d' : Memory) (record : HandleId) (authname : String)
    (oldPassword : Option String) (newPassword node user home : String) (account : Account) :
    Prop where
  recordOf : d.recordOf record = .ok (node, user)
  vouching : d.authenticator node authname = .ok (some (home, account))
  entry : d.account? home authname = some account
  verified : oldPassword = some account.password
  replaced : d.Replaced d' node user newPassword

/-- The account that vouches is an administrator's, or the very one whose password is replaced. -/
def Entitled (node user home authname : String) (account : Account) : Prop :=
  account.admin = true ∨ home = node ∧ authname = user

/-- The authenticator, who is no administrator, is named as the user as well, but the record is
another user's. -/
def PosesAs (username : Item) (authname user : String) (account : Account) : Prop :=
  username = .text authname ∧ authname ≠ user ∧ account.admin = false

/-- An accepted operation was vouched for by an account that is entitled, or poses as the user. -/
theorem Accepted.entitled_iff {record : HandleId} {oldPassword : Option String}
    {newPassword : String} {username : Item}
    (accepted : d.Accepted d' record authname oldPassword newPassword node user home account)
    (named : username = .text authname ∨ account.admin = true) :
    Entitled node user home authname account ↔ ¬ PosesAs username authname user account := by
  constructor
  · intro entitled ⟨_, other, plain⟩
    rcases entitled with admin | ⟨_, same⟩
    · rw [plain] at admin
      cases admin
    · exact other same
  · intro honest
    rcases named with own | admin
    · by_cases admin : account.admin = true
      · exact Or.inl admin
      · have same : authname = user := Decidable.byContradiction fun other =>
          honest ⟨own, other, Bool.eq_false_iff.2 admin⟩
        -- The user's own node is searched first, and has the account that the record denotes.
        obtain ⟨target, there⟩ := Option.isSome_iff_exists.1 accepted.replaced.present
        have vouching := accepted.vouching
        rw [same, authenticator_of_present there] at vouching
        cases vouching
        exact Or.inr ⟨rfl, same⟩
    · exact Or.inl admin

variable {v : Vault} {record : HandleId} {recordType authType : String} {items : List Item}

/-- Credentials are accepted for the record that the handle denotes, if its authenticator is. -/
theorem decideCredentials_eq_ok {username authname? : Item} {oldPassword : Option String}
    (decided : d.decideCredentials record authType username authname? oldPassword =
      .ok (node, user)) :
    ∃ authname, authname? = .text authname ∧ d.recordOf record = .ok (node, user) ∧
      d.decideAuthenticator node authname username oldPassword = .ok () ∧
      (d.account? node user).isSome = true := by
  unfold decideCredentials at decided
  split at decided
  · cases decided
  split at decided
  · cases decided
  obtain ⟨_, place, rest⟩ := Failure.bind_eq_ok_iff.1 decided
  cases authname? with
  | absent | secret =>
      obtain ⟨_, _, refused⟩ := Failure.bind_eq_ok_iff.1 rest
      cases refused
  | text authname =>
      obtain ⟨_, permitted, rest⟩ := Failure.bind_eq_ok_iff.1 rest
      obtain ⟨target, there, rest⟩ := Failure.bind_eq_ok_iff.1 rest
      cases rest
      refine ⟨authname, rfl, place, permitted, ?_⟩
      rw [accountOf_eq_ok_iff.1 there]
      rfl

/-- An operation that succeeds was given four items, and an account vouched for it. -/
theorem accepted_of_setCredentials
    (succeeded : (setCredentials v record recordType authType items d).outcome = .ok ()) :
    ∃ username new old newPassword oldPassword authname node user home account,
      items = [username, new, .text authname, old] ∧ revealed v new = .ok newPassword ∧
      revealed? v old = .ok oldPassword ∧
      d.Accepted (setCredentials v record recordType authType items d).state record authname
        oldPassword newPassword node user home account ∧
      (username = .text authname ∨ account.admin = true) := by
  unfold setCredentials at succeeded ⊢
  split at succeeded
  case h_2 => cases succeeded
  case h_1 username new authname? old =>
    split at succeeded
    · cases succeeded
    next newPassword given =>
      split at succeeded
      · cases succeeded
      next oldPassword proof =>
        dsimp only at succeeded
        split at succeeded
        · cases succeeded
        next node user decided =>
          obtain ⟨authname, rfl, place, permitted, present⟩ := decideCredentials_eq_ok decided
          obtain ⟨home, account, vouching, verified, named⟩ := permitted_by permitted
          have replaced := replaced_setAccountPassword present newPassword
          exact ⟨username, new, old, newPassword, oldPassword, authname, node, user, home, account,
            rfl, given, proof, ⟨place, vouching, account?_of_authenticator vouching, verified,
              replaced⟩, named⟩

end PasswordChange.Directory.Memory

namespace PasswordChange

open Directory (Memory)
open Directory.Memory (Entitled PosesAs)

variable {H : Type}

/-- **The account that vouched for an accepted operation is entitled to do so, unless it poses as
the user**: that is, unless it is named as the user too, while the record is another user's and it
is no administrator's. In a commit, an account poses as the user exactly if the request names its
bearer both as the user and as the authenticator. -/
theorem credential_operations_entitled_iff :
    (∀ (d : Memory) (v : Vault) (record : HandleId) (recordType authType : String)
      (items : List Directory.Item),
      (Memory.setCredentials v record recordType authType items d).outcome = .ok () →
      ∃ username new old newPassword oldPassword authname node user home account,
        items = [username, new, .text authname, old] ∧
        Memory.revealed v new = .ok newPassword ∧ Memory.revealed? v old = .ok oldPassword ∧
        d.Accepted (Memory.setCredentials v record recordType authType items d).state record
          authname oldPassword newPassword node user home account ∧
        (Entitled node user home authname account ↔ ¬ PosesAs username authname user account)) ∧
    ∀ (w : World Memory H) (record : HandleId) (request : Request) (old new : Directory.Item),
      (Changer.commit record request true old new w).1 = .ok () →
      ∃ newPassword oldPassword node user home account,
        Memory.revealed w.vault new = .ok newPassword ∧
        Memory.revealed? w.vault old = .ok oldPassword ∧
        w.directory.Accepted (Changer.commit record request true old new w).2.directory record
          request.authname oldPassword newPassword node user home account ∧
        (Entitled node user home request.authname account ↔
          ¬ PosesAs (.text request.username) request.authname user account) := by
  constructor
  · intro d v record recordType authType items succeeded
    obtain ⟨username, new, old, newPassword, oldPassword, authname, node, user, home, account,
      given, fresh, proof, accepted, named⟩ := Memory.accepted_of_setCredentials succeeded
    exact ⟨username, new, old, newPassword, oldPassword, authname, node, user, home, account, given,
      fresh, proof, accepted, accepted.entitled_iff named⟩
  · intro w record request old new succeeded
    rw [Changer.commit_eq] at succeeded ⊢
    have made : (Memory.setCredentials w.vault record Directory.userRecords Directory.setPassword
        [.text request.username, new, .text request.authname, old] w.directory).outcome = .ok () :=
      succeeded
    obtain ⟨_, _, _, newPassword, oldPassword, _, node, user, home, account, given, fresh, proof,
      accepted, named⟩ := Memory.accepted_of_setCredentials made
    cases given
    exact ⟨newPassword, oldPassword, node, user, home, account, fresh, proof, accepted,
      accepted.entitled_iff named⟩

/-! ## A user who poses as another -/

/-- A directory in which a handle on the record of a user was opened, while there is another. -/
def neighbours : Memory :=
  let d : Memory := Memory.addUser "/Local/Default" "bob" "b" false
    (Memory.addUser "/Local/Default" "alice" "a" false {})
  let d := (Memory.createSession [] d).state
  let d := (Memory.openNodeByType ⟨0⟩ Directory.authenticationNode d).state
  (Memory.copyRecord ⟨1⟩ Directory.userRecords "alice" d).state

/-- The new password and bob's password. -/
def bobsSecrets : Vault :=
  ((Vault.empty.issue "new").2.issue "b").2

/-- The operation by which bob, with his own password, replaces that of the record. -/
def bobsOperation : Step Memory Unit :=
  Memory.setCredentials bobsSecrets ⟨2⟩ Directory.userRecords Directory.setPassword
    [.text "bob", .secret ⟨0⟩, .text "bob", .secret ⟨1⟩] neighbours

/-- A user who poses as another needs no more than the own password to replace the other's. -/
theorem bob_replaces_password_of_alice :
    neighbours.Reachable ∧ neighbours.recordOf ⟨2⟩ = .ok ("/Local/Default", "alice") ∧
    bobsOperation.outcome = .ok () ∧
    bobsOperation.state.passwordOf "/Local/Default" "alice" = some "new" ∧
    ∃ account, neighbours.account? "/Local/Default" "bob" = some account ∧
      ¬ Entitled "/Local/Default" "alice" "/Local/Default" "bob" account := by
  have reachable : neighbours.Reachable :=
    .move (.move (.move (.move (.move (.fresh true "/Local/") (.addUser _ _ _ _))
      (.addUser _ _ _ _)) (.createSession [])) (.openNodeByType _ _)) (.copyRecord _ _ _)
  have place : neighbours.recordOf ⟨2⟩ = .ok ("/Local/Default", "alice") := rfl
  have succeeded : bobsOperation.outcome = .ok () := rfl
  obtain ⟨_, _, _, newPassword, _, _, node, user, home, account, given, fresh, _, accepted,
    entitled_iff⟩ := (credential_operations_entitled_iff (H := Host.Scripted)).1 neighbours
      bobsSecrets ⟨2⟩ Directory.userRecords Directory.setPassword _ succeeded
  cases given
  cases place.symm.trans accepted.recordOf
  cases accepted.vouching
  refine ⟨reachable, place, succeeded, rfl, _, accepted.entry, ?_⟩
  intro entitled
  exact entitled_iff.1 entitled ⟨rfl, by decide, rfl⟩

end PasswordChange
