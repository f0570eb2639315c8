import PasswordChange.Proofs.Store
import PasswordChange.Proofs.Tandem

/-!
# Passwords reach nothing but the store

A directory in memory whose passwords are all renamed behaves as before: it treats passwords as
equal or unequal, and otherwise only stores them. With what `Tandem` says of the flow, it follows
that a renaming of all stored and all typed passwords can be seen nowhere but in the store and in
the passwords that the directory was called with.

* `Memory.rename` renames the passwords of a directory, `Event.rename` those in an event.
* `Memory.coupling` relates a directory and the renamed one at the stations of the flow.
* `passwords_reach_only_the_store` is the main result.
-/

namespace PasswordChange

/-! ## Tables with other values -/

namespace Table

variable {α β : Type} (g : α → β) (t : Table α) (key : String)

/-- The same keys, with other values. -/
def mapValues : Table β :=
  t.map fun entry => (entry.1, g entry.2)

@[simp]
theorem keys_mapValues : (t.mapValues g).keys = t.keys := by
  simp [keys, mapValues]

@[simp]
theorem get?_mapValues : (t.mapValues g).get? key = (t.get? key).map g := by
  induction t with
  | nil => rfl
  | cons entry rest ih =>
      unfold mapValues at ih ⊢
      rw [List.map_cons, get?, get?, ih]
      split <;> rfl

@[simp]
theorem has_mapValues : (t.mapValues g).has key = t.has key := by
  simp [has]

theorem put_mapValues (value : α) :
    (t.mapValues g).put key (g value) = (t.put key value).mapValues g := by
  induction t with
  | nil => rfl
  | cons entry rest ih =>
      unfold mapValues at ih ⊢
      rw [List.map_cons, put, put, ih]
      split <;> rfl

end Table

/-! ## Renamed calls and events -/

namespace Directory

variable (f : Renaming)

/-- The passwords of a call are renamed. -/
def Call.rename : Call → Call
  | setCredentials recordType authType username newPassword authname oldPassword =>
    setCredentials recordType authType username (f.text newPassword) authname
      (oldPassword.map f.text)
  | changePassword username oldPassword newPassword =>
    changePassword username (oldPassword.map f.text) (f.text newPassword)
  | call => call

def Account.rename (account : Account) : Account :=
  { account with password := f.text account.password }

end Directory

/-- The passwords that a directory was called with are renamed. -/
def Event.rename (f : Renaming) : Event → Event
  | called call accepted => called (call.rename f) accepted
  | event => event

theorem Event.rename_identity (event : Event) : event.rename .identity = event := by
  have same (old : Option String) : old.map Renaming.identity.text = old := Option.map_id'
  cases event with
  | called call accepted =>
      cases call <;> simp only [rename, Directory.Call.rename, same] <;> rfl
  | _ => rfl

theorem Event.rename_of_isCommon (f : Renaming) {event : Event}
    (isCommon : event.isCommon = true) : event.rename f = event := by
  cases event <;> first | rfl | cases isCommon

namespace Directory.Memory

variable (f : Renaming) (d : Memory)

/-- All stored passwords are renamed. -/
def rename : Memory :=
  { d with nodes := d.nodes.mapValues (Table.mapValues (Account.rename f)) }

theorem rename_identity : d.rename .identity = d := by
  have same : Table.mapValues (Account.rename .identity) = id := by
    funext accounts
    exact List.map_id accounts
  unfold rename
  rw [same]
  exact congrArg (fun nodes => { d with nodes }) (List.map_id d.nodes)

/-- The step of the renamed directory. -/
def renamed {α : Type} (step : Step Memory α) : Step Memory α :=
  ⟨step.outcome, step.state.rename f, step.events.map (Event.rename f)⟩

/-! ## Decisions of the renamed directory -/

theorem visibleNodes_rename (restricted : Bool) :
    (d.rename f).visibleNodes restricted = d.visibleNodes restricted := by
  simp [visibleNodes, rename]

theorem accounts_rename (node : String) :
    (d.rename f).accounts node = (d.accounts node).mapValues (Account.rename f) := by
  simp only [accounts, rename, Table.get?_mapValues]
  cases d.nodes.get? node <;> rfl

theorem account?_rename (node user : String) :
    (d.rename f).account? node user = (d.account? node user).map (Account.rename f) := by
  simp [account?, accounts_rename]

theorem accountOf_rename (node user : String) :
    (d.rename f).accountOf node user = (d.accountOf node user).map (Account.rename f) := by
  simp only [accountOf, rename, Table.get?_mapValues]
  rcases d.nodes.get? node with _ | accounts
  · rfl
  · simp only [Option.map_some, Table.get?_mapValues]
    cases accounts.get? user <;> rfl

theorem findUser_rename (user : String) (names : List String) :
    (d.rename f).findUser user names = d.findUser user names := by
  induction names with
  | nil => rfl
  | cons name rest ih =>
      unfold findUser
      rw [ih]
      simp only [rename, Table.get?_mapValues]
      cases d.nodes.get? name <;> simp

theorem lookThrough_rename (names : List String) :
    (d.rename f).lookThrough names = d.lookThrough names := by
  induction names with
  | nil => rfl
  | cons name rest ih =>
      unfold lookThrough
      rw [ih]
      simp only [rename, Table.get?_mapValues]
      cases d.nodes.get? name <;> rfl

theorem authenticator_rename (node authname : String) :
    (d.rename f).authenticator node authname =
      (d.authenticator node authname).map (Option.map fun found =>
        (found.1, found.2.rename f)) := by
  unfold authenticator
  rw [findUser_rename]
  simp only [account?_rename]
  simp only [rename, Table.get?_mapValues]
  rcases d.nodes.get? node with _ | accounts
  · rfl
  · simp only [Option.map_some, Table.get?_mapValues]
    rcases accounts.get? authname with _ | account
    · rcases d.findUser authname d.searchOrder with _ | _ | name
      · rfl
      · rfl
      · simp only [bind, Except.bind, Option.map_none, Except.map]
        cases d.account? name authname <;> rfl
    · rfl

/-- A password is an account's exactly if it is when both are renamed. -/
theorem map_eq_password_iff (oldPassword : Option String) (account : Account) :
    oldPassword.map f.text = some (account.rename f).password ↔
      oldPassword = some account.password := by
  cases oldPassword <;> simp [Account.rename]

theorem decideAuthenticator_rename (node authname : String) (username : Item)
    (oldPassword : Option String) :
    (d.rename f).decideAuthenticator node authname username (oldPassword.map f.text) =
      d.decideAuthenticator node authname username oldPassword := by
  unfold decideAuthenticator
  rw [authenticator_rename]
  rcases d.authenticator node authname with _ | _ | ⟨home, account⟩
  · rfl
  · rfl
  · simp only [bind, Except.bind, Except.map, Option.map_some, ne_eq, map_eq_password_iff]
    rfl

theorem decideCredentials_rename (record : HandleId) (authType : String)
    (username authname : Item) (oldPassword : Option String) :
    (d.rename f).decideCredentials record authType username authname (oldPassword.map f.text) =
      d.decideCredentials record authType username authname oldPassword := by
  have fault : (d.rename f).faults.commit = d.faults.commit := rfl
  have place : (d.rename f).recordOf record = d.recordOf record := rfl
  have order : (d.rename f).searchOrder = d.searchOrder := rfl
  unfold decideCredentials
  simp only [decideAuthenticator_rename, accountOf_rename, lookThrough_rename, fault, place, order]
  rcases d.faults.commit with _ | e
  case some => rfl
  case none =>
    rcases d.recordOf record with _ | ⟨node, user⟩
    · rfl
    · cases authname with
      | absent | secret => rfl
      | text authname =>
          simp only [bind, Except.bind]
          cases d.accountOf node user <;> rfl

theorem decideChange_rename (node user : String) (oldPassword : Option String) :
    (d.rename f).decideChange node user (oldPassword.map f.text) =
      d.decideChange node user oldPassword := by
  have fault : (d.rename f).faults.commit = d.faults.commit := rfl
  unfold decideChange
  rw [accountOf_rename, fault]
  rcases d.faults.commit with _ | e
  case some => rfl
  case none =>
    rcases d.accountOf node user with _ | account
    · rfl
    · cases oldPassword <;> simp [bind, Except.bind, Except.map, Account.rename]

/-! ## Operations of the renamed directory -/

theorem setAccountPassword_rename (node user password : String) :
    (d.rename f).setAccountPassword node user (f.text password) =
      (d.setAccountPassword node user password).rename f := by
  unfold setAccountPassword
  rw [account?_rename]
  rcases d.account? node user with _ | account
  · rfl
  · simp only [Option.map_some, accounts_rename]
    have stored := Table.put_mapValues (Account.rename f) (d.accounts node) user
      { account with password }
    have placed := Table.put_mapValues (Table.mapValues (Account.rename f)) d.nodes node
      ((d.accounts node).put user { account with password })
    unfold rename
    rw [← placed, ← stored]
    rfl

theorem conclude_rename {call : Call} (decision : Except Failure (Handle Ref))
    (same : call.rename f = call) :
    (d.rename f).conclude call decision = renamed f (d.conclude call decision) := by
  cases decision <;> simp [conclude, renamed, Step.ok, Step.fail, Event.rename, same, issue, rename]

theorem createSession_rename (options : List (String × Value)) :
    (d.rename f).createSession options = renamed f (d.createSession options) :=
  d.conclude_rename f (d.decideSession options) rfl

theorem openNodeByName_rename (session : HandleId) (name : String) :
    (d.rename f).openNodeByName session name = renamed f (d.openNodeByName session name) := by
  have decided : (d.rename f).decideNodeByName session name = d.decideNodeByName session name := by
    simp only [decideNodeByName, visibleNodes_rename]
    rfl
  unfold openNodeByName
  rw [decided]
  exact d.conclude_rename f _ rfl

theorem openNodeByType_rename (session : HandleId) (nodeType : String) :
    (d.rename f).openNodeByType session nodeType =
      renamed f (d.openNodeByType session nodeType) := by
  have decided :
      (d.rename f).decideNodeByType session nodeType = d.decideNodeByType session nodeType := by
    simp only [decideNodeByType, visibleNodes_rename]
    rfl
  unfold openNodeByType
  rw [decided]
  exact d.conclude_rename f _ rfl

theorem copyRecord_rename (node : HandleId) (recordType name : String) :
    (d.rename f).copyRecord node recordType name =
      renamed f (d.copyRecord node recordType name) := by
  have decided :
      (d.rename f).decideRecord node recordType name = d.decideRecord node recordType name := by
    simp only [decideRecord, findUser_rename]
    rfl
  unfold copyRecord
  rw [decided]
  rcases d.decideRecord node recordType name with _ | _ | _ <;> rfl

theorem copyValues_rename (record : HandleId) (attributeName : String) :
    (d.rename f).copyValues record attributeName =
      renamed f (d.copyValues record attributeName) := by
  have place : (d.rename f).recordOf record = d.recordOf record := rfl
  unfold copyValues
  rw [place]
  split
  · rfl
  · rcases d.recordOf record with _ | ⟨node, user⟩ <;> rfl

theorem close_rename (i : HandleId) : (d.rename f).close i = renamed f (d.close i) := by
  have handles : (d.rename f).handles = d.handles := rfl
  unfold close Registry.close Handle.close
  rw [handles]
  rcases d.handles.get? i with _ | ⟨kind, name, _ | ref⟩ <;> rfl

theorem undergo_rename (deed : Deed) : undergo deed (d.rename f) = (undergo deed d).rename f := by
  cases deed <;> rfl

variable {f} {v v' : Vault} {old? new? : Option SecretId} {old : Option String} {new : String}

theorem setCredentials_rename (readOld : f.Reads v v' old? old)
    (readNew : f.Reads v v' new? (some new)) (record : HandleId) (username authname : String) :
    setCredentials v' record userRecords setPassword
        [.text username, .ofSecret? new?, .text authname, .ofSecret? old?] (d.rename f) =
      renamed f (setCredentials v record userRecords setPassword
        [.text username, .ofSecret? new?, .text authname, .ofSecret? old?] d) := by
  have given := revealed_of_reveal? readNew.first
  have given' := revealed_of_reveal? readNew.second
  have proof := (revealed?_ofSecret? v old?).trans readOld.first
  have proof' := (revealed?_ofSecret? v' old?).trans readOld.second
  simp only [setCredentials, given, given', proof, proof', decideCredentials_rename,
    setAccountPassword_rename]
  rcases d.decideCredentials record setPassword (.text username) (.text authname) old with
    _ | ⟨node, user⟩ <;> rfl

theorem changePassword_rename (readOld : f.Reads v v' old? old)
    (readNew : f.Reads v v' new? (some new)) (record : HandleId) :
    changePassword v' record (.ofSecret? old?) (.ofSecret? new?) (d.rename f) =
      renamed f (changePassword v record (.ofSecret? old?) (.ofSecret? new?) d) := by
  have given := revealed_of_reveal? readNew.first
  have given' := revealed_of_reveal? readNew.second
  have proof := (revealed?_ofSecret? v old?).trans readOld.first
  have proof' := (revealed?_ofSecret? v' old?).trans readOld.second
  have place : (d.rename f).recordOf record "username" = d.recordOf record "username" := rfl
  simp only [changePassword, given, given', proof, proof', place, decideChange_rename,
    setAccountPassword_rename]
  rcases d.recordOf record "username" with _ | ⟨node, user⟩
  · rfl
  · dsimp only
    rcases d.decideChange node user old with _ | _ <;> rfl

/-! ## A directory and the renamed one, side by side -/

variable (f)

/-- Errors have to be equal, and events equal up to the renaming. -/
def secrecy : Comparison Memory where
  rename := f
  error := Eq
  events j k := k = j.map (Event.rename f)
  ahead _ := True
  error_refl _ := rfl
  render_eq same programName := by rw [same]
  code_iff same := by rw [same]
  common j isCommon :=
    (List.map_id j).symm.trans (List.map_congr_left fun event member =>
      (Event.rename_of_isCommon f (isCommon event member)).symm)
  append first second := by rw [first, second, List.map_append]

/-- What is said of handles holds, and the second directory is the first one renamed. -/
def Twin (said : Prop) (d₁ d₂ : Memory) : Prop :=
  said ∧ d₂ = d₁.rename f

variable {f} {α : Type} {operation₁ operation₂ : Memory → Step Memory α} {said : Prop}
  {T : α → α → Memory → Memory → Prop}

omit d in
/-- An operation that treats the renamed directory in the same way is in tandem with itself. -/
theorem tandem_of_rename
    (follows : said → ∀ d, operation₂ (d.rename f) = renamed f (operation₁ d))
    (reaches : said → ∀ a d, T a a d (d.rename f)) :
    (secrecy f).Tandem (Twin f said) operation₁ operation₂ T (Twin f said) := by
  rintro d₁ _ ⟨holds, rfl⟩ -
  rw [follows holds]
  unfold renamed
  rcases operation₁ d₁ with ⟨_ | a, d, events⟩
  · exact .fail (.same _) ⟨holds, rfl⟩ rfl
  · exact .ok (reaches holds a d) rfl

omit d in
theorem closes_of_rename {still : Prop} {i₁ i₂ : HandleId} (follows : said → i₂ = i₁)
    (kept : said → still) : (secrecy f).Closes (Twin f said) i₁ i₂ (Twin f still) := by
  rintro d₁ _ ⟨holds, rfl⟩ -
  obtain rfl := follows holds
  have closed : Directory.close i₂ (d₁.rename f) = renamed f (d₁.close i₂) := d₁.close_rename f i₂
  rw [closed]
  exact ⟨(close_eq i₂ d₁).1, (close_eq i₂ d₁).1, ⟨kept holds, rfl⟩, rfl⟩

variable (f) in
/-- **A directory and the renamed one go through the flow side by side.** -/
def coupling (request : Request) : Coupling Memory Memory (secrecy f) request where
  idle := Twin f True
  session s₁ s₂ := Twin f (s₂ = s₁)
  entered s₁ s₂ n₁ n₂ := Twin f (s₂ = s₁ ∧ n₂ = n₁)
  node n₁ n₂ := Twin f (n₂ = n₁)
  record n₁ n₂ r₁ r₂ := Twin f (n₂ = n₁ ∧ r₂ = r₁)
  frame := sessionFrame_of_forall fun _ _ => id
  earlier _ _ := id
  undergo deed d₁ d₂ := by
    rintro ⟨_, rfl⟩
    exact ⟨trivial, d₁.undergo_rename f deed⟩
  createSession options :=
    tandem_of_rename (fun _ d => d.createSession_rename f options) fun _ _ _ => ⟨rfl, rfl⟩
  openNodeByName s₁ s₂ name := by
    refine tandem_of_rename ?_ fun same _ _ => ⟨⟨same, rfl⟩, rfl⟩
    rintro rfl d
    exact d.openNodeByName_rename f s₂ name
  openNodeByType s₁ s₂ := by
    refine tandem_of_rename ?_ fun same _ _ => ⟨⟨same, rfl⟩, rfl⟩
    rintro rfl d
    exact d.openNodeByType_rename f s₂ authenticationNode
  copyRecord n₁ n₂ := by
    refine tandem_of_rename ?_ fun same record? d => ?_
    · rintro rfl d
      exact d.copyRecord_rename f n₂ userRecords request.username
    · cases record? with
      | none => exact ⟨same, rfl⟩
      | some r => exact ⟨⟨same, rfl⟩, rfl⟩
  copyValues n₁ n₂ r₁ r₂ := by
    refine tandem_of_rename ?_ fun same _ _ => ⟨rfl, same, rfl⟩
    rintro ⟨rfl, rfl⟩ d
    exact d.copyValues_rename f r₂ metanodeLocation
  setCredentials n₁ n₂ r₁ r₂ readOld readNew := by
    refine tandem_of_rename ?_ fun same _ _ => ⟨same, rfl⟩
    rintro ⟨rfl, rfl⟩ d
    exact d.setCredentials_rename readOld readNew r₂ request.username request.authname
  changePassword n₁ n₂ r₁ r₂ readOld readNew := by
    refine tandem_of_rename ?_ fun same _ _ => ⟨same, rfl⟩
    rintro ⟨rfl, rfl⟩ d
    exact d.changePassword_rename readOld readNew r₂
  closeSession _ _ := closes_of_rename id fun _ => trivial
  leaveSession _ _ _ _ := closes_of_rename And.left And.right
  closeRecord _ _ _ _ := closes_of_rename And.right And.left
  closeNode _ _ := closes_of_rename id fun _ => trivial

end Directory.Memory

/-! ## What can be seen of a run -/

/-- Two journals that look the same, the calls on the directory aside: the same prompts, secrets and
lines, the same log, the same questions and programs on the host, and the same handles released. -/
structure Journal.Indistinct (j k : Journal) : Prop where
  prompts : k.prompts = j.prompts
  issued : k.issued = j.issued
  said : k.said = j.said
  warned : k.warned = j.warned
  logged : k.logged = j.logged
  errorLines (threshold : Log.Level) : k.errorLines threshold = j.errorLines threshold
  queried : k.queried = j.queried
  launched : k.launched = j.launched
  released : k.released = j.released

namespace Journal

variable (f : Renaming) (j : Journal)

theorem filterMap_rename {α : Type} {select : Event → Option α}
    (blind : ∀ event, select (event.rename f) = select event) :
    (j.map (Event.rename f)).filterMap select = j.filterMap select := by
  rw [List.filterMap_map]
  exact congrArg (List.filterMap · j) (funext blind)

theorem indistinct_rename : Indistinct j (j.map (Event.rename f)) := by
  refine ⟨?_, ?_, ?_, ?_, ?_, fun threshold => ?_, ?_, ?_, ?_⟩ <;>
  · refine filterMap_rename f j fun event => ?_
    cases event <;> rfl

theorem calls_rename :
    calls (j.map (Event.rename f)) = j.calls.map (Directory.Call.rename f) := by
  unfold calls
  rw [List.filterMap_map, List.map_filterMap]
  refine congrArg (List.filterMap · j) (funext fun event => ?_)
  cases event <;> rfl

theorem accepted_rename :
    accepted (j.map (Event.rename f)) = j.accepted.map (Directory.Call.rename f) := by
  unfold accepted
  rw [List.filterMap_map, List.map_filterMap]
  refine congrArg (List.filterMap · j) (funext fun event => ?_)
  cases event with
  | called call accepted => cases accepted <;> rfl
  | _ => rfl

end Journal

/-- The world in which all stored passwords and all texts to be typed are renamed. -/
def World.rename {H : Type} (f : Renaming) (w : World Directory.Memory H) :
    World Directory.Memory H :=
  { w with directory := w.directory.rename f, answers := w.answers.map (Answer.rename f) }

/-- **Passwords reach nothing but the store.** If all stored and all typed passwords are renamed,
one to one, a change of a password ends in the same way, and nothing that is seen of it is
different. The directory gets the same calls, with renamed passwords, and in the end it is the same
directory, with renamed passwords. -/
theorem passwords_reach_only_the_store (f : Renaming) (settings : Settings) (programName : String)
    (form : Form) (w : World Directory.Memory Host.Scripted) :
    let first := changePassword settings programName form w
    let second := changePassword settings programName form (w.rename f)
    let seen₁ := w.since first.2
    let seen₂ := (w.rename f).since second.2
    second.1 = first.1 ∧ second.2.directory = first.2.directory.rename f ∧
      seen₂ = seen₁.map (Event.rename f) ∧ seen₁.Indistinct seen₂ ∧
      seen₂.calls = seen₁.calls.map (Directory.Call.rename f) ∧
      seen₂.accepted = seen₁.accepted.map (Directory.Call.rename f) := by
  have abreast : (Directory.Memory.secrecy f).Abreast (Directory.Memory.Twin f True) w
      (w.rename f) := ⟨⟨trivial, rfl⟩, rfl, rfl, rfl⟩
  obtain ⟨result, after, added₁, added₂, grown₁, grown₂, same⟩ :=
    Comparison.changePassword_agree settings programName form
      (fun request _ => ⟨Directory.Memory.coupling f request, rfl⟩) abreast trivial
  dsimp only
  rw [World.since_of_journal_eq grown₁, World.since_of_journal_eq grown₂, same]
  exact ⟨result, after.directory.2, rfl, added₁.indistinct_rename f, added₁.calls_rename f,
    added₁.accepted_rename f⟩

end PasswordChange
