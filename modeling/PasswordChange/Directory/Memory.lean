import PasswordChange.Directory
import PasswordChange.Table
import PasswordChange.Text

/-!
# Directories in memory

A directory whose nodes map user names to accounts with passwords in clear text. The search
node looks through the searchable nodes in the order in which they became searchable; a session
on a local database sees only nodes under the local root, and needs the local daemon.

Every operation is a decision, which only reads the directory, and an update, which is made if
the decision was favourable. So an operation that fails changes nothing. What it was asked is
recorded before the decision; credential operations reveal their secrets even before that.

* `Memory.addNode` and `Memory.addUser` fill a directory, `Memory.passwordOf` looks into it.
* `Memory.authenticator` finds the account that vouches for a change.
* The instance of `Directory` gathers the operations.
-/

namespace PasswordChange.Directory

structure Account where
  password : String
  admin : Bool := false
  deriving DecidableEq, Repr

namespace Memory

/-- What a handle stands for: a session with its local path, a node with the names it resolves
over, or a record with its node and user. -/
inductive Ref where
  | session (localPath : Value)
  | node (names : List String)
  | record (node username : String)
  deriving DecidableEq, Repr

/-- Errors that operations report although nothing is wrong. -/
structure Faults where
  session : Option DirectoryError := none
  lookup : Option DirectoryError := none
  commit : Option DirectoryError := none
  deriving DecidableEq, Repr

end Memory

/-- The state of a directory in memory. -/
structure Memory where
  daemonRunning : Bool := true
  localDaemonRunning : Bool := false
  /-- The names of local nodes begin with this text. -/
  localRoot : String := "/Local/"
  nodes : Table (Table Account) := []
  searchOrder : List String := []
  handles : Registry Memory.Ref := {}
  /-- The handles that have not been closed, in the order in which they were issued. -/
  openHandles : List HandleId := []
  faults : Memory.Faults := {}

namespace Memory

/-! ## Filling a directory -/

/-- Adds a node unless it is there; a searchable node joins the search unless it has. -/
def addNode (name : String) (searchable : Bool) (d : Memory) : Memory :=
  { d with
    nodes := if d.nodes.has name then d.nodes else d.nodes.put name []
    searchOrder :=
      if searchable && !d.searchOrder.contains name then d.searchOrder ++ [name]
      else d.searchOrder }

def accounts (d : Memory) (node : String) : Table Account :=
  (d.nodes.get? node).getD []

/-- Gives a user an account in a node, which becomes searchable. -/
def addUser (node username password : String) (admin : Bool) (d : Memory) : Memory :=
  let d := d.addNode node true
  { d with nodes := d.nodes.put node ((d.accounts node).put username { password, admin }) }

def account? (d : Memory) (node username : String) : Option Account :=
  (d.accounts node).get? username

def passwordOf (d : Memory) (node username : String) : Option String :=
  (d.account? node username).map Account.password

/-- Replaces the password of an account and leaves everything else as it is. -/
def setAccountPassword (node username password : String) (d : Memory) : Memory :=
  match d.account? node username with
  | none => d
  | some account =>
    { d with
      nodes := d.nodes.put node ((d.accounts node).put username { account with password }) }

/-- Replacing a password leaves everything but the nodes alone. -/
theorem setAccountPassword_eq (node username password : String) (d : Memory) :
    ∃ nodes, d.setAccountPassword node username password = { d with nodes } := by
  unfold setAccountPassword
  split
  · exact ⟨d.nodes, rfl⟩
  · exact ⟨_, rfl⟩

/-- Replacing a password changes the account it belongs to and no other. -/
theorem account?_setAccountPassword (d : Memory) (node username password n u : String) :
    (d.setAccountPassword node username password).account? n u =
      if node = n ∧ username = u then (d.account? n u).map ({ · with password })
      else d.account? n u := by
  unfold setAccountPassword
  split
  next absent =>
    split
    next same => obtain ⟨rfl, rfl⟩ := same; simp [absent]
    next => rfl
  next account present =>
    by_cases hn : node = n
    · subst hn
      by_cases hu : username = u
      · subst hu
        rw [if_pos ⟨rfl, rfl⟩, present]
        simp [account?, accounts, Table.get?_put]
      · simp [account?, accounts, Table.get?_put, hu]
    · simp [account?, accounts, Table.get?_put, hn]

/-- A node that is added brings no account with it. -/
theorem account?_addNode (d : Memory) (node : String) (searchable : Bool) (n u : String) :
    (d.addNode node searchable).account? n u = d.account? n u := by
  simp only [account?, accounts, addNode]
  split
  · rfl
  next absent =>
    by_cases h : node = n
    · subst h
      simp_all [Table.get?_put, Table.has]
    · simp [Table.get?_put, h]

/-- A user has the account that was added last. -/
theorem account?_addUser (d : Memory) (node username password : String) (admin : Bool)
    (n u : String) :
    (d.addUser node username password admin).account? n u =
      if node = n ∧ username = u then some { password, admin } else d.account? n u := by
  rw [← d.account?_addNode node true]
  by_cases hn : node = n
  · subst hn
    by_cases hu : username = u <;> simp [addUser, account?, accounts, Table.get?_put, hu]
  · simp [addUser, account?, accounts, Table.get?_put, hn]

/-! ## What handles stand for -/

/-- The session behind a handle: whether it is restricted to the local database. -/
def isLocalSession (d : Memory) (i : HandleId) : Except Failure Bool := do
  match ← d.handles.access i with
  | .session localPath => .ok localPath.isSet
  | .node _ | .record _ _ => .error (.missingEntry localPathOption)

/-- The names that the node behind a handle resolves over. -/
def nodeNames (d : Memory) (i : HandleId) : Except Failure (List String) := do
  match ← d.handles.access i with
  | .node names => .ok names
  | .session _ | .record _ _ => .error (.missingEntry "nodes")

/-- The node and the user that the record behind a handle denotes. What is no record has no entry
under the key, which is that of the first question. -/
def recordOf (d : Memory) (i : HandleId) (key : String := "node") :
    Except Failure (String × String) := do
  match ← d.handles.access i with
  | .record node username => .ok (node, username)
  | .session _ | .node _ => .error (.missingEntry key)

/-- Whatever is asked first, it is the same record. -/
theorem toOption_recordOf (d : Memory) (i : HandleId) (key key' : String) :
    (d.recordOf i key).toOption = (d.recordOf i key').toOption := by
  unfold recordOf
  rcases d.handles.access i with e | ref
  · rfl
  · cases ref <;> rfl

theorem recordOf_of_key {d : Memory} {i : HandleId} {key : String} {node user : String}
    (place : d.recordOf i key = .ok (node, user)) (key' : String) :
    d.recordOf i key' = .ok (node, user) := by
  have same := d.toOption_recordOf i key' key
  rw [place] at same
  rcases other : d.recordOf i key' with e | found <;> rw [other] at same <;> cases same
  rfl

/-- The names of the nodes that a session sees. -/
def visibleNodes (d : Memory) (restricted : Bool) : List String :=
  if restricted then d.nodes.keys.filter (Text.startsWith d.localRoot) else d.nodes.keys

/-! ## Lookups -/

/-- The first of the named nodes that has the user. -/
def findUser (d : Memory) (username : String) : List String → Except Failure (Option String)
  | [] => .ok none
  | name :: rest =>
    match d.nodes.get? name with
    | none => .error (.missingEntry name)
    | some accounts =>
      if accounts.has username then .ok (some name) else d.findUser username rest

/-- Looks through the named nodes for someone whom none of them has. -/
def lookThrough (d : Memory) : List String → Except Failure Unit
  | [] => .ok ()
  | name :: rest =>
    match d.nodes.get? name with
    | none => .error (.missingEntry name)
    | some _ => d.lookThrough rest

def accountOf (d : Memory) (node username : String) : Except Failure Account :=
  match d.nodes.get? node with
  | none => .error (.missingEntry node)
  | some accounts =>
    match accounts.get? username with
    | none => .error (.missingEntry username)
    | some account => .ok account

/-- The node and the account that vouch for a change of a record in `node`: those of the
record's own node first, then those of the first node of the search that has the name. -/
def authenticator (d : Memory) (node authname : String) :
    Except Failure (Option (String × Account)) :=
  match d.nodes.get? node with
  | none => .error (.missingEntry node)
  | some accounts =>
    match accounts.get? authname with
    | some account => .ok (some (node, account))
    | none => do
      match ← d.findUser authname d.searchOrder with
      | none => .ok none
      | some name => .ok ((d.account? name authname).map ((name, ·)))

/-! ## Opening and closing -/

/-- Issues a handle and notes it as open. -/
def issue (h : Handle Ref) (d : Memory) : HandleId × Memory :=
  let (i, handles) := d.handles.issue h
  (i, { d with handles, openHandles := d.openHandles ++ [i] })

/-- The end of an operation that hands out the handle decided on. -/
def conclude (call : Call) (decision : Except Failure (Handle Ref)) (d : Memory) :
    Step Memory HandleId :=
  match decision with
  | .error e => .fail e d [.called call false]
  | .ok h =>
    let (i, d) := d.issue h
    .ok i d [.called call true]

/-- A value among the options of a session; one that was not given is null. -/
def option (options : List (String × Value)) (name : String) : Value :=
  (options.lookup name).getD .null

/-- Decides whether a session can be opened: a session on a local path needs the local daemon,
any other the normal one. -/
def decideSession (options : List (String × Value)) (d : Memory) : Except Failure (Handle Ref) :=
  match d.faults.session with
  | some e => .error (.directory e)
  | none =>
    let localPath := option options localPathOption
    if localPath.isSet then
      if d.localDaemonRunning then .ok ⟨.session, localPath, some (.session localPath)⟩
      else .error (.directory
        { code := .sessionDaemonNotRunning
          description := some "Unable to connect to the local directory daemon." })
    else if d.daemonRunning then .ok ⟨.session, .text "default", some (.session localPath)⟩
    else .error (.directory
      { code := .sessionDaemonNotRunning
        description := some "Unable to communicate with the directory daemon."
        failureReason := some "The daemon is not running." })

def createSession (options : List (String × Value)) (d : Memory) : Step Memory HandleId :=
  d.conclude (.createSession options) (d.decideSession options)

/-- Decides whether the named node is there and visible in the session. -/
def decideNodeByName (session : HandleId) (name : String) (d : Memory) :
    Except Failure (Handle Ref) := do
  let restricted ← d.isLocalSession session
  if (d.visibleNodes restricted).contains name then
    .ok ⟨.node, .text name, some (.node [name])⟩
  else .error (.directory
    { code := .nodeUnknown
      description := some "Unable to open the directory node."
      failureReason := some ("The node '" ++ name ++ "' could not be found.") })

def openNodeByName (session : HandleId) (name : String) (d : Memory) : Step Memory HandleId :=
  d.conclude (.openNodeByName name) (d.decideNodeByName session name)

/-- Decides over which nodes the search of a session goes: the searchable ones it sees. -/
def decideNodeByType (session : HandleId) (nodeType : String) (d : Memory) :
    Except Failure (Handle Ref) :=
  if nodeType ≠ authenticationNode then .error (.directory
    { code := .nodeUnknown
      description := some ("Unsupported node type '" ++ nodeType ++ "'.") })
  else do
    let restricted ← d.isLocalSession session
    let names := d.searchOrder.filter (d.visibleNodes restricted).contains
    .ok ⟨.node, .text "/Search", some (.node names)⟩

def openNodeByType (session : HandleId) (nodeType : String) (d : Memory) :
    Step Memory HandleId :=
  d.conclude (.openNodeByType nodeType) (d.decideNodeByType session nodeType)

/-- Decides which record has the name, if any; there are records of users only. -/
def decideRecord (node : HandleId) (recordType name : String) (d : Memory) :
    Except Failure (Option (Handle Ref)) :=
  match d.faults.lookup with
  | some e => .error (.directory e)
  | none =>
    if recordType ≠ userRecords then .ok none
    else do
      let names ← d.nodeNames node
      match ← d.findUser name names with
      | none => .ok none
      | some found => .ok (some ⟨.record, .text name, some (.record found name)⟩)

def copyRecord (node : HandleId) (recordType name : String) (d : Memory) :
    Step Memory (Option HandleId) :=
  let call := Call.copyRecord recordType name
  match d.decideRecord node recordType name with
  | .error e => .fail e d [.called call false]
  | .ok none => .ok none d [.called call true]
  | .ok (some h) =>
    let (i, d) := d.issue h
    .ok (some i) d [.called call true]

/-- Reads an attribute of a record; only its location has a value. -/
def copyValues (record : HandleId) (attributeName : String) (d : Memory) :
    Step Memory (List (Option String)) :=
  if attributeName ≠ metanodeLocation then .ok [] d []
  else match d.recordOf record with
    | .error e => .fail e d []
    | .ok (node, _) => .ok [some node] d []

/-- Notes a handle as closed. -/
def release (i : HandleId) (kind : Handle.Kind) (openHandles : List HandleId) :
    Except Failure Unit × List HandleId × List Event :=
  (.ok (), openHandles.filter (· ≠ i), [.released kind])

def close (i : HandleId) (d : Memory) : Step Memory Unit :=
  let kind := ((d.handles.get? i).map Handle.kind).getD .plain
  let (outcome, handles, openHandles, events) :=
    d.handles.close (fun _ (openHandles, _) => release i kind openHandles) i (d.openHandles, [])
  ⟨outcome, { d with handles, openHandles }, events⟩

/-! ## Credential operations -/

/-- The text of a secret that must be there. -/
def revealed (v : Vault) : Item → Except Failure String
  | .secret id => v.reveal id
  | .absent | .text _ => .error .notASecret

/-- The text of a secret that may be absent. -/
def revealed? (v : Vault) : Item → Except Failure (Option String)
  | .absent => .ok none
  | item => (revealed v item).map some

/-- The error that tells neither which part of the credentials was wrong nor whether the user
exists. -/
def invalidCredentials : Failure :=
  .directory
    { code := .authenticationFailed
      description := some "Credentials could not be verified, username or password is invalid." }

/-- Decides whether an authenticator may change a record in `node` that is asked for under the
name `username`: the password must be the authenticator's, who must bear that name or be an
administrator. -/
def decideAuthenticator (node authname : String) (username : Item) (oldPassword : Option String)
    (d : Memory) : Except Failure Unit := do
  match ← d.authenticator node authname with
  | none => .error invalidCredentials
  | some (_, account) =>
    if oldPassword ≠ some account.password then .error invalidCredentials
    else if username ≠ .text authname && !account.admin then .error (.directory
      { code := .notAuthorized
        description := some "Not authorized to change the password."
        failureReason := some ("'" ++ authname ++ "' is not an administrator.") })
    else .ok ()

/-- Decides whether the credentials allow to change a record, and which record it is. Without an
authenticator's name the nodes are looked through in vain, the record's own one first; a secret in
its place stops the search there. -/
def decideCredentials (record : HandleId) (authType : String) (username authname : Item)
    (oldPassword : Option String) (d : Memory) : Except Failure (String × String) :=
  match d.faults.commit with
  | some e => .error (.directory e)
  | none =>
    if authType ≠ setPassword then .error (.directory
      { description := some ("Unsupported authentication type '" ++ authType ++ "'.") })
    else do
      let (node, user) ← d.recordOf record
      match authname with
      | .secret _ =>
        d.lookThrough [node]
        .error .notAKey
      | .absent =>
        d.lookThrough (node :: d.searchOrder)
        .error invalidCredentials
      | .text authname =>
        d.decideAuthenticator node authname username oldPassword
        let _ ← d.accountOf node user
        .ok (node, user)

/-- Sets a password after its authenticator has proved an identity. The four items are the
user's name, the new password, the authenticator's name and the authenticator's password. -/
def setCredentials (v : Vault) (record : HandleId) (recordType authType : String)
    (items : List Item) (d : Memory) : Step Memory Unit :=
  match items with
  | [username, new, authname, old] =>
    match revealed v new with
    | .error e => .fail e d []
    | .ok newPassword =>
      match revealed? v old with
      | .error e => .fail e d []
      | .ok oldPassword =>
        let call :=
          Call.setCredentials recordType authType username newPassword authname oldPassword
        match d.decideCredentials record authType username authname oldPassword with
        | .error e => .fail e d [.called call false]
        | .ok (node, user) =>
          .ok () (d.setAccountPassword node user newPassword) [.called call true]
  | items => .fail (.itemCount items.length) d []

/-- Decides whether the password of a record may be changed: an old password, if given, must be
the present one. -/
def decideChange (node user : String) (oldPassword : Option String) (d : Memory) :
    Except Failure Unit :=
  match d.faults.commit with
  | some e => .error (.directory e)
  | none => do
    let account ← d.accountOf node user
    match oldPassword with
    | none => .ok ()
    | some old => if account.password ≠ old then .error invalidCredentials else .ok ()

/-- Changes the password of a record. -/
def changePassword (v : Vault) (record : HandleId) (old new : Item) (d : Memory) :
    Step Memory Unit :=
  match revealed? v old with
  | .error e => .fail e d []
  | .ok oldPassword =>
    match revealed v new with
    | .error e => .fail e d []
    | .ok newPassword =>
      match d.recordOf record "username" with
      | .error e => .fail e d []
      | .ok (node, user) =>
        let call := Call.changePassword user oldPassword newPassword
        match d.decideChange node user oldPassword with
        | .error e => .fail e d [.called call false]
        | .ok _ => .ok () (d.setAccountPassword node user newPassword) [.called call true]

/-! ## The directory service -/

/-- What a program does to the directory. -/
def undergo : Deed → Memory → Memory
  | .startLocalDaemon, d => { d with localDaemonRunning := true }
  | .startDaemon, d => { d with daemonRunning := true }
  | .clearSessionError, d => { d with faults := { d.faults with session := none } }

instance : Directory Memory where
  createSession := createSession
  openNodeByName := openNodeByName
  openNodeByType := openNodeByType
  copyRecord := copyRecord
  copyValues := copyValues
  setCredentials := setCredentials
  changePassword := changePassword
  close := close
  display i d := d.handles.quoted i
  undergo := undergo

end Memory

end PasswordChange.Directory
