import PasswordChange.Directory

/-!
# Directories over a native framework

A directory that passes every operation on to a native framework. An operation makes at most one
call; the framework's answer is the result, and its error becomes a directory error with the
code that the error number stands for, or a code of last resort that depends on the operation.

`Native.ask` is the one place where the framework is called.
-/

namespace PasswordChange.Directory

open Framework (Constant Object Response)

/-- The state of a directory over a framework, if one is installed. -/
structure Native where
  framework : Option Framework := some {}
  handles : Registry Object := {}

namespace Native

/-- A detail for the log. -/
def debug (message : String) : Event :=
  .logged ⟨.framework, .debug, message⟩

/-! ## Asking the framework -/

/-- The framework, refused if none is installed. -/
def installed (d : Native) : Except Failure Framework :=
  match d.framework with
  | some f => .ok f
  | none => .error .frameworkMissing

/-- The object of the wanted kind behind a handle. -/
def object (d : Native) (kind : Handle.Kind) (i : HandleId) : Except Failure Object := do
  let o ← d.handles.access i
  if o.kind = kind then .ok o else .error (.wrongObject o.kind)

/-- The next answer of the framework. -/
def ask (d : Native) : Response × Native :=
  match d.framework with
  | none => ({}, d)
  | some f =>
    let (response, f) := f.answer
    (response, { d with framework := some f })

/-- A handle on a new object of a kind. -/
def issue (kind : Handle.Kind) (name : Value) (d : Native) : HandleId × Native :=
  let f := d.framework.getD {}
  let (o, f) := f.make kind
  let (i, handles) := d.handles.issue ⟨kind, name, some o⟩
  (i, { framework := d.framework.map fun _ => f, handles })

/-- The framework's error in the words of the flow. -/
def refusal (d : Native) (fallback : ErrorCode) (error : Option Framework.NativeError) : Failure :=
  .directory ((d.framework.getD {}).directoryError fallback error)

/-- Makes a call that was decided on and hands out the object it makes under a name. -/
def openObject (kind : Handle.Kind) (fallback : ErrorCode) (name : Response → Value)
    (decision : Except Failure Framework.Call) (d : Native) : Step Native HandleId :=
  match decision with
  | .error e => .fail e d []
  | .ok call =>
    let (response, d) := d.ask
    if response.ok then
      let (i, d) := d.issue kind (name response)
      .ok i d [.native call true]
    else .fail (d.refusal fallback response.error) d [.native call false]

/-! ## Opening -/

/-- The path that restricts a session, if the options give one. -/
def localPath? (options : List (String × Value)) : Option Value :=
  (options.lookup localPathOption).filter Value.isSet

/-- The call that opens a session: with a path only if one is given. -/
def decideSession (options : List (String × Value)) (d : Native) :
    Except Failure Framework.Call := do
  let f ← d.installed
  match localPath? options with
  | none => .ok (.session none)
  | some path => .ok (.session (some (← f.constant .sessionLocalPath, path)))

def createSession (options : List (String × Value)) (d : Native) : Step Native HandleId :=
  let name := (localPath? options).getD (.text "default")
  let step := d.openObject .session .sessionFailed (fun _ => name) (d.decideSession options)
  match step.outcome with
  | .error _ => step
  | .ok _ =>
    { step with
      events := step.events ++
        [debug ("opened directory session options=" ++ (Value.record options).quoted)] }

/-- The call that opens a node by its name. -/
def decideNodeByName (session : HandleId) (name : String) (d : Native) :
    Except Failure Framework.Call := do
  let _ ← d.installed
  .ok (.nodeByName (← d.handles.access session) name)

def openNodeByName (session : HandleId) (name : String) (d : Native) : Step Native HandleId :=
  d.openObject .node .nodeUnknown (fun _ => .text name) (d.decideNodeByName session name)

/-- The call that opens the search node, the only one that has a type. -/
def decideNodeByType (session : HandleId) (nodeType : String) (d : Native) :
    Except Failure Framework.Call := do
  let f ← d.installed
  if nodeType ≠ authenticationNode then .error (.directory
    { code := .nodeUnknown
      description := some ("Unsupported node type '" ++ nodeType ++ "'.") })
  else
    let o ← d.handles.access session
    .ok (.nodeByType o (← f.constant .nodeTypeAuthentication))

/-- Opens a node by its type; it has the name that the framework gives it. -/
def openNodeByType (session : HandleId) (nodeType : String) (d : Native) : Step Native HandleId :=
  d.openObject .node .nodeUnknown (fun response => .ofText? response.name.text?)
    (d.decideNodeByType session nodeType)

/-! ## Records and attributes -/

/-- The framework's record type; only that of users is known. -/
def recordType (recordType : String) (d : Native) : Except Failure Value := do
  if recordType ≠ userRecords then .error (.directory
    { description := some ("Unsupported record type '" ++ recordType ++ "'.") })
  else (← d.installed).constant .recordTypeUsers

/-- The call that looks up a record. -/
def decideRecord (node : HandleId) (type name : String) (d : Native) :
    Except Failure Framework.Call := do
  let nativeType ← d.recordType type
  .ok (.record (← d.object .node node) nativeType name)

/-- Looks up a record. Where the framework gives neither a record nor an error, there is none. -/
def copyRecord (node : HandleId) (type name : String) (d : Native) :
    Step Native (Option HandleId) :=
  match d.decideRecord node type name with
  | .error e => .fail e d []
  | .ok call =>
    let (response, d) := d.ask
    if response.ok then
      let (i, d) := d.issue .record (.text name)
      .ok (some i) d [.native call true]
    else match response.error with
      | none => .ok none d [.native call false]
      | some e => .fail (d.refusal .recordNotFound (some e)) d [.native call false]

/-- The call that reads an attribute; only the location of a record is known. -/
def decideValues (record : HandleId) (attributeName : String) (d : Native) :
    Except Failure Framework.Call := do
  let f ← d.installed
  if attributeName ≠ metanodeLocation then .error (.directory
    { description := some ("Unsupported attribute '" ++ attributeName ++ "'.") })
  else
    let o ← d.object .record record
    .ok (.values o (← f.constant .attributeMetanodeLocation))

/-- The name of a handle, as it appears inside a line. -/
def handleName (d : Native) (i : HandleId) : String :=
  ((d.handles.get? i).map Handle.name).getD .null |>.shown

/-- Reads an attribute; one that cannot be read has no values. -/
def copyValues (record : HandleId) (attributeName : String) (d : Native) :
    Step Native (List (Option String)) :=
  match d.decideValues record attributeName with
  | .error e => .fail e d []
  | .ok call =>
    let name := d.handleName record
    let (response, d) := d.ask
    match (if response.ok then response.values else none) with
    | some values => .ok (values.map Value.text?) d [.native call true]
    | none =>
      .ok [] d [.native call response.ok, debug ("no " ++ attributeName ++ " for " ++ name ++ ": "
        ++ Framework.NativeError.shown? response.error)]

/-! ## Credential operations -/

/-- The text that crosses over to the framework: names as they are, secrets revealed. -/
def revealed? (v : Vault) : Item → Except Failure (Option String)
  | .absent => .ok none
  | .text s => .ok (some s)
  | .secret id => (v.reveal id).map some

/-- Makes a credential call that was decided on. -/
def submit (decision : Except Failure Framework.Call) (d : Native) : Step Native Unit :=
  match decision with
  | .error e => .fail e d []
  | .ok call =>
    let (response, d) := d.ask
    if response.ok then .ok () d [.native call true]
    else .fail (d.refusal .credentialsFailed response.error) d [.native call false]

/-- The call that sets a password with the credentials of an authenticator. -/
def decideCredentials (v : Vault) (record : HandleId) (type authType : String)
    (items : List Item) (d : Native) : Except Failure Framework.Call := do
  let f ← d.installed
  if authType ≠ setPassword then .error (.directory
    { description := some ("Unsupported authentication type '" ++ authType ++ "'.") })
  else
    let texts ← items.mapM (revealed? v)
    let o ← d.object .record record
    let nativeType ← d.recordType type
    .ok (.setCredentials o nativeType (← f.constant .authenticationSetPassword) texts)

def setCredentials (v : Vault) (record : HandleId) (type authType : String) (items : List Item)
    (d : Native) : Step Native Unit :=
  d.submit (d.decideCredentials v record type authType items)

/-- The call that changes the password of a record. -/
def decideChange (v : Vault) (record : HandleId) (old new : Item) (d : Native) :
    Except Failure Framework.Call := do
  let o ← d.object .record record
  .ok (.changePassword o (← revealed? v old) (← revealed? v new))

def changePassword (v : Vault) (record : HandleId) (old new : Item) (d : Native) :
    Step Native Unit :=
  d.submit (d.decideChange v record old new)

/-! ## The directory service -/

/-- Closes a handle; the framework needs no notice of it. -/
def close (i : HandleId) (d : Native) : Step Native Unit :=
  let (outcome, handles, _) := d.handles.close (fun _ s => (.ok (), s)) i ()
  ⟨outcome, { d with handles }, []⟩

instance : Directory Native where
  createSession := createSession
  openNodeByName := openNodeByName
  openNodeByType := openNodeByType
  copyRecord := copyRecord
  copyValues := copyValues
  setCredentials := setCredentials
  changePassword := changePassword
  close := close
  display i d := d.handles.quoted i
  undergo _ d := d

end Native

end PasswordChange.Directory
