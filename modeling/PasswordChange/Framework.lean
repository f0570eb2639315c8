import PasswordChange.Failure
import PasswordChange.Value

/-!
# A native directory framework

A directory framework of the operating system answers every call with an object or a flag, and
with an error beside it. `Framework` is such a framework given by its answers: one `Response`
for each call, in order, and then successes for ever.

* `Framework.Call` is a call as the framework sees it, with the framework's own constants.
* `Framework.errorCode?` classifies the framework's error numbers.
-/

namespace PasswordChange

namespace Framework

/-! ## Constants -/

/-- The constants that calls are made with. -/
inductive Constant where
  | sessionLocalPath
  | nodeTypeAuthentication
  | recordTypeUsers
  | attributeMetanodeLocation
  | authenticationSetPassword
  deriving DecidableEq, Repr

def Constant.name : Constant → String
  | sessionLocalPath => "kODSessionLocalPath"
  | nodeTypeAuthentication => "kODNodeTypeAuthentication"
  | recordTypeUsers => "kODRecordTypeUsers"
  | attributeMetanodeLocation => "kODAttributeTypeMetaNodeLocation"
  | authenticationSetPassword => "kODAuthenticationTypeSetPassword"

def Constant.value : Constant → Value
  | sessionLocalPath => .text "LocalPath"
  | nodeTypeAuthentication => .int 8705
  | recordTypeUsers => .text "dsRecTypeStandard:Users"
  | attributeMetanodeLocation => .text "dsAttrTypeStandard:AppleMetaNodeLocation"
  | authenticationSetPassword => .text "dsAuthMethodStandard:dsAuthSetPassword"

/-- What the framework's named errors mean to the flow. -/
def errorMeanings : List (String × ErrorCode) := [
  ("kODErrorSessionDaemonNotRunning", .sessionDaemonNotRunning),
  ("kODErrorSessionDaemonRefused", .sessionFailed),
  ("kODErrorSessionLocalOnlyDaemonInUse", .sessionFailed),
  ("kODErrorSessionNormalDaemonInUse", .sessionFailed),
  ("kODErrorNodeUnknownName", .nodeUnknown),
  ("kODErrorNodeUnknownType", .nodeUnknown),
  ("kODErrorRecordTypeDisabled", .recordNotFound),
  ("kODErrorCredentialsInvalid", .authenticationFailed),
  ("kODErrorCredentialsAccountNotFound", .authenticationFailed),
  ("kODErrorCredentialsNotAuthorized", .notAuthorized),
  ("kODErrorCredentialsOperationFailed", .credentialsFailed)]

/-- The error numbers of a stock framework. -/
def stockErrors : List (String × Int) := [
  ("kODErrorSessionLocalOnlyDaemonInUse", 1000),
  ("kODErrorSessionNormalDaemonInUse", 1001),
  ("kODErrorSessionDaemonNotRunning", 1002),
  ("kODErrorSessionDaemonRefused", 1003),
  ("kODErrorNodeUnknownName", 2000),
  ("kODErrorNodeUnknownType", 2001),
  ("kODErrorRecordTypeDisabled", 4000),
  ("kODErrorCredentialsInvalid", 5000),
  ("kODErrorCredentialsAccountNotFound", 5001),
  ("kODErrorCredentialsNotAuthorized", 5002),
  ("kODErrorCredentialsOperationFailed", 5003)]

/-! ## Objects, answers and calls -/

/-- An object that the framework made, counted for each kind. -/
structure Object where
  kind : Handle.Kind
  number : Nat
  deriving DecidableEq, Repr

def Object.name (o : Object) : String :=
  o.kind.noun ++ toString o.number

/-- An error as the framework gives it; its texts may be values of any kind. -/
structure NativeError where
  code : Int
  description : Value := .null
  reason : Value := .null
  suggestion : Value := .null
  deriving DecidableEq, Repr

/-- An error, or its absence, inside a log line. -/
def NativeError.shown? : Option NativeError → String
  | none => Value.null.quoted
  | some e => "NSError " ++ toString e.code

/-- What the framework answers to a call. -/
structure Response where
  ok : Bool := true
  error : Option NativeError := none
  /-- The values of an attribute; none if it cannot be read. -/
  values : Option (List Value) := some [.text "/Local/Default"]
  /-- The name of the node that the call opens. -/
  name : Value := .text "/Search"
  deriving DecidableEq, Repr

/-- A call as the framework sees it. -/
inductive Call where
  | session (options : Option (Value × Value))
  | nodeByName (session : Object) (name : String)
  | nodeByType (session : Object) (nodeType : Value)
  | record (node : Object) (recordType : Value) (name : String)
  | values (record : Object) (attributeType : Value)
  | setCredentials (record : Object) (recordType authType : Value) (items : List (Option String))
  | changePassword (record : Object) (oldPassword newPassword : Option String)
  deriving DecidableEq, Repr

def Call.isCredential : Call → Bool
  | setCredentials .. | changePassword .. => true
  | _ => false

end Framework

/-- A framework: the answers it has still to give, its error numbers, the constants it lacks,
and how many objects of each kind it has made. -/
structure Framework where
  responses : List Framework.Response := []
  errors : List (String × Int) := Framework.stockErrors
  omitted : List String := []
  made : List Handle.Kind := []
  deriving DecidableEq, Repr

namespace Framework

/-- The value of a constant, refused if the framework lacks it. -/
def constant (f : Framework) (c : Constant) : Except Failure Value :=
  if f.omitted.contains c.name then .error (.missingConstant c.name) else .ok c.value

/-- The number of a named error, if the framework has it. -/
def errorNumber? (f : Framework) (name : String) : Option Int :=
  if f.omitted.contains name then none else f.errors.lookup name

/-- What an error number means; of several meanings the last one counts. -/
def errorCode? (f : Framework) (number : Int) : Option ErrorCode :=
  ((errorMeanings.filter fun (name, _) => f.errorNumber? name = some number).getLast?).map
    Prod.snd

/-- The framework's error in the words of the flow, with a code of last resort. -/
def directoryError (f : Framework) (fallback : ErrorCode) : Option NativeError → DirectoryError
  | none => { code := fallback, description := some "Unknown directory error." }
  | some e =>
    { code := (f.errorCode? e.code).getD fallback
      description := e.description.text?
      failureReason := e.reason.text?
      recoverySuggestion := e.suggestion.text? }

/-- The answer to the next call. -/
def answer (f : Framework) : Response × Framework :=
  match f.responses with
  | [] => ({}, f)
  | r :: rest => (r, { f with responses := rest })

def make (f : Framework) (kind : Handle.Kind) : Object × Framework :=
  (⟨kind, f.made.count kind + 1⟩, { f with made := f.made ++ [kind] })

end Framework

end PasswordChange
