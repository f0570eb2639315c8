import PasswordChange.Value
import PasswordChange.Vault

/-!
# Calls on a directory

The names by which callers ask for node types, record types, attributes and kinds of
authentication, the items of a credential operation, and the record that a directory keeps of
the calls it received.
-/

namespace PasswordChange.Directory

/-! ## Names that every directory knows -/

/-- The node type of the search over all nodes that take part in authentication. -/
def authenticationNode : String := "authentication"

/-- The record type of users. -/
def userRecords : String := "users"

/-- The attribute that tells in which node a record lives. -/
def metanodeLocation : String := "metanode_location"

def setPassword : String := "set_password"

/-- The session option that restricts a session to a local database on disk. -/
def localPathOption : String := "local_path"

/-! ## Calls -/

/-- What may stand in a credential operation: nothing, a name, or a secret. -/
inductive Item where
  | absent
  | text (s : String)
  | secret (id : SecretId)
  deriving DecidableEq, Repr

/-- An optional secret as an item. -/
def Item.ofSecret? : Option SecretId → Item
  | none => absent
  | some id => secret id

/-- A call as the directory remembers it, with passwords in clear text. -/
inductive Call where
  | createSession (options : List (String × Value))
  | openNodeByName (name : String)
  | openNodeByType (nodeType : String)
  | copyRecord (recordType name : String)
  | setCredentials (recordType authType : String) (username : Item) (newPassword : String)
      (authname : Item) (oldPassword : Option String)
  | changePassword (username : String) (oldPassword : Option String) (newPassword : String)
  deriving DecidableEq, Repr

/-- The call changes a password, or tries to. -/
def Call.isCredential : Call → Bool
  | setCredentials .. | changePassword .. => true
  | _ => false

end PasswordChange.Directory
