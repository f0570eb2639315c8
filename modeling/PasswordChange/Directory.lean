import PasswordChange.Handle
import PasswordChange.Step

/-!
# Directories

A `Directory` looks up user records and changes their passwords. It hands out handles on
sessions, nodes and records, which it can close, and it may be affected by what a program run
on the host does. The flow is written once for every directory.
-/

namespace PasswordChange

/-- What a program can do to a directory service. -/
inductive Directory.Deed where
  | startLocalDaemon
  | startDaemon
  | clearSessionError
  deriving DecidableEq, Repr

/-- A directory service with state `D`. -/
class Directory (D : Type) where
  createSession : List (String × Value) → D → Step D HandleId
  openNodeByName : HandleId → String → D → Step D HandleId
  openNodeByType : HandleId → String → D → Step D HandleId
  /-- Looks up a record by type and exact name; there may be none. -/
  copyRecord : HandleId → String → String → D → Step D (Option HandleId)
  copyValues : HandleId → String → D → Step D (List (Option String))
  /-- Runs an extended credential operation of a kind on a record of a type. -/
  setCredentials : Vault → HandleId → String → String → List Directory.Item → D → Step D Unit
  changePassword : Vault → HandleId → Directory.Item → Directory.Item → D → Step D Unit
  close : HandleId → D → Step D Unit
  display : HandleId → D → String
  /-- The directory service after a program has affected it. -/
  undergo : Directory.Deed → D → D

end PasswordChange
