/-!
# Kinds of directory handles

A handle stands for a session with the directory daemon, for a node (a partition of the
directory), or for a record inside a node. A plain handle stands for none of these.
-/

namespace PasswordChange.Handle

/-- What a handle stands for. -/
inductive Kind where
  | plain
  | session
  | node
  | record
  deriving DecidableEq, Repr

/-- The kind in a sentence. -/
def Kind.noun : Kind → String
  | plain => "handle"
  | session => "session"
  | node => "node"
  | record => "record"

/-- The kind at the head of a handle's displayed form. -/
def Kind.title : Kind → String
  | plain => "DirectoryHandle"
  | session => "DirectorySession"
  | node => "DirectoryNode"
  | record => "DirectoryRecord"

end PasswordChange.Handle
