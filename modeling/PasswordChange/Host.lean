import PasswordChange.Directory

/-!
# Hosts

A `Host` answers whether it runs in single-user mode and whether the caller is privileged, and
it runs programs.
-/

namespace PasswordChange

/-- How a program that was started ended, and what it did to the directory service. -/
structure Host.Launch where
  status : Int
  deeds : List Directory.Deed := []
  deriving DecidableEq, Repr

/-- A host with state `H`. -/
class Host (H : Type) where
  isSingleUser : H → Step H Bool
  isPrivileged : H → Step H Bool
  /-- Runs a program with arguments and waits for it. -/
  run : String → List String → H → Step H Host.Launch

end PasswordChange
