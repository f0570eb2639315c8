/-!
# What a host sees

The questions that a host is asked and the probes into the operating system that it makes, as
they appear in a journal.
-/

namespace PasswordChange.Host

/-- What the flow asks a host. -/
inductive Question where
  | singleUser
  | privileged
  deriving DecidableEq, Repr

/-- What a host does to the operating system: it loads the C library, reads a kernel flag by
name, or runs a program. -/
inductive Probe where
  | loadLibrary
  | readFlag (name : String)
  | exec (argv : List String)
  deriving DecidableEq, Repr

end PasswordChange.Host
