import PasswordChange.Host

/-!
# POSIX hosts

A host that reads its single-user flag from the kernel through the C library. The library is
loaded when it is first needed and kept from then on; a failure to load it is not kept. A host
whose flag cannot be read counts as multi-user. The operating system itself is given by its
answers.
-/

namespace PasswordChange.Host

/-- A C library: one that cannot read kernel flags, or one that can, with the value it writes,
the result it returns and the error number it leaves. -/
inductive Library where
  | plain
  | flags (value result errno : Int)
  deriving DecidableEq, Repr

/-- A POSIX host: the name of its single-user flag, the library it has loaded, and the answers
of its operating system. -/
structure Posix where
  flagName : String := "kern.singleuser"
  loaded : Option Library := none
  /-- The library there is to load; none if loading fails. -/
  library : Option Library := none
  uid : Int := 501
  startFailure : Option StartFailure := none
  exitStatus : Int := 0
  deriving DecidableEq, Repr

namespace Posix

/-- A detail for the host's log. -/
def debug (message : String) : Event :=
  .logged ⟨.host, .debug, message⟩

/-- The library, loaded now if it was not before, with what loading did. -/
def load (h : Posix) : Option Library × Posix × List Event :=
  match h.loaded with
  | some library => (some library, h, [])
  | none => (h.library, { h with loaded := h.library }, [.probed .loadLibrary])

/-- A word of 32 bits that is not zero means yes. -/
def isFlagSet (value : Int) : Bool :=
  value % 0x100000000 != 0

/-- Only names in ASCII can be handed to the kernel. -/
def isFlagName (name : String) : Bool :=
  name.toList.all fun c => c.toNat < 128

def isSingleUser (h : Posix) : Step Posix Bool :=
  match h.load with
  | (some (.flags value result errno), h, events) =>
    if !isFlagName h.flagName then .fail (.unencodable h.flagName) h events
    else
      let events := events ++ [.probed (.readFlag h.flagName)]
      if result ≠ 0 then
        .ok false h (events ++
          [debug ("sysctl " ++ h.flagName ++ " failed: errno " ++ toString errno)])
      else .ok (isFlagSet value) h events
  | (_, h, events) =>
    .ok false h (events ++ [debug "sysctlbyname unavailable, assuming multi-user"])

/-- Runs a program in the foreground; nothing is known of what it does to the directory. -/
def run (path : String) (args : List String) (h : Posix) : Step Posix Launch :=
  let argv := path :: args
  let events :=
    [debug ("running " ++ (Value.list (argv.map .text)).quoted), .probed (.exec argv)]
  match h.startFailure with
  | some cause => .fail (.start cause) h events
  | none =>
    .ok ⟨h.exitStatus, []⟩ h (events ++
      [debug (path ++ " exited with status " ++ toString h.exitStatus)])

instance : Host Posix where
  isSingleUser := isSingleUser
  isPrivileged h := .ok (h.uid == 0) h []
  run := run

end Posix

end PasswordChange.Host
