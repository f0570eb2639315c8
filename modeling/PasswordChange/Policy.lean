import PasswordChange.Location
import PasswordChange.Text

/-!
# The authentication policy

Only a privileged caller who changes a record in the trusted part of the directory may go
without proving an identity. The caller's privilege is an argument, so the policy is a pure
function of what it is told.
-/

namespace PasswordChange.Policy

/-- Locations under this text are local and trusted, unless the settings say otherwise. -/
def trustedRoot : String := "/Local/"

/-- The location used for the trust check: the first value of the record's metanode location
if it has any, else the location that was searched. -/
def canonicalLocation (values : List (Option String)) (searched : Location) : Location :=
  (values.head?.map Location.ofText?).getD searched

/-- A location is trusted if it names a node and the name begins with the trusted text. -/
def isTrusted (trusted : String) (location : Location) : Bool :=
  location.name?.any (Text.startsWith trusted)

/-- The caller must prove an identity, unless privileged and at a trusted location. -/
def needsAuthentication (privileged : Bool) (location : Location) (trusted : String) : Bool :=
  !(privileged && isTrusted trusted location)

/-- The label of the prompt at which the authenticator's password is read. -/
def oldPasswordPrompt (username authname : String) : String :=
  if authname = username then "Old password:" else "Password for " ++ authname ++ ":"

end PasswordChange.Policy
