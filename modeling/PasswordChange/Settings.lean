import PasswordChange.Failure
import PasswordChange.Policy
import PasswordChange.Text.Quoted

/-!
# Settings

The paths and names that the flow depends on. Each of the six fields has a default and can be
overridden by an environment variable named after it.

* `Settings.ofFields` builds settings from named fields, `Settings.fromEnvironment` from an
  environment.
* `Settings.toFields` is the way back.
-/

namespace PasswordChange

/-- Paths and names. -/
structure Settings where
  /-- The local directory database on disk, for single-user sessions. -/
  localDatabase : String := "/var/db/dslocal"
  /-- The node to use when the local daemon had to be loaded. -/
  localDefaultNode : String := "/Local/Default"
  /-- Locations that begin with this text are local and trusted. -/
  trustedRoot : String := Policy.trustedRoot
  /-- The program that loads daemons. -/
  loader : String := "/bin/launchctl"
  /-- The job definition of the local directory daemon. -/
  daemonJob : String := "/System/Library/LaunchDaemons/com.apple.DirectoryServicesLocal.plist"
  /-- The kernel flag that tells whether the host runs in single-user mode. -/
  singleUserFlag : String := "kern.singleuser"
  deriving DecidableEq, Repr, Inhabited

namespace Settings

/-! ## Fields by name -/

/-- The fields of the settings. -/
inductive Field where
  | localDatabase
  | localDefaultNode
  | trustedRoot
  | loader
  | daemonJob
  | singleUserFlag
  deriving DecidableEq, Repr

namespace Field

def all : List Field :=
  [localDatabase, localDefaultNode, trustedRoot, loader, daemonJob, singleUserFlag]

def word : Field → String
  | localDatabase => "local_db_path"
  | localDefaultNode => "local_default_node"
  | trustedRoot => "trusted_prefix"
  | loader => "launchctl_path"
  | daemonJob => "local_daemon_plist"
  | singleUserFlag => "single_user_sysctl"

/-- The field of a public name, if there is one. -/
def ofWord? (s : String) : Option Field :=
  all.find? fun field => field.word == s

/-- The environment variable of a field: its name in capitals after `root`. -/
def variableName (root : String) (field : Field) : String :=
  root ++ String.ofList (field.word.toList.map Char.toUpper)

end Field

def get (s : Settings) : Field → String
  | .localDatabase => s.localDatabase
  | .localDefaultNode => s.localDefaultNode
  | .trustedRoot => s.trustedRoot
  | .loader => s.loader
  | .daemonJob => s.daemonJob
  | .singleUserFlag => s.singleUserFlag

def set (s : Settings) (value : String) : Field → Settings
  | .localDatabase => { s with localDatabase := value }
  | .localDefaultNode => { s with localDefaultNode := value }
  | .trustedRoot => { s with trustedRoot := value }
  | .loader => { s with loader := value }
  | .daemonJob => { s with daemonJob := value }
  | .singleUserFlag => { s with singleUserFlag := value }

theorem get_set (s : Settings) (value : String) (f g : Field) :
    (s.set value f).get g = if f = g then value else s.get g := by
  cases f <;> cases g <;> rfl

/-- The settings with the given fields, and defaults for the rest; refuses a name that is no
field. -/
def ofFields : List (String × String) → Except Failure Settings
  | [] => .ok {}
  | (name, value) :: rest =>
    match Field.ofWord? name with
    | none => .error (.unknownField name)
    | some field => (ofFields rest).map (·.set value field)

def toFields (s : Settings) : List (String × String) :=
  Field.all.map fun field => (field.word, s.get field)

/-! ## The environment -/

/-- Environment variables are named with this at their head, unless the caller says otherwise. -/
def environmentRoot : String := "OD_PASSWD_"

/-- The value that an environment gives to a variable; an empty one counts as none. -/
def given? (environment : List (String × String)) (name : String) : Option String :=
  match environment.lookup name with
  | some value => if value.isEmpty then none else some value
  | none => none

/-- The defaults, overridden by the variables that the environment gives. -/
def fromEnvironment (root : String) (environment : List (String × String)) : Settings :=
  Field.all.foldl (fun s field =>
    match given? environment (field.variableName root) with
    | some value => s.set value field
    | none => s) {}

/-! ## Displays and arguments -/

/-- The loader's arguments: load the job of the local daemon. -/
def loaderArguments (s : Settings) : List String :=
  ["load", s.daemonJob]

def quoted (s : Settings) : String :=
  "Settings(" ++ ", ".intercalate (s.toFields.map fun (name, value) =>
    name ++ "=" ++ Text.quoted value) ++ ")"

end Settings

end PasswordChange
