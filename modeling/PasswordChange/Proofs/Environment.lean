import Mathlib.Data.List.Nodup
import PasswordChange.Settings
import PasswordChange.Table

/-!
# Settings in the environment

Every field of the settings has an environment variable of its own, whatever stands at the head of
the names. Settings that are read from an environment follow these variables and no others, and
settings that were exported to an environment can be read back from it.

* `Settings.get_fromEnvironment` says what is read, field by field.
* `Settings.DependsOn` says that a variable makes a difference to what is read.
* `Settings.exportTo` writes settings to an environment, over what is there;
  `Settings.given?_exportTo` says what the environment gives afterwards.
* `Settings.environment_read_exactly` is the main result.
-/

namespace PasswordChange

theorem Table.lookup_eq_get? {α : Type} (t : Table α) (key : String) :
    t.lookup key = t.get? key := by
  induction t with
  | nil => rfl
  | cons entry rest ih =>
      obtain ⟨k, v⟩ := entry
      rw [List.lookup_cons, get?, ih]
      by_cases same : k = key
      · subst same
        simp
      · have other : (key == k) = false := beq_false_of_ne (Ne.symm same)
        rw [other, if_neg same]

namespace Settings

/-! ## Fields and their variables -/

/-- The text in capitals. -/
def capitals (s : String) : String :=
  String.ofList (s.toList.map Char.toUpper)

namespace Field

theorem mem_all (field : Field) : field ∈ all := by
  cases field <;> decide

theorem variableName_eq (root : String) (field : Field) :
    field.variableName root = root ++ capitals field.word := rfl

theorem capitals_word_injective : Function.Injective fun field : Field => capitals field.word := by
  intro f g
  cases f <;> cases g <;> decide

/-- **Two fields never share a variable.** -/
theorem variableName_injective (root : String) :
    Function.Injective fun field : Field => field.variableName root := by
  intro f g same
  apply capitals_word_injective
  exact String.append_right_inj root |>.1 same

end Field

variable {s t : Settings} {root : String} {environment environment' : Table String}

/-- Settings are their fields. -/
theorem ext_get (same : ∀ field, s.get field = t.get field) : s = t := by
  obtain ⟨database, node, trusted, loader, job, flag⟩ := s
  obtain ⟨database', node', trusted', loader', job', flag'⟩ := t
  obtain rfl : database = database' := same .localDatabase
  obtain rfl : node = node' := same .localDefaultNode
  obtain rfl : trusted = trusted' := same .trustedRoot
  obtain rfl : loader = loader' := same .loader
  obtain rfl : job = job' := same .daemonJob
  obtain rfl : flag = flag' := same .singleUserFlag
  rfl

/-! ## Reading -/

/-- The step of a reading: the variable of one field is read, if it is given. -/
def readField (root : String) (environment : Table String) (s : Settings) (field : Field) :
    Settings :=
  match given? environment (field.variableName root) with
  | some value => s.set value field
  | none => s

/-- The step changes its field to what is given, and no other. -/
theorem get_readField (s : Settings) (f g : Field) :
    (s.readField root environment f).get g =
      if f = g then (given? environment (g.variableName root)).getD (s.get g) else s.get g := by
  unfold readField
  by_cases same : f = g
  · subst same
    rw [if_pos rfl]
    cases given? environment (f.variableName root) with
    | none => rfl
    | some value => exact (get_set ..).trans (if_pos rfl)
  · rw [if_neg same]
    cases given? environment (f.variableName root) with
    | none => rfl
    | some value => exact (get_set ..).trans (if_neg same)

/-- After several fields were read, those among them are as given. -/
theorem get_foldl_readField (fields : List Field) (s : Settings) (field : Field) :
    (fields.foldl (readField root environment) s).get field =
      if field ∈ fields then (given? environment (field.variableName root)).getD (s.get field)
      else s.get field := by
  induction fields generalizing s with
  | nil => rfl
  | cons first rest ih =>
      rw [List.foldl_cons, ih, get_readField]
      by_cases here : first = field
      · subst here
        -- A field that is read once more gets the same value.
        have again (value? : Option String) (value : String) :
            value?.getD (value?.getD value) = value?.getD value := by
          cases value? <;> rfl
        simp only [if_true, List.mem_cons_self, again, ite_self]
      · simp only [here, if_false, List.mem_cons, Ne.symm here, false_or]

/-- **Every field is what its variable gives, or its default.** -/
theorem get_fromEnvironment (root : String) (environment : Table String) (field : Field) :
    (fromEnvironment root environment).get field =
      (given? environment (field.variableName root)).getD (({} : Settings).get field) := by
  change (Field.all.foldl (readField root environment) {}).get field = _
  rw [get_foldl_readField, if_pos field.mem_all]

/-- Environments that give the same to the six variables give the same settings. -/
theorem fromEnvironment_congr (same : ∀ field : Field,
      given? environment (field.variableName root) =
        given? environment' (field.variableName root)) :
    fromEnvironment root environment = fromEnvironment root environment' := by
  refine ext_get fun field => ?_
  rw [get_fromEnvironment, get_fromEnvironment, same]

/-- What is given to a variable is what the table has for it, unless that is empty. -/
theorem given?_eq (environment : Table String) (name : String) :
    given? environment name = (environment.get? name).filter fun value => value ≠ "" := by
  unfold given?
  rw [Table.lookup_eq_get?]
  cases environment.get? name with
  | none => rfl
  | some value => by_cases blank : value = "" <;> simp [blank, Option.filter_some]

/-- The variable makes a difference to what is read: there are two environments that differ in this
variable alone, in whatever way, from which different settings are read. -/
def DependsOn (read : Table String → Settings) (name : String) : Prop :=
  ∃ environment environment' : Table String,
    (∀ other, other ≠ name → environment.get? other = environment'.get? other) ∧
      read environment ≠ read environment'

/-- **The variables that make a difference are those of the fields.** -/
theorem dependsOn_fromEnvironment_iff {name : String} :
    DependsOn (fromEnvironment root) name ↔ ∃ field : Field, name = field.variableName root := by
  constructor
  · intro ⟨environment, environment', others, differ⟩
    apply Classical.byContradiction
    intro foreign
    apply differ
    apply fromEnvironment_congr
    intro field
    rw [given?_eq, given?_eq, others]
    exact fun same => foreign ⟨field, same.symm⟩
  · intro ⟨field, same⟩
    subst same
    refine ⟨[(field.variableName root, "0")], [(field.variableName root, "1")], ?_, ?_⟩
    · intro other differs
      simp [Table.get?, Ne.symm differs]
    · intro same
      have read := congrArg (get · field) same
      simp [get_fromEnvironment, given?_eq, Table.get?, Option.filter_some] at read

/-! ## Writing -/

/-- The environment after every field was exported under its name in capitals, with `root` at the
head; a variable that is there is overwritten, any other is left as it is. -/
def exportTo (root : String) (environment : Table String) (s : Settings) : Table String :=
  s.toFields.foldl
    (fun environment entry => environment.put (root ++ capitals entry.1) entry.2) environment

/-- After several fields were exported, their variables have their values. -/
theorem get?_foldl_put (fields : List Field) (environment : Table String) (field : Field) :
    (fields.foldl (fun environment f => environment.put (f.variableName root) (s.get f))
        environment).get? (field.variableName root) =
      if field ∈ fields then some (s.get field)
      else environment.get? (field.variableName root) := by
  induction fields generalizing environment with
  | nil => rfl
  | cons first rest ih =>
      rw [List.foldl_cons, ih, Table.get?_put]
      by_cases here : first = field
      · subst here
        simp
      · have other : first.variableName root ≠ field.variableName root := fun same =>
          here (Field.variableName_injective root same)
        simp only [other, if_false, List.mem_cons, Ne.symm here, false_or]

/-- **What was exported is given**, except that an empty field counts as none. -/
theorem given?_exportTo (root : String) (environment : Table String) (s : Settings)
    (field : Field) :
    given? (s.exportTo root environment) (field.variableName root) =
      if s.get field = "" then none else some (s.get field) := by
  have exported : (s.exportTo root environment).get? (field.variableName root) =
      some (s.get field) := by
    unfold exportTo toFields
    rw [List.foldl_map]
    exact (get?_foldl_put Field.all environment field).trans (if_pos field.mem_all)
  rw [given?_eq, exported]
  by_cases blank : s.get field = "" <;> simp [blank]

/-- Every field comes back that is not empty, and a default comes in the place of one that is. -/
theorem get_fromEnvironment_exportTo (field : Field) :
    (fromEnvironment root (s.exportTo root environment)).get field = s.get field ↔
      s.get field ≠ "" := by
  rw [get_fromEnvironment, given?_exportTo]
  by_cases blank : s.get field = ""
  · rw [if_pos blank, blank]
    refine iff_of_false ?_ (not_not_intro rfl)
    cases field <;> decide
  · rw [if_neg blank]
    exact iff_of_true rfl blank

/-! ## The main result -/

/-- **Settings follow six variables of the environment and nothing else.** Whatever stands at the
head of their names, each field is what the variable of its own name in capitals gives, where an
empty value counts as none, or its default; these variables are six different ones, and they are the
only ones that make a difference. Settings that are exported to an environment, over whatever is
there, come back when they are read exactly if no field is empty, and so do their loader's arguments
if the daemon's job is not. -/
theorem environment_read_exactly (root : String) :
    (∀ (environment : Table String) (field : Field), (fromEnvironment root environment).get field =
      ((environment.get? (root ++ capitals field.word)).filter fun value => value ≠ "").getD
        (({} : Settings).get field)) ∧
    (Field.all.map fun field => root ++ capitals field.word).Nodup ∧
    (∀ name, DependsOn (fromEnvironment root) name ↔
      name ∈ Field.all.map fun field => root ++ capitals field.word) ∧
    ∀ (s : Settings) (environment : Table String),
      (fromEnvironment root (s.exportTo root environment) = s ↔ ∀ field, s.get field ≠ "") ∧
      ((fromEnvironment root (s.exportTo root environment)).loaderArguments = s.loaderArguments ↔
        s.daemonJob ≠ "") := by
  refine ⟨fun environment field => ?_, ?_, fun name => ?_, fun s environment => ⟨?_, ?_⟩⟩
  · rw [get_fromEnvironment, given?_eq, Field.variableName_eq]
  · exact List.Nodup.map (Field.variableName_injective root) (by decide)
  · rw [dependsOn_fromEnvironment_iff, List.mem_map]
    constructor
    · intro ⟨field, same⟩
      exact ⟨field, field.mem_all, same.symm⟩
    · intro ⟨field, _, same⟩
      exact ⟨field, same.symm⟩
  · constructor
    · intro back field
      apply (get_fromEnvironment_exportTo field).1
      rw [back]
    · intro given
      exact ext_get fun field => (get_fromEnvironment_exportTo field).2 (given field)
  · have job : (fromEnvironment root (s.exportTo root environment)).daemonJob = s.daemonJob ↔
        s.daemonJob ≠ "" := get_fromEnvironment_exportTo .daemonJob
    unfold loaderArguments
    rw [← job]
    simp

/-- The variables that are read unless the caller says otherwise. -/
example : (Field.all.map fun field => environmentRoot ++ capitals field.word) =
    ["OD_PASSWD_LOCAL_DB_PATH", "OD_PASSWD_LOCAL_DEFAULT_NODE", "OD_PASSWD_TRUSTED_PREFIX",
      "OD_PASSWD_LAUNCHCTL_PATH", "OD_PASSWD_LOCAL_DAEMON_PLIST",
      "OD_PASSWD_SINGLE_USER_SYSCTL"] := by
  decide +kernel

end Settings

end PasswordChange
