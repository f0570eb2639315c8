import PasswordChange.World

/-!
# Acts on the world

An `Act` is a piece of work on a world. It either ends with a value or fails, and leaves a world
behind in both cases.

* `Act.perform` and `Act.consult` turn the steps of a directory and a host into acts.
* `Act.always` does something at the end of an act, however it ends; `Act.onFailure` only if
  the act fails.
* `Act.closing` closes a handle at the end of an act.
-/

namespace PasswordChange

/-- A piece of work on the world, which may fail. -/
def Act (D H α : Type) := World D H → Except Failure α × World D H

namespace Act

variable {D H α β : Type}

/-- The act carried out in a world. -/
def run (act : Act D H α) (w : World D H) : Except Failure α × World D H :=
  act w

def value (a : α) : Act D H α :=
  fun w => (.ok a, w)

def fail (e : Failure) : Act D H α :=
  fun w => (.error e, w)

/-- One act after the other; the second is left out if the first fails. -/
def andThen (act : Act D H α) (next : α → Act D H β) : Act D H β :=
  fun w =>
    match act w with
    | (.ok a, w) => next a w
    | (.error e, w) => (.error e, w)

instance : Monad (Act D H) where
  pure := value
  bind := andThen

/-- A failed act goes on with what its failure calls for. -/
def orElse (act : Act D H α) (handle : Failure → Act D H α) : Act D H α :=
  fun w =>
    match act w with
    | (.ok a, w) => (.ok a, w)
    | (.error e, w) => handle e w

/-! ## Laws of sequences -/

theorem pure_eq_value (a : α) : (pure a : Act D H α) = value a := rfl

theorem bind_eq_andThen (act : Act D H α) (next : α → Act D H β) :
    act >>= next = act.andThen next := rfl

/-- After an act that succeeds, the next one starts in the world that it left behind. -/
theorem andThen_of_ok {act : Act D H α} {next : α → Act D H β} {w w' : World D H} {a : α}
    (h : act w = (.ok a, w')) : act.andThen next w = next a w' := by
  simp [andThen, h]

/-- After an act that fails, nothing more happens. -/
theorem andThen_of_error {act : Act D H α} {next : α → Act D H β} {w w' : World D H}
    {e : Failure} (h : act w = (.error e, w')) : act.andThen next w = (.error e, w') := by
  simp [andThen, h]

instance : LawfulMonad (Act D H) :=
  LawfulMonad.mk' _
    (fun act => by
      funext w
      show andThen act (fun a => value (id a)) w = act w
      rcases h : act w with ⟨_ | _, _⟩ <;> simp [andThen, value, h])
    (fun _ _ => rfl)
    (fun act f g => by
      funext w
      show andThen (andThen act f) g w = andThen act (fun a => andThen (f a) g) w
      rcases h : act w with ⟨_ | _, _⟩ <;> simp [andThen, h])

/-! ## Cleaning up -/

/-- An act and something to do at its end, however it ends. If that fails, its failure counts. -/
def always (act : Act D H α) (cleanup : Act D H Unit) : Act D H α :=
  fun w =>
    match act w with
    | (result, w) =>
      match cleanup w with
      | (.ok _, w) => (result, w)
      | (.error e, w) => (.error e, w)

/-- A cleanup that succeeds does not change how the act ended. -/
theorem always_of_ok {act : Act D H α} {cleanup : Act D H Unit} {w w₁ w₂ : World D H}
    {result : Except Failure α} (first : act w = (result, w₁)) (last : cleanup w₁ = (.ok (), w₂)) :
    act.always cleanup w = (result, w₂) := by
  simp [always, first, last]

/-- An act and something to do if it fails. -/
def onFailure (act : Act D H α) (cleanup : Act D H Unit) : Act D H α :=
  act.orElse fun e => cleanup.andThen fun _ => fail e

/-! ## The parts of the world -/

/-- Adds an event to the journal. -/
def note (event : Event) : Act D H Unit :=
  fun w => (.ok (), { w with journal := w.journal ++ [event] })

/-- An operation of the directory as an act. -/
def perform (operation : D → Step D α) : Act D H α :=
  fun w =>
    let step := operation w.directory
    (step.outcome, { w with directory := step.state, journal := w.journal ++ step.events })

/-- An operation of the host as an act. -/
def consult (operation : H → Step H α) : Act D H α :=
  fun w =>
    let step := operation w.host
    (step.outcome, { w with host := step.state, journal := w.journal ++ step.events })

/-- An operation of the directory that reads secrets, as an act. -/
def submit (operation : Vault → D → Step D α) : Act D H α :=
  fun w => perform (operation w.vault) w

def inspect (look : Vault → α) : Act D H α :=
  fun w => (.ok (look w.vault), w)

def wipe (s : SecretId) : Act D H Unit :=
  fun w => (.ok (), { w with vault := w.vault.wipe s })

def wipe? : Option SecretId → Act D H Unit
  | none => value ()
  | some s => wipe s

/-- An act on a handle, which is closed at the end, however the act ends. -/
def closing [Directory D] (handle : HandleId) (act : Act D H α) : Act D H α :=
  act.always (perform (Directory.close handle))

/-- Runs a program on the host and lets its deeds affect the directory. -/
def launch [Directory D] [Host H] (path : String) (args : List String) : Act D H Int :=
  (consult (Host.run path args)).andThen fun launch w =>
    let directory := launch.deeds.foldl (fun d deed => Directory.undergo deed d) w.directory
    (.ok launch.status, { w with directory })

/-- Adds an entry of the flow to the log. -/
def log (level : Log.Level) (message : String) : Act D H Unit :=
  note (.logged ⟨.flow, level, message⟩)

end Act

end PasswordChange
