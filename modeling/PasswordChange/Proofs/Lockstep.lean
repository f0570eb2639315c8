import PasswordChange.Proofs.Onstage
import PasswordChange.Proofs.Renaming
import PasswordChange.Status

/-!
# Two acts in step

The same flow runs at two directories at once, on hosts in the same state and with the same answers
up to a renaming of texts. `Comparison` says what is to be compared: which errors count as the same
and which events. `Comparison.InStep` relates two acts that end alike whenever they begin alike, and
there is one rule for each way to put acts together.

The answers of the second directory may be fixed in advance by what the first one does in the whole
run. So two acts need to be in step only where the first run is still `ahead`, which it is at the
beginning if it is at the end.
-/

namespace PasswordChange

/-- The event concerns no directory. -/
def Event.isCommon : Event → Bool
  | .called .. | .released _ | .native .. => false
  | _ => true

theorem Event.isCommon_of_isSpoken {event : Event} (spoken : event.isSpoken = true) :
    event.isCommon = true := by
  cases event <;> first | rfl | cases spoken

/-- What a scripted host does concerns no directory. -/
theorem Host.Scripted.emits_isCommon : Host.Emits (H := Host.Scripted) (·.isCommon = true) :=
  emits_of (fun _ => rfl) fun _ _ => rfl

/-- What is compared between a run at a directory `D` and another run: the texts that are typed are
renamed, and errors and journals are related in a way that takes everything for the same that
concerns no directory. -/
structure Comparison (D : Type) where
  rename : Renaming
  error : DirectoryError → DirectoryError → Prop
  events : Journal → Journal → Prop
  /-- What must be true of the first directory. -/
  ahead : D → Prop
  error_refl (e : DirectoryError) : error e e
  render_eq {e e' : DirectoryError} : error e e' →
    ∀ programName, e'.render programName = e.render programName
  code_iff {e e' : DirectoryError} : error e e' →
    (e'.code = .sessionDaemonNotRunning ↔ e.code = .sessionDaemonNotRunning)
  common (j : Journal) : (∀ event ∈ j, event.isCommon = true) → events j j
  append {j j' k k' : Journal} : events j j' → events k k' → events (j ++ k) (j' ++ k')

namespace Comparison

variable {D₁ D₂ H α β : Type} (cmp : Comparison D₁)

/-- Two failures are the same up to errors of the directory. -/
inductive Fails : Failure → Failure → Prop where
  | same (e : Failure) : Fails e e
  | directory {e e' : DirectoryError} : cmp.error e e' → Fails (.directory e) (.directory e')
  | daemonLoad {e e' : DirectoryError} (load : DaemonLoadError) : cmp.error e e' →
    Fails (.daemonLoad { load with directoryError := some e })
      (.daemonLoad { load with directoryError := some e' })

variable {cmp}

/-- Failures that are the same are reported in the same lines. -/
theorem Fails.report?_eq {e e' : Failure} (fails : cmp.Fails e e') (programName : String) :
    e'.report? programName = e.report? programName := by
  cases fails with
  | same => rfl
  | directory same =>
      simp only [Failure.report?, cmp.render_eq same]
  | daemonLoad load same =>
      simp only [Failure.report?, Option.map_some, cmp.render_eq same]
      rfl

/-- Failures that are not reported are equal. -/
theorem Fails.eq_of_report? {e e' : Failure} (fails : cmp.Fails e e') {programName : String}
    (passed : e.report? programName = none) : e' = e := by
  cases fails with
  | same => rfl
  | directory | daemonLoad => cases passed

variable (cmp)

/-- Two worlds with directories related by `S` and hosts in the same state, in which the same
answers are to come, up to the renaming, and the next secret has the same name. -/
structure Abreast (S : D₁ → D₂ → Prop) (w₁ : World D₁ H) (w₂ : World D₂ H) : Prop where
  directory : S w₁.directory w₂.directory
  host : w₂.host = w₁.host
  vault : w₁.vault.Alike w₂.vault
  answers : w₂.answers = w₁.answers.map (Answer.rename cmp.rename)

/-- The events added on both sides are related. -/
def Along (w₁ w₁' : World D₁ H) (w₂ w₂' : World D₂ H) : Prop :=
  ∃ added₁ added₂, w₁'.journal = w₁.journal ++ added₁ ∧ w₂'.journal = w₂.journal ++ added₂ ∧
    cmp.events added₁ added₂

/-- Both acts succeed, with values and directories related by `T`, or both fail in the same way,
with directories related by `E`. -/
inductive Ends (T : α → α → D₁ → D₂ → Prop) (E : D₁ → D₂ → Prop) :
    Except Failure α × World D₁ H → Except Failure α × World D₂ H → Prop where
  | ok {a b : α} {w₁ : World D₁ H} {w₂ : World D₂ H} : cmp.Abreast (T a b) w₁ w₂ →
    Ends T E (.ok a, w₁) (.ok b, w₂)
  | error {e e' : Failure} {w₁ : World D₁ H} {w₂ : World D₂ H} : cmp.Fails e e' →
    cmp.Abreast E w₁ w₂ → Ends T E (.error e, w₁) (.error e', w₂)

/-- From directories related by `S`, the two acts end alike. -/
def InStep (S : D₁ → D₂ → Prop) (act₁ : Act D₁ H α) (act₂ : Act D₂ H α)
    (T : α → α → D₁ → D₂ → Prop) (E : D₁ → D₂ → Prop) : Prop :=
  ∀ w₁ w₂, cmp.Abreast S w₁ w₂ → cmp.ahead (act₁ w₁).2.directory →
    cmp.Ends T E (act₁ w₁) (act₂ w₂) ∧ cmp.Along w₁ (act₁ w₁).2 w₂ (act₂ w₂).2

/-- What is true of the first directory afterwards was true before. -/
def Earlier (d d' : D₁) : Prop :=
  cmp.ahead d' → cmp.ahead d

/-- The frame of everything that starts ahead if it ends ahead. -/
def course : Frame D₁ H where
  rel w w' := cmp.Earlier w.directory w'.directory
  refl _ := id
  trans first second := fun last => first (second last)

theorem keeps_course [Directory D₁] {laws : Directory.IdleFrame D₁ cmp.Earlier}
    {act : Act D₁ H α} (keeps : act.Keeps (laws.stage fun _ => True)) : act.Keeps cmp.course :=
  fun w => Onstage.directory (keeps w)

variable {cmp}
variable {S S' E E' : D₁ → D₂ → Prop} {T T' : α → α → D₁ → D₂ → Prop}
  {act₁ : Act D₁ H α} {act₂ : Act D₂ H α}

theorem Abreast.mono {w₁ : World D₁ H} {w₂ : World D₂ H} (abreast : cmp.Abreast S w₁ w₂)
    (imp : S w₁.directory w₂.directory → S' w₁.directory w₂.directory) :
    cmp.Abreast S' w₁ w₂ :=
  ⟨imp abreast.directory, abreast.host, abreast.vault, abreast.answers⟩

theorem Along.refl (w₁ : World D₁ H) (w₂ : World D₂ H) : cmp.Along w₁ w₁ w₂ w₂ :=
  ⟨[], [], (List.append_nil _).symm, (List.append_nil _).symm, cmp.common [] fun _ => nofun⟩

theorem Along.trans {w₁ w₁' w₁'' : World D₁ H} {w₂ w₂' w₂'' : World D₂ H}
    (first : cmp.Along w₁ w₁' w₂ w₂') (second : cmp.Along w₁' w₁'' w₂' w₂'') :
    cmp.Along w₁ w₁'' w₂ w₂'' := by
  obtain ⟨early₁, early₂, grown₁, grown₂, early⟩ := first
  obtain ⟨late₁, late₂, later₁, later₂, late⟩ := second
  refine ⟨early₁ ++ late₁, early₂ ++ late₂, ?_, ?_, cmp.append early late⟩
  · rw [later₁, grown₁, List.append_assoc]
  · rw [later₂, grown₂, List.append_assoc]

/-- If the first act succeeds, so does the second. -/
theorem InStep.of_ok {w₁ w₁' : World D₁ H} {w₂ : World D₂ H} {a : α}
    (inStep : cmp.InStep S act₁ act₂ T E) (abreast : cmp.Abreast S w₁ w₂)
    (run : act₁ w₁ = (.ok a, w₁')) (ahead : cmp.ahead w₁'.directory) :
    ∃ b w₂', act₂ w₂ = (.ok b, w₂') ∧ cmp.Abreast (T a b) w₁' w₂' ∧
      cmp.Along w₁ w₁' w₂ w₂' := by
  have both := inStep w₁ w₂ abreast
  rw [run] at both
  obtain ⟨ends, along⟩ := both ahead
  rcases other : act₂ w₂ with ⟨r, w₂'⟩
  rw [other] at ends along
  cases ends with
  | ok after => exact ⟨_, w₂', rfl, after, along⟩

/-- If the first act fails, so does the second. -/
theorem InStep.of_error {w₁ w₁' : World D₁ H} {w₂ : World D₂ H} {e : Failure}
    (inStep : cmp.InStep S act₁ act₂ T E) (abreast : cmp.Abreast S w₁ w₂)
    (run : act₁ w₁ = (.error e, w₁')) (ahead : cmp.ahead w₁'.directory) :
    ∃ e' w₂', act₂ w₂ = (.error e', w₂') ∧ cmp.Fails e e' ∧ cmp.Abreast E w₁' w₂' ∧
      cmp.Along w₁ w₁' w₂ w₂' := by
  have both := inStep w₁ w₂ abreast
  rw [run] at both
  obtain ⟨ends, along⟩ := both ahead
  rcases other : act₂ w₂ with ⟨r, w₂'⟩
  rw [other] at ends along
  cases ends with
  | error fails after => exact ⟨_, w₂', rfl, fails, after, along⟩

/-! ## Sequences -/

namespace InStep

/-- A fact that does not depend on the directories is at hand. -/
theorem given {φ : Prop} (inStep : φ → cmp.InStep S act₁ act₂ T E) :
    cmp.InStep (fun d₁ d₂ => φ ∧ S d₁ d₂) act₁ act₂ T E :=
  fun w₁ w₂ abreast => inStep abreast.directory.1 w₁ w₂ (abreast.mono And.right)

theorem value {a b : α} (related : ∀ d₁ d₂, S d₁ d₂ → T a b d₁ d₂) :
    cmp.InStep S (.value a : Act D₁ H α) (.value b : Act D₂ H α) T E :=
  fun w₁ w₂ abreast _ => ⟨.ok (abreast.mono (related _ _)), .refl w₁ w₂⟩

theorem fail {e e' : Failure} (fails : cmp.Fails e e') :
    cmp.InStep S (.fail e : Act D₁ H α) (.fail e' : Act D₂ H α) T S :=
  fun w₁ w₂ abreast _ => ⟨.error fails abreast, .refl w₁ w₂⟩

theorem bind {next₁ : α → Act D₁ H β} {next₂ : α → Act D₂ H β}
    {T' : β → β → D₁ → D₂ → Prop} (first : cmp.InStep S act₁ act₂ T E)
    (later : ∀ a, (next₁ a).Keeps cmp.course)
    (second : ∀ a b, cmp.InStep (T a b) (next₁ a) (next₂ b) T' E) :
    cmp.InStep S (act₁ >>= next₁) (act₂ >>= next₂) T' E := by
  intro w₁ w₂ abreast ahead
  rw [Act.bind_eq_andThen] at ahead
  rw [Act.bind_eq_andThen, Act.bind_eq_andThen]
  rcases run : act₁ w₁ with ⟨_ | a, w₁'⟩
  case error e =>
    rw [Act.andThen_of_error run] at ahead ⊢
    obtain ⟨e', w₂', other, fails, after, along⟩ := first.of_error abreast run ahead
    rw [Act.andThen_of_error other]
    exact ⟨.error fails after, along⟩
  case ok =>
    rw [Act.andThen_of_ok run] at ahead ⊢
    obtain ⟨b, w₂', other, after, along⟩ := first.of_ok abreast run (later a w₁' ahead)
    rw [Act.andThen_of_ok other]
    obtain ⟨ends, along'⟩ := second a b w₁' w₂' after ahead
    exact ⟨ends, along.trans along'⟩

theorem orElse {handle₁ : Failure → Act D₁ H α} {handle₂ : Failure → Act D₂ H α}
    (first : cmp.InStep S act₁ act₂ T E) (later : ∀ e, (handle₁ e).Keeps cmp.course)
    (second : ∀ e e', cmp.Fails e e' → cmp.InStep E (handle₁ e) (handle₂ e') T E') :
    cmp.InStep S (act₁.orElse handle₁) (act₂.orElse handle₂) T E' := by
  intro w₁ w₂ abreast ahead
  rcases run : act₁ w₁ with ⟨_ | a, w₁'⟩
  case error e =>
    rw [Act.orElse_of_error run] at ahead ⊢
    obtain ⟨e', w₂', other, fails, after, along⟩ :=
      first.of_error abreast run (later e w₁' ahead)
    rw [Act.orElse_of_error other]
    obtain ⟨ends, along'⟩ := second e e' fails w₁' w₂' after ahead
    exact ⟨ends, along.trans along'⟩
  case ok =>
    rw [Act.orElse_of_ok run] at ahead ⊢
    obtain ⟨b, w₂', other, after, along⟩ := first.of_ok abreast run ahead
    rw [Act.orElse_of_ok other]
    exact ⟨.ok after, along⟩

end InStep

/-! ## Steps of a directory and of a host -/

variable (cmp)

/-- Two steps end alike, and their events are related. -/
inductive Steps (T : α → α → D₁ → D₂ → Prop) (E : D₁ → D₂ → Prop) :
    Step D₁ α → Step D₂ α → Prop where
  | ok {a b : α} {d₁ : D₁} {d₂ : D₂} {j k : List Event} : T a b d₁ d₂ → cmp.events j k →
    Steps T E (.ok a d₁ j) (.ok b d₂ k)
  | fail {e e' : Failure} {d₁ : D₁} {d₂ : D₂} {j k : List Event} : cmp.Fails e e' → E d₁ d₂ →
    cmp.events j k → Steps T E (.fail e d₁ j) (.fail e' d₂ k)

variable {cmp} in
theorem Steps.mono {step₁ : Step D₁ α} {step₂ : Step D₂ α} (steps : cmp.Steps T E step₁ step₂)
    (value : ∀ a b d₁ d₂, T a b d₁ d₂ → T' a b d₁ d₂) (failure : ∀ d₁ d₂, E d₁ d₂ → E' d₁ d₂) :
    cmp.Steps T' E' step₁ step₂ := by
  cases steps with
  | ok related same => exact .ok (value _ _ _ _ related) same
  | fail fails related same => exact .fail fails (failure _ _ related) same

/-- From states related by `S`, two operations end alike. -/
def Tandem (S : D₁ → D₂ → Prop) (operation₁ : D₁ → Step D₁ α) (operation₂ : D₂ → Step D₂ α)
    (T : α → α → D₁ → D₂ → Prop) (E : D₁ → D₂ → Prop) : Prop :=
  ∀ d₁ d₂, S d₁ d₂ → cmp.ahead (operation₁ d₁).state →
    cmp.Steps T E (operation₁ d₁) (operation₂ d₂)

variable {cmp}

namespace InStep

theorem perform {operation₁ : D₁ → Step D₁ α} {operation₂ : D₂ → Step D₂ α}
    (tandem : cmp.Tandem S operation₁ operation₂ T E) :
    cmp.InStep S (.perform operation₁ : Act D₁ H α) (.perform operation₂ : Act D₂ H α) T E := by
  intro w₁ w₂ abreast ahead
  have steps := tandem w₁.directory w₂.directory abreast.directory ahead
  unfold Act.perform
  generalize operation₁ w₁.directory = step₁ at steps ⊢
  generalize operation₂ w₂.directory = step₂ at steps ⊢
  cases steps with
  | ok related same =>
      exact ⟨.ok ⟨related, abreast.host, abreast.vault, abreast.answers⟩, _, _, rfl, rfl, same⟩
  | fail fails related same =>
      exact ⟨.error fails ⟨related, abreast.host, abreast.vault, abreast.answers⟩,
        _, _, rfl, rfl, same⟩

theorem note {event : Event} (isCommon : event.isCommon = true) :
    cmp.InStep S (.note event : Act D₁ H Unit) (.note event : Act D₂ H Unit) (fun _ _ => S) E :=
  fun _ _ abreast _ =>
    ⟨.ok ⟨abreast.directory, abreast.host, abreast.vault, abreast.answers⟩, [event], [event],
      rfl, rfl, cmp.common _ (List.forall_mem_singleton.2 isCommon)⟩

/-- A host in the same state gives the same answer. -/
theorem consult {operation : H → Step H α}
    (isCommon : ∀ h, ∀ event ∈ (operation h).events, event.isCommon = true) :
    cmp.InStep S (.consult operation : Act D₁ H α) (.consult operation : Act D₂ H α)
      (fun a b d₁ d₂ => b = a ∧ S d₁ d₂) S := by
  intro w₁ w₂ abreast _
  have kind := isCommon w₁.host
  unfold Act.consult
  rw [abreast.host]
  generalize operation w₁.host = step at kind ⊢
  obtain ⟨_ | a, host, events⟩ := step
  · exact ⟨.error (.same _) ⟨abreast.directory, rfl, abreast.vault, abreast.answers⟩,
      events, events, rfl, rfl, cmp.common _ kind⟩
  · exact ⟨.ok ⟨⟨rfl, abreast.directory⟩, rfl, abreast.vault, abreast.answers⟩,
      events, events, rfl, rfl, cmp.common _ kind⟩

end InStep

section Directories

variable [Directory D₁] [Directory D₂]

variable (cmp) in
/-- From directories related by `S`, two handles can be closed, and then the directories are
related by `S'`. -/
def Closes (S : D₁ → D₂ → Prop) (handle₁ handle₂ : HandleId) (S' : D₁ → D₂ → Prop) : Prop :=
  ∀ d₁ d₂, S d₁ d₂ → cmp.ahead (Directory.close handle₁ d₁).state →
    (Directory.close handle₁ d₁).outcome = .ok () ∧
      (Directory.close handle₂ d₂).outcome = .ok () ∧
      S' (Directory.close handle₁ d₁).state (Directory.close handle₂ d₂).state ∧
      cmp.events (Directory.close handle₁ d₁).events (Directory.close handle₂ d₂).events

/-- The world after a handle was closed. -/
def closed {D : Type} [Directory D] (handle : HandleId) (w : World D H) : World D H :=
  (Act.perform (Directory.close handle) w).2

theorem closing_eq {D : Type} [Directory D] {handle : HandleId} {act : Act D H α}
    {w w' : World D H} {r : Except Failure α} (run : act w = (r, w'))
    (closes : (Directory.close handle w'.directory).outcome = .ok ()) :
    Act.closing handle act w = (r, closed handle w') :=
  Act.always_of_ok run (Prod.ext closes rfl)

theorem Closes.abreast {handle₁ handle₂ : HandleId} (closes : cmp.Closes S handle₁ handle₂ S')
    {w₁ : World D₁ H} {w₂ : World D₂ H} (abreast : cmp.Abreast S w₁ w₂)
    (ahead : cmp.ahead (closed handle₁ w₁).directory) :
    (Directory.close handle₁ w₁.directory).outcome = .ok () ∧
      (Directory.close handle₂ w₂.directory).outcome = .ok () ∧
      cmp.Abreast S' (closed handle₁ w₁) (closed handle₂ w₂) ∧
      cmp.Along w₁ (closed handle₁ w₁) w₂ (closed handle₂ w₂) := by
  obtain ⟨ok₁, ok₂, related, same⟩ := closes _ _ abreast.directory ahead
  exact ⟨ok₁, ok₂, ⟨related, abreast.host, abreast.vault, abreast.answers⟩, _, _, rfl, rfl, same⟩

/-- A fact that does not depend on the directories stays true. -/
theorem Closes.with {φ : Prop} {handle₁ handle₂ : HandleId}
    (closes : cmp.Closes S handle₁ handle₂ S') :
    cmp.Closes (fun d₁ d₂ => φ ∧ S d₁ d₂) handle₁ handle₂ (fun d₁ d₂ => φ ∧ S' d₁ d₂) := by
  rintro d₁ d₂ ⟨fact, related⟩ ahead
  obtain ⟨ok₁, ok₂, after, same⟩ := closes d₁ d₂ related ahead
  exact ⟨ok₁, ok₂, ⟨fact, after⟩, same⟩

/-- Two handles are closed at the end, however the acts end. -/
theorem InStep.closing {handle₁ handle₂ : HandleId} (inStep : cmp.InStep S act₁ act₂ T E)
    (later : (Act.perform (Directory.close handle₁) : Act D₁ H Unit).Keeps cmp.course)
    (closes : ∀ a b, cmp.Closes (T a b) handle₁ handle₂ (T' a b))
    (closesAfter : cmp.Closes E handle₁ handle₂ E') :
    cmp.InStep S (Act.closing handle₁ act₁) (Act.closing handle₂ act₂) T' E' := by
  intro w₁ w₂ abreast ahead
  have last : cmp.ahead (closed handle₁ (act₁ w₁).2).directory := by
    have same : (Act.closing handle₁ act₁ w₁).2 = closed handle₁ (act₁ w₁).2 := by
      unfold Act.closing Act.always closed
      dsimp only
      split <;> rename_i ended <;> rw [ended]
    rw [same] at ahead
    exact ahead
  rcases run : act₁ w₁ with ⟨_ | a, w₁'⟩ <;> rw [run] at last
  case error e =>
    obtain ⟨e', w₂', other, fails, after, along⟩ :=
      inStep.of_error abreast run (later w₁' last)
    obtain ⟨ok₁, ok₂, settled, along'⟩ := closesAfter.abreast after last
    rw [closing_eq run ok₁, closing_eq other ok₂]
    exact ⟨.error fails settled, along.trans along'⟩
  case ok =>
    obtain ⟨b, w₂', other, after, along⟩ := inStep.of_ok abreast run (later w₁' last)
    obtain ⟨ok₁, ok₂, settled, along'⟩ := (closes a b).abreast after last
    rw [closing_eq run ok₁, closing_eq other ok₂]
    exact ⟨.ok settled, along.trans along'⟩

/-- A program that is run has the same deeds, which affect both directories. -/
theorem InStep.launch [Host H] (emits : Host.Emits (H := H) (·.isCommon = true))
    (undergo : ∀ deed d₁ d₂, S d₁ d₂ →
      S (Directory.undergo deed d₁) (Directory.undergo deed d₂)) (path : String)
    (args : List String) :
    cmp.InStep S (.launch path args : Act D₁ H Int) (.launch path args : Act D₂ H Int)
      (fun a b d₁ d₂ => b = a ∧ S d₁ d₂) S := by
  intro w₁ w₂ abreast _
  have affected : ∀ (deeds : List Directory.Deed) (d₁ : D₁) (d₂ : D₂), S d₁ d₂ →
      S (deeds.foldl (fun d deed => Directory.undergo deed d) d₁)
        (deeds.foldl (fun d deed => Directory.undergo deed d) d₂) := by
    intro deeds
    induction deeds with
    | nil => exact fun _ _ => id
    | cons deed rest ih => exact fun d₁ d₂ related => ih _ _ (undergo deed d₁ d₂ related)
  have kind := emits.run path args w₁.host
  unfold Act.launch Act.andThen Act.consult
  rw [abreast.host]
  generalize Host.run path args w₁.host = step at kind ⊢
  obtain ⟨_ | launch, host, events⟩ := step
  · exact ⟨.error (.same _) ⟨abreast.directory, rfl, abreast.vault, abreast.answers⟩,
      events, events, rfl, rfl, cmp.common _ kind⟩
  · exact ⟨.ok ⟨⟨rfl, affected launch.deeds _ _ abreast.directory⟩, rfl, abreast.vault,
      abreast.answers⟩, events, events, rfl, rfl, cmp.common _ kind⟩

end Directories

end Comparison

end PasswordChange
