import PasswordChange.Act

/-!
# Frames of acts

What an act leaves as it was is a relation between the world before it and the world after it.
A `Frame` is such a relation that holds of every world and itself and that passes through the
worlds in between; so whatever every part of an act keeps, the act keeps.

* `Act.Keeps` says that an act ends, in whatever way, in a world that the frame relates to the
  one in which it began.
* `Backstage` is the frame of all work that happens away from the terminal: answers and secrets
  stay as they are, the directory moves along a given relation, and the journal grows by events
  of a given kind.
* `Directory.IdleFrame`, `Directory.LookupFrame` and `Host.Emits` say what a directory and a host
  contribute to it.
-/

namespace PasswordChange

variable {D H α β : Type}

/-- A decision in two parts is favourable if both parts are. -/
theorem Failure.bind_eq_ok_iff {first : Except Failure α} {next : α → Except Failure β} {b : β} :
    (first >>= next) = .ok b ↔ ∃ a, first = .ok a ∧ next a = .ok b := by
  cases first with
  | error e => simp [bind, Except.bind]
  | ok a => simp [bind, Except.bind]

/-- A decision in two parts is refused in the first part, or in the second after the first was
favourable. -/
theorem Failure.bind_eq_error_iff {first : Except Failure α} {next : α → Except Failure β}
    {e : Failure} :
    (first >>= next) = .error e ↔
      first = .error e ∨ ∃ a, first = .ok a ∧ next a = .error e := by
  cases first with
  | error e' => simp [bind, Except.bind]
  | ok a => simp [bind, Except.bind]

/-- A relation between worlds that every sequence of steps inherits from its steps. -/
structure Frame (D H : Type) where
  rel : World D H → World D H → Prop
  refl (w : World D H) : rel w w
  trans {w₁ w₂ w₃ : World D H} : rel w₁ w₂ → rel w₂ w₃ → rel w₁ w₃

namespace Act

/-! ## How a sequence ends -/

/-- A sequence ends as its second act does after the first has succeeded, or with the failure of
the first. -/
theorem andThen_cases {act : Act D H α} {next : α → Act D H β} {w w' : World D H}
    {r : Except Failure β} (run : act.andThen next w = (r, w')) :
    (∃ a w₁, act w = (.ok a, w₁) ∧ next a w₁ = (r, w')) ∨
      ∃ e, act w = (.error e, w') ∧ r = .error e := by
  rcases first : act w with ⟨_ | a, w₁⟩
  case error e =>
    rw [andThen_of_error first] at run
    cases run
    exact Or.inr ⟨e, rfl, rfl⟩
  case ok =>
    rw [andThen_of_ok first] at run
    exact Or.inl ⟨a, w₁, rfl, run⟩

/-- A sequence that succeeds has gone through a world in between. -/
theorem bind_eq_ok {act : Act D H α} {next : α → Act D H β} {w w' : World D H} {b : β}
    (run : (act >>= next) w = (.ok b, w')) :
    ∃ a w₁, act w = (.ok a, w₁) ∧ next a w₁ = (.ok b, w') := by
  rcases andThen_cases run with through | ⟨e, _, contra⟩
  · exact through
  · cases contra

theorem orElse_of_ok {act : Act D H α} {handle : Failure → Act D H α} {w w' : World D H} {a : α}
    (run : act w = (.ok a, w')) : act.orElse handle w = (.ok a, w') := by
  simp only [orElse, run]

theorem orElse_of_error {act : Act D H α} {handle : Failure → Act D H α} {w w' : World D H}
    {e : Failure} (run : act w = (.error e, w')) : act.orElse handle w = handle e w' := by
  simp only [orElse, run]

/-- An act with a fallback that succeeds has succeeded by itself or through its fallback. -/
theorem orElse_eq_ok {act : Act D H α} {handle : Failure → Act D H α} {w w' : World D H} {a : α}
    (run : act.orElse handle w = (.ok a, w')) :
    act w = (.ok a, w') ∨
      ∃ e w₁, act w = (.error e, w₁) ∧ handle e w₁ = (.ok a, w') := by
  rcases first : act w with ⟨_ | a', w₁⟩
  case error e =>
    rw [orElse_of_error first] at run
    exact Or.inr ⟨e, w₁, rfl, run⟩
  case ok =>
    rw [orElse_of_ok first] at run
    exact Or.inl run

/-- What is done at the end of a sequence is done after its first act if that fails, and else
after the second. -/
theorem always_bind (act : Act D H α) (next : α → Act D H β) (cleanup : Act D H Unit) :
    (act >>= next).always cleanup =
      act.onFailure cleanup >>= fun a => (next a).always cleanup := by
  funext w
  rcases first : act w with ⟨_ | a, w₁⟩
  case error e =>
    rcases last : cleanup w₁ with ⟨_ | _, w₂⟩ <;>
      simp only [bind_eq_andThen, always, onFailure, andThen, orElse, fail, first, last]
  case ok =>
    simp only [bind_eq_andThen, always, onFailure, andThen, orElse, first]

/-! ## What acts keep -/

/-- However the act ends, the frame relates the world before it to the world after it. -/
def Keeps (F : Frame D H) (act : Act D H α) : Prop :=
  ∀ w, F.rel w (act w).2

variable {F : Frame D H}

theorem keeps_value (a : α) : (value a : Act D H α).Keeps F :=
  fun w => F.refl w

theorem keeps_fail (e : Failure) : (fail e : Act D H α).Keeps F :=
  fun w => F.refl w

theorem Keeps.andThen {act : Act D H α} {next : α → Act D H β} (first : act.Keeps F)
    (second : ∀ a, (next a).Keeps F) : (act.andThen next).Keeps F := by
  intro w
  rcases run : act.andThen next w with ⟨r, w'⟩
  have start := first w
  rcases andThen_cases run with ⟨a, w₁, firstRun, nextRun⟩ | ⟨e, firstRun, _⟩
  · have rest := second a w₁
    rw [firstRun] at start
    rw [nextRun] at rest
    exact F.trans start rest
  · rw [firstRun] at start
    exact start

theorem Keeps.bind {act : Act D H α} {next : α → Act D H β} (first : act.Keeps F)
    (second : ∀ a, (next a).Keeps F) : (act >>= next).Keeps F :=
  first.andThen second

theorem Keeps.orElse {act : Act D H α} {handle : Failure → Act D H α} (first : act.Keeps F)
    (second : ∀ e, (handle e).Keeps F) : (act.orElse handle).Keeps F := by
  intro w
  have start := first w
  rcases run : act w with ⟨_ | a, w₁⟩ <;> rw [run] at start
  case error e =>
    rw [orElse_of_error run]
    exact F.trans start (second e w₁)
  case ok =>
    rw [orElse_of_ok run]
    exact start

theorem Keeps.onFailure {act : Act D H α} {cleanup : Act D H Unit} (first : act.Keeps F)
    (last : cleanup.Keeps F) : (act.onFailure cleanup).Keeps F :=
  first.orElse fun _ => last.andThen fun _ => keeps_fail _

theorem Keeps.always {act : Act D H α} {cleanup : Act D H Unit} (first : act.Keeps F)
    (last : cleanup.Keeps F) : (act.always cleanup).Keeps F := by
  intro w
  have start := first w
  rcases run : act w with ⟨r, w₁⟩
  have rest := last w₁
  rw [run] at start
  rcases ended : cleanup w₁ with ⟨_ | _, w₂⟩ <;> rw [ended] at rest <;>
    simp only [Act.always, run, ended] <;> exact F.trans start rest

end Act

/-! ## Backstage -/

/-- The worlds before and after work away from the terminal: the answers to come and the secrets
are the same, the states of the directory are related by `R`, and the events in between satisfy
`P`. -/
structure Backstage (R : D → D → Prop) (P : Event → Prop) (w w' : World D H) : Prop where
  answers : w'.answers = w.answers
  vault : w'.vault = w.vault
  directory : R w.directory w'.directory
  journal : ∃ added, w'.journal = w.journal ++ added ∧ ∀ event ∈ added, P event

/-- The step moves the state along `R` and makes only events that satisfy `P`. -/
def Step.Within {σ : Type} (R : σ → σ → Prop) (P : Event → Prop) (s : σ) (step : Step σ α) :
    Prop :=
  R s step.state ∧ ∀ event ∈ step.events, P event

/-- Nothing at all, anything after anything, and what a program does to the directory move its
state along `R`. -/
structure Directory.IdleFrame (D : Type) [Directory D] (R : D → D → Prop) : Prop where
  refl (d : D) : R d d
  trans {d₁ d₂ d₃ : D} : R d₁ d₂ → R d₂ d₃ → R d₁ d₃
  undergo (deed : Directory.Deed) (d : D) : R d (Directory.undergo deed d)

/-- Everything that a directory does to look up a record and to read it moves its state along `R`
and makes only events that satisfy `P`; and a handle can always be closed. -/
structure Directory.LookupFrame [Directory D] (R : D → D → Prop) (P : Event → Prop) : Prop
    extends Directory.IdleFrame D R where
  createSession (options : List (String × Value)) (d : D) :
    (Directory.createSession options d).Within R P d
  openNodeByName (session : HandleId) (name : String) (d : D) :
    (Directory.openNodeByName session name d).Within R P d
  openNodeByType (session : HandleId) (nodeType : String) (d : D) :
    (Directory.openNodeByType session nodeType d).Within R P d
  copyRecord (node : HandleId) (recordType name : String) (d : D) :
    (Directory.copyRecord node recordType name d).Within R P d
  copyValues (record : HandleId) (attributeName : String) (d : D) :
    (Directory.copyValues record attributeName d).Within R P d
  close (handle : HandleId) (d : D) : (Directory.close handle d).Within R P d
  close_ok (handle : HandleId) (d : D) : (Directory.close handle d).outcome = .ok ()

/-- Whatever a host does makes only events that satisfy `P`. -/
structure Host.Emits [Host H] (P : Event → Prop) : Prop where
  isSingleUser (h : H) : ∀ event ∈ (Host.isSingleUser h).events, P event
  isPrivileged (h : H) : ∀ event ∈ (Host.isPrivileged h).events, P event
  run (path : String) (args : List String) (h : H) :
    ∀ event ∈ (Host.run path args h).events, P event

variable {R : D → D → Prop} {P : Event → Prop}

theorem Backstage.refl (refl : ∀ d, R d d) (w : World D H) : Backstage R P w w :=
  ⟨rfl, rfl, refl _, [], by simp, by simp⟩

theorem Backstage.trans {w₁ w₂ w₃ : World D H} (first : Backstage R P w₁ w₂)
    (trans : ∀ d₁ d₂ d₃, R d₁ d₂ → R d₂ d₃ → R d₁ d₃) (second : Backstage R P w₂ w₃) :
    Backstage R P w₁ w₃ := by
  obtain ⟨added₁, journal₁, kind₁⟩ := first.journal
  obtain ⟨added₂, journal₂, kind₂⟩ := second.journal
  refine ⟨second.answers.trans first.answers, second.vault.trans first.vault,
    trans _ _ _ first.directory second.directory, added₁ ++ added₂, ?_, ?_⟩
  · rw [journal₂, journal₁, List.append_assoc]
  · intro event member
    rcases List.mem_append.1 member with early | late
    · exact kind₁ event early
    · exact kind₂ event late

namespace Directory.IdleFrame

variable [Directory D]

/-- The frame of the work backstage at a directory. -/
def frame (laws : IdleFrame D R) (P : Event → Prop) : Frame D H where
  rel := Backstage R P
  refl := Backstage.refl laws.refl
  trans first second := first.trans (fun _ _ _ => laws.trans) second

variable (laws : IdleFrame D R)

theorem keeps_perform {operation : D → Step D α}
    (within : ∀ d, (operation d).Within R P d) :
    (Act.perform operation : Act D H α).Keeps (laws.frame P) := by
  intro w
  show Backstage R P w _
  exact ⟨rfl, rfl, (within w.directory).1, _, rfl, (within w.directory).2⟩

theorem keeps_consult {operation : H → Step H α}
    (emits : ∀ h, ∀ event ∈ (operation h).events, P event) :
    (Act.consult operation : Act D H α).Keeps (laws.frame P) := by
  intro w
  show Backstage R P w _
  exact ⟨rfl, rfl, laws.refl _, _, rfl, emits w.host⟩

theorem keeps_note {event : Event} (kind : P event) :
    (Act.note event : Act D H Unit).Keeps (laws.frame P) := by
  intro w
  show Backstage R P w _
  refine ⟨rfl, rfl, laws.refl _, [event], rfl, ?_⟩
  simpa using kind

theorem keeps_launch [Host H] (host : Host.Emits (H := H) P) (path : String)
    (args : List String) : (Act.launch path args : Act D H Int).Keeps (laws.frame P) := by
  refine Act.Keeps.andThen (laws.keeps_consult (host.run path args)) fun launch w => ?_
  -- The deeds of the program move the directory one after the other.
  have moved : ∀ (deeds : List Deed) (d : D),
      R d (deeds.foldl (fun d deed => Directory.undergo deed d) d) := by
    intro deeds
    induction deeds with
    | nil => exact laws.refl
    | cons deed rest ih =>
        intro d
        exact laws.trans (laws.undergo deed d) (ih _)
  show Backstage R P w _
  exact ⟨rfl, rfl, moved launch.deeds w.directory, [], by simp, by simp⟩

end Directory.IdleFrame

/-- The frame covers the bootstrap of a daemon: the question to the host, the entries in the log and
the programs that are run. -/
structure Frame.CoversBootstrap [Directory D] [Host H] (F : Frame D H) : Prop where
  isSingleUser : (Act.consult Host.isSingleUser : Act D H Bool).Keeps F
  launch (path : String) (args : List String) : (Act.launch path args : Act D H Int).Keeps F
  logged (level : Log.Level) (message : String) : (Act.log level message : Act D H Unit).Keeps F

theorem Directory.IdleFrame.coversBootstrap [Directory D] [Host H] (laws : IdleFrame D R)
    (host : Host.Emits (H := H) P) (logged : ∀ level message, P (.logged ⟨.flow, level, message⟩)) :
    (laws.frame P : Frame D H).CoversBootstrap where
  isSingleUser := laws.keeps_consult host.isSingleUser
  launch := laws.keeps_launch host
  logged _ _ := laws.keeps_note (logged _ _)

namespace Directory.LookupFrame

variable [Directory D] (laws : LookupFrame (D := D) R P)

theorem keeps_close (handle : HandleId) :
    (Act.perform (Directory.close handle) : Act D H Unit).Keeps (laws.frame P) :=
  laws.keeps_perform (laws.close handle)

theorem keeps_closing (handle : HandleId) {act : Act D H α} (keeps : act.Keeps (laws.frame P)) :
    (Act.closing handle act).Keeps (laws.frame P) :=
  keeps.always (laws.keeps_close handle)

include laws in
/-- Closing a handle at the end of an act changes neither how the act ended nor anything but the
work backstage. -/
theorem closing_run (handle : HandleId) (act : Act D H α) (w : World D H) :
    (Act.closing handle act w).1 = (act w).1 ∧
      Backstage R P (act w).2 (Act.closing handle act w).2 := by
  rcases run : act w with ⟨r, w₁⟩
  have closed : Act.perform (Directory.close handle) w₁ =
      (.ok (), (Act.perform (Directory.close handle) w₁).2) :=
    Prod.ext (laws.close_ok handle w₁.directory) rfl
  have ended := Act.always_of_ok run closed
  have kept := laws.keeps_close (H := H) handle w₁
  unfold Act.closing
  rw [ended]
  exact ⟨rfl, kept⟩

end Directory.LookupFrame

end PasswordChange
