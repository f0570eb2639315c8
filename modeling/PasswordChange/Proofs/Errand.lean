import PasswordChange.Proofs.Course
import PasswordChange.Status

/-!
# Errands

The library is called in two ways: to run the flow, or to run it and report how it ended. An
`Errand` is such a call. `Errand.inner?` tells which run of the flow is inside it, and
`Errand.act_cases` that there is nothing around that run but silent work that leaves the
directory, the secrets and the answers alone.
-/

namespace PasswordChange

variable {D H : Type}

/-- A call of the library. -/
inductive Errand where
  | run (c : Changer) (request : Request)
  | report (settings : Settings) (programName : String) (form : Form)

/-- The event is a question to the host or a warning. -/
def Event.isAside : Event → Bool
  | .queried _ | .warned _ => true
  | _ => false

theorem Event.isSilent_of_isAside {event : Event} (isAside : event.isAside = true) :
    event.isSilent = true := by
  cases event <;> first | rfl | cases isAside

/-- The directory, the secrets and the answers are the same, and only events aside were added. -/
abbrev Aside (w w' : World D H) : Prop :=
  Backstage (fun d d' => d' = d) (·.isAside = true) w w'

theorem Aside.refl (w : World D H) : Aside w w :=
  ⟨rfl, rfl, rfl, [], (List.append_nil _).symm, fun _ member => (List.not_mem_nil member).elim⟩

theorem Aside.trans {w₁ w₂ w₃ : World D H} (first : Aside w₁ w₂) (second : Aside w₂ w₃) :
    Aside w₁ w₃ :=
  Backstage.trans first (fun _ _ _ same same' => same'.trans same) second

theorem Aside.add {w : World D H} {events : List Event}
    (aside : ∀ event ∈ events, event.isAside = true) :
    Aside w { w with journal := w.journal ++ events } :=
  ⟨rfl, rfl, rfl, events, rfl, aside⟩

theorem Journal.released_eq_nil {j : Journal}
    (unreleased : ∀ event ∈ j, ∀ kind, event ≠ .released kind) : j.released = [] := by
  refine List.filterMap_eq_nil_iff.2 fun event member => ?_
  have other := unreleased event member
  cases event <;> first | rfl | exact absurd rfl (other _)

theorem Journal.released_of_isAside {j : Journal} (aside : ∀ event ∈ j, event.isAside = true) :
    j.released = [] := by
  refine released_eq_nil fun event member kind => ?_
  rintro rfl
  cases aside _ member

/-- Work aside of a piece of work adds events aside before it and after it. -/
theorem Aside.since_eq {w w₀ w₁ w' : World D H} (before : Aside w w₀)
    (grows : w₀.journal <+: w₁.journal) (after : Aside w₁ w') :
    ∃ early late, w.since w' = early ++ w₀.since w₁ ++ late ∧
      (∀ event ∈ early, event.isAside = true) ∧ ∀ event ∈ late, event.isAside = true := by
  obtain ⟨added, during⟩ := grows
  obtain ⟨early, journal₀, aside₀⟩ := before.journal
  obtain ⟨late, journal₁, aside₁⟩ := after.journal
  refine ⟨early, late, ?_, aside₀, aside₁⟩
  rw [World.since_of_journal_eq during.symm]
  refine World.since_of_journal_eq ?_
  rw [journal₁, ← during, journal₀]
  simp only [List.append_assoc]

/-- Work aside of a piece of work adds to it no prompt, no secret and no released handle. -/
theorem Aside.since {w w₀ w₁ w' : World D H} (before : Aside w w₀)
    (grows : w₀.journal <+: w₁.journal) (after : Aside w₁ w') :
    (w.since w').prompts = (w₀.since w₁).prompts ∧
      (w.since w').issued = (w₀.since w₁).issued ∧
      (w.since w').released = (w₀.since w₁).released := by
  obtain ⟨early, late, whole, aside₀, aside₁⟩ := before.since_eq grows after
  have first := Journal.prompts_of_isSilent fun event member =>
    Event.isSilent_of_isAside (aside₀ event member)
  have last := Journal.prompts_of_isSilent fun event member =>
    Event.isSilent_of_isAside (aside₁ event member)
  rw [whole]
  simp [first, last, Journal.released_of_isAside aside₀, Journal.released_of_isAside aside₁]

/-- An act whose value does not matter. -/
def Act.discard {α : Type} (act : Act D H α) : Act D H Unit :=
  fun w => ((act w).1.map fun _ => (), (act w).2)

namespace Errand

variable [Directory D]

/-- The errand as an act; what it returns does not matter here. -/
def act [Host H] : Errand → Act D H Unit
  | run c request => (c.run request).discard
  | report settings programName form => (changePassword settings programName form).discard

/-- The run of the flow inside an errand on a scripted host: its changer, its request, and the
world in which it begins. -/
def inner? (w : World D Host.Scripted) : Errand → Option (Changer × Request × World D Host.Scripted)
  | run c request => some (c, request, w)
  | report settings _ form =>
    if Text.isBlank form.username then none
    else
      form.submit.toOption.map fun request =>
        (⟨settings, w.host.privileged⟩, request,
          { w with journal := w.journal ++ [.queried .privileged] })

/-- A form with a user can be submitted. -/
theorem submit_of_not_isBlank {form : Form} (named : Text.isBlank form.username = false) :
    ∃ request, form.submit = .ok request := by
  obtain ⟨username, location, authname⟩ := form
  cases username with
  | none => cases named
  | some username =>
      have typed : username ≠ "" := by
        rintro rfl
        cases named
      simp only [Form.submit, dif_neg typed]
      cases authname with
      | none => exact ⟨_, rfl⟩
      | some authname =>
          dsimp only
          split <;> exact ⟨_, rfl⟩

omit [Directory D] in
theorem forM_warn [Host H] (lines : List String) (w : World D H) :
    lines.forM Terminal.warn w =
      (.ok (), { w with journal := w.journal ++ lines.map .warned }) := by
  induction lines generalizing w with
  | nil =>
      rw [List.map_nil, List.append_nil]
      rfl
  | cons line rest ih =>
      refine (Act.andThen_of_ok rfl).trans ((ih _).trans ?_)
      rw [List.map_cons, List.append_assoc]
      rfl

section Failures

variable [Host H] {programName : String} {e : Failure}

omit [Directory D]

omit [Host H] in
/-- A failure that is not for the user is passed on. -/
theorem reportFailure_of_none (passed : e.report? programName = none) (w : World D H) :
    reportFailure programName e w = (.error e, w) := by
  unfold reportFailure
  rw [passed]
  rfl

/-- A failure that is for the user is shown in its lines. -/
theorem reportFailure_of_some {lines : List String} (shown : e.report? programName = some lines)
    (w : World D H) :
    reportFailure programName e w =
      (.ok .failure, { w with journal := w.journal ++ lines.map .warned }) := by
  unfold reportFailure
  rw [shown]
  exact Act.andThen_of_ok (forM_warn lines w)

/-- Reporting a failure is work aside, and an interruption is passed on. -/
theorem reportFailure_cases (programName : String) (e : Failure) (w : World D H) :
    Aside w (reportFailure programName e w).2 ∧
      ((reportFailure programName e w).1 = .error e ∨
        ∃ status, (reportFailure programName e w).1 = .ok status ∧ e ≠ .interrupted) := by
  rcases reported : e.report? programName with _ | lines
  · rw [reportFailure_of_none reported]
    exact ⟨Aside.refl w, Or.inl rfl⟩
  · rw [reportFailure_of_some reported]
    refine ⟨Aside.add ?_, Or.inr ⟨_, rfl, ?_⟩⟩
    · simp [Event.isAside]
    · rintro rfl
      cases reported

end Failures

/-- The act, and a report of how it ended. -/
def reported [Host H] (programName : String) (act : Act D H Outcome) : Act D H Status :=
  (act.andThen fun _ => Act.value .success).orElse (reportFailure programName)

section Reported

variable [Host H] {act : Act D H Outcome} {w w₁ : World D H} (programName : String)

omit [Directory D]

theorem reported_of_ok {outcome : Outcome} (ran : act w = (.ok outcome, w₁)) :
    reported programName act w = (.ok .success, w₁) :=
  Act.orElse_of_ok (Act.andThen_of_ok ran)

theorem reported_of_error {e : Failure} (ran : act w = (.error e, w₁)) :
    reported programName act w = reportFailure programName e w₁ :=
  Act.orElse_of_error (Act.andThen_of_error ran)

end Reported

omit [Directory D] in
/-- A report is work aside, and an interruption is passed on. -/
theorem reported_aside [Host H] (programName : String) (act : Act D H Outcome) (w : World D H) :
    Aside (act w).2 (reported programName act w).2 ∧
      ((reported programName act w).1 = .error .interrupted ↔
        (act w).1 = .error .interrupted) := by
  rcases ran : act w with ⟨e | outcome, w₁⟩
  case error =>
    rw [reported_of_error programName ran]
    obtain ⟨aside, passed | ⟨status, shown, other⟩⟩ := reportFailure_cases programName e w₁
    · exact ⟨aside, by rw [passed]; simp⟩
    · exact ⟨aside, by rw [shown]; simp [other]⟩
  case ok =>
    rw [reported_of_ok programName ran]
    exact ⟨Aside.refl w₁, by simp⟩

omit [Directory D] in
/-- An act is interrupted exactly if it is when its value is discarded. -/
theorem discard_interrupted_iff {α : Type} (act : Act D H α) (w : World D H) :
    (act.discard w).1 = .error .interrupted ↔ (act w).1 = .error .interrupted := by
  show (act w).1.map _ = _ ↔ _
  cases (act w).1 <;> simp [Except.map]

/-! ## Errands that report -/

theorem changePassword_of_isBlank [Host H] {form : Form} (blank : Text.isBlank form.username = true)
    (settings : Settings) (programName : String) (w : World D H) :
    changePassword settings programName form w = (.ok .noUsername, w) := by
  simp only [changePassword, blank, if_true]
  rfl

/-- With a user on the form, the host is asked for the caller's privilege, and then a run of the
flow is reported. -/
theorem changePassword_of_make [Host H] {settings : Settings} {form : Form} {request : Request}
    {c : Changer} {w w₀ : World D H} (named : Text.isBlank form.username = false)
    (submitted : form.submit = .ok request) (made : Changer.make settings none w = (.ok c, w₀))
    (programName : String) :
    changePassword settings programName form w = reported programName (c.run request) w₀ := by
  simp only [changePassword, named, submitted, Act.bind_eq_andThen]
  exact Act.andThen_of_ok made

theorem changePassword_of_unmade [Host H] {settings : Settings} {form : Form} {e : Failure}
    {w w₀ : World D H} (named : Text.isBlank form.username = false)
    (unmade : Changer.make settings none w = (.error e, w₀)) (programName : String) :
    changePassword settings programName form w = (.error e, w₀) := by
  simp only [changePassword, named, Act.bind_eq_andThen]
  exact Act.andThen_of_error unmade

/-- The world in which the host was asked for the caller's privilege. -/
def identified (w : World D Host.Scripted) : World D Host.Scripted :=
  { w with journal := w.journal ++ [.queried .privileged] }

/-- On a scripted host the changer and the world in which the run begins are known. -/
theorem changePassword_of_submit {form : Form} {request : Request}
    (named : Text.isBlank form.username = false) (submitted : form.submit = .ok request)
    (settings : Settings) (programName : String) (w : World D Host.Scripted) :
    changePassword settings programName form w =
      reported programName ((⟨settings, w.host.privileged⟩ : Changer).run request)
        (identified w) :=
  changePassword_of_make named submitted rfl programName

/-- **An errand is a run of the flow with nothing but work aside around it, or no run at all.** -/
theorem act_cases (errand : Errand) (w : World D Host.Scripted) :
    (errand.inner? w = none ∧ Aside w (errand.act w).2 ∧
      (errand.act w).1 ≠ .error .interrupted) ∨
    ∃ c request w₀, errand.inner? w = some (c, request, w₀) ∧ Aside w w₀ ∧
      Aside (c.run request w₀).2 (errand.act w).2 ∧
      ((errand.act w).1 = .error .interrupted ↔ (c.run request w₀).1 = .error .interrupted) := by
  cases errand with
  | run c request =>
      exact Or.inr ⟨c, request, w, rfl, Aside.refl w, Aside.refl _, discard_interrupted_iff _ w⟩
  | report settings programName form =>
      cases blank : Text.isBlank form.username with
      | true =>
          have nothing := changePassword_of_isBlank blank settings programName w
          refine Or.inl ⟨by simp [inner?, blank], ?_⟩
          simp only [act, Act.discard, nothing]
          exact ⟨Aside.refl w, by simp [Except.map]⟩
      | false =>
          have asked : Aside w (identified w) := Aside.add (List.forall_mem_singleton.2 rfl)
          obtain ⟨request, submitted⟩ := submit_of_not_isBlank blank
          let c : Changer := ⟨settings, w.host.privileged⟩
          have inside : (report settings programName form).inner? w =
              some (c, request, identified w) := by
            simp [inner?, blank, submitted, Except.toOption, c, identified]
          have follow := changePassword_of_submit blank submitted settings programName w
          obtain ⟨aside, interrupted_iff⟩ :=
            reported_aside programName (c.run request) (identified w)
          rw [← follow] at aside interrupted_iff
          refine Or.inr ⟨c, request, identified w, inside, asked, aside, ?_⟩
          exact (discard_interrupted_iff _ w).trans interrupted_iff

end Errand

end PasswordChange
