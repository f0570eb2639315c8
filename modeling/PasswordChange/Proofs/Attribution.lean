import PasswordChange.Proofs.Errand
import PasswordChange.Proofs.Lines
import PasswordChange.Proofs.Onstage

/-!
# Failures under the program's name

Every failure that is for the user goes to standard error. It is attributed to the program, whose
name stands before the failure's own text, but only where there is such a text: of an error of the
directory nothing else than its description is attributed.

* `Attributes` says of a line that it can be read and begins with the program's name.
* `Failure.attributed` says which failures have such a line, `Changer.run_unwarned` that a run
  writes no line to standard error by itself.
* `failure_attributed` is the main result, and `nothing_attributed` the failure without any text.
-/

namespace PasswordChange

/-- The line begins with the program's name, and it is not blank. -/
def Attributes (programName line : String) : Prop :=
  Text.startsWith programName line = true ∧ ∃ char ∈ line.toList, char.isWhitespace = false

/-- What follows the program's name after a colon is attributed to the program. -/
theorem attributes_append (programName text : String) :
    Attributes programName (programName ++ ": " ++ text) := by
  refine ⟨Text.startsWith_iff.2 ⟨": " ++ text, String.append_assoc ..⟩, ':', ?_, by decide⟩
  simp

/-! ## The lines of a failure -/

namespace DirectoryError

/-- What a directory says of an error apart from its description, in one line. -/
def details (e : DirectoryError) : String :=
  "  ".intercalate (part e.failureReason ++ part e.recoverySuggestion)

/-- A part is left out exactly if there is nothing to it. -/
theorem part_eq_nil_iff {text? : Option String} :
    part text? = [] ↔ Text.isBlank text? = true := by
  cases text? with
  | none => exact iff_of_true rfl rfl
  | some text => simp [part, Text.isBlank]

/-- Without a description nothing but the details is shown. -/
theorem render_of_isBlank {e : DirectoryError} (undescribed : Text.isBlank e.description = true)
    (programName : String) : e.render programName = e.details := by
  unfold render
  rw [part_eq_nil_iff.2 undescribed]
  rfl

/-- A description is attributed to the program, with the details after it. -/
theorem attributes_render {e : DirectoryError} (described : Text.isBlank e.description = false)
    (programName : String) : Attributes programName (e.render programName) := by
  rcases parts : part e.description with _ | ⟨description, rest⟩
  · rw [part_eq_nil_iff.1 parts] at described
    cases described
  · have headed : e.render programName = programName ++ ": " ++ "  ".intercalate
        (description :: (rest.map (programName ++ ": " ++ ·) ++ part e.failureReason ++
          part e.recoverySuggestion)) := by
      unfold render
      rw [parts, List.map_cons, List.cons_append, List.cons_append,
        String.intercalate_cons_append]
    rw [headed]
    exact attributes_append ..

end DirectoryError

/-- **A failure that is for the user is attributed to the program**, unless it is an error of the
directory that has no description. -/
theorem Failure.attributed {programName : String} {e : Failure} {lines : List String}
    (shown : e.report? programName = some lines) :
    (∃ line ∈ lines, Attributes programName line) ∨
      ∃ error, e = .directory error ∧ Text.isBlank error.description = true ∧
        lines = [error.details] := by
  cases e with
  | directory error =>
      cases shown
      rcases described : Text.isBlank error.description
      · exact Or.inl ⟨_, List.mem_singleton_self _, error.attributes_render described programName⟩
      · refine Or.inr ⟨error, rfl, described, ?_⟩
        rw [error.render_of_isBlank described]
  | daemonLoad load =>
      cases shown
      exact Or.inl ⟨_, List.mem_cons_self, attributes_append ..⟩
  | unknownUser username =>
      cases shown
      exact Or.inl ⟨_, List.mem_singleton_self _, attributes_append ..⟩
  | _ => cases shown

/-! ## Runs write nothing to standard error -/

variable {D H : Type} [Directory D] {R : D → D → Prop}

/-- The event is no line on standard error. -/
def Event.IsUnwarned (event : Event) : Prop :=
  ∀ line, event ≠ .warned line

theorem Event.IsUnwarned.of_not_isLine {event : Event} (silent : event.isLine = false) :
    event.IsUnwarned := by
  rintro line rfl
  cases silent

theorem Event.IsUnwarned.of_isBackstage {event : Event} (backstage : event.isBackstage = true) :
    event.IsUnwarned :=
  .of_not_isLine (Event.not_isLine_of_isBackstage backstage)

/-- A directory whose lookups are backstage writes no line to standard error in a session. -/
theorem Directory.LookupFrame.unwarned (laws : LookupFrame (D := D) R (·.isBackstage = true))
    (reserved : Reserved D) : SessionFrame (D := D) (fun _ _ => True) Event.IsUnwarned where
  refl _ := trivial
  trans _ _ := trivial
  undergo _ _ := trivial
  copyValues record attributeName d := ⟨trivial, fun event member =>
    .of_isBackstage ((laws.copyValues record attributeName d).2 event member)⟩
  setCredentials v record recordType authType items d := ⟨trivial, fun event member =>
    .of_not_isLine (Event.not_isLine_of_not_isCommon
      (reserved.setCredentials v record recordType authType items d event member))⟩
  changePassword v record old new d := ⟨trivial, fun event member =>
    .of_not_isLine (Event.not_isLine_of_not_isCommon
      (reserved.changePassword v record old new d event member))⟩
  spoken event spoken := by
    rintro line rfl
    cases spoken
  openNodeByName session name d := ⟨trivial, fun event member =>
    .of_isBackstage ((laws.openNodeByName session name d).2 event member)⟩
  openNodeByType session nodeType d := ⟨trivial, fun event member =>
    .of_isBackstage ((laws.openNodeByType session nodeType d).2 event member)⟩
  copyRecord node recordType name d := ⟨trivial, fun event member =>
    .of_isBackstage ((laws.copyRecord node recordType name d).2 event member)⟩
  close handle d := ⟨trivial, fun event member =>
    .of_isBackstage ((laws.close handle d).2 event member)⟩

variable [Host H]

/-- Whatever a host does backstage is no line on standard error. -/
theorem Host.Emits.unwarned (emits : Host.Emits (H := H) (·.isBackstage = true)) :
    Host.Emits (H := H) Event.IsUnwarned where
  isSingleUser h event member := .of_isBackstage (emits.isSingleUser h event member)
  isPrivileged h event member := .of_isBackstage (emits.isPrivileged h event member)
  run path args h event member := .of_isBackstage (emits.run path args h event member)

/-- **A run writes no line to standard error.** -/
theorem Changer.run_unwarned (laws : Directory.LookupFrame (D := D) R (·.isBackstage = true))
    (reserved : Directory.Reserved D) (emits : Host.Emits (H := H) (·.isBackstage = true))
    (c : Changer) (request : Request) (w : World D H) :
    ∃ added, (c.run request w).2.journal = w.journal ++ added ∧ Journal.warned added = [] := by
  have frame := laws.unwarned reserved
  have backstage := frame.coversBootstrap emits.unwarned fun _ _ => nofun
  have bootstraps : (frame.stage Event.IsUnwarned : Frame D H).CoversBootstrap :=
    ⟨backstage.isSingleUser.onstage, fun path args => (backstage.launch path args).onstage,
      fun level message => (backstage.logged level message).onstage⟩
  have created (options : List (String × Value)) : (Act.perform (Directory.createSession options) :
      Act D H HandleId).Keeps (frame.stage Event.IsUnwarned) :=
    (frame.keeps_perform fun d => ⟨trivial, fun event member =>
      .of_isBackstage ((laws.createSession options d).2 event member)⟩).onstage
  obtain ⟨added, grown, kind⟩ := (c.run_keeps bootstraps created frame.covers request w).journal
  exact ⟨added, grown, Journal.warned_eq_nil kind⟩

/-! ## The main result -/

open Errand

/-- No line goes to standard error while the host is asked. -/
theorem Changer.make_unwarned (emits : Host.Emits (H := H) (·.isBackstage = true))
    (settings : Settings) (w : World D H) :
    ∃ added, (Changer.make settings none w).2.journal = w.journal ++ added ∧
      Journal.warned added = [] := by
  have laws : Directory.IdleFrame D fun _ _ => True :=
    ⟨fun _ => trivial, fun _ _ => trivial, fun _ _ => trivial⟩
  have keeps : (Changer.make settings none : Act D H Changer).Keeps
      (laws.frame Event.IsUnwarned) :=
    .andThen (laws.keeps_consult emits.unwarned.isPrivileged) fun _ => Act.keeps_value _
  obtain ⟨added, grown, kind⟩ := (keeps w).journal
  exact ⟨added, grown, Journal.warned_eq_nil kind⟩

omit [Directory D] in
/-- A report with the status of a failure is that of an act that has failed, and adds the lines of
its failure. -/
theorem failed_of_reported {programName : String} {act : Act D H Outcome}
    (failed : (reported programName act w).1.map Status.code = .ok 1) :
    ∃ e lines, (act w).1 = .error e ∧ e.report? programName = some lines ∧
      (reported programName act w).2.journal = (act w).2.journal ++ lines.map .warned := by
  rcases ran : act w with ⟨e | outcome, w₁⟩
  · rw [reported_of_error programName ran] at failed ⊢
    rcases shown : e.report? programName with _ | lines
    · rw [reportFailure_of_none shown] at failed
      cases failed
    · rw [reportFailure_of_some shown]
      exact ⟨e, lines, rfl, shown, rfl⟩
  · rw [reported_of_ok programName ran] at failed
    cases failed

/-- **No failure passes in silence that has a text.** If a change of a password ends with the status
of a failure, then a run has failed for a reason that is for the user, and its lines are all there
is on standard error. One of them is attributed to the program, unless the reason was an error of
the directory without a description; then its details are shown and nothing else. -/
theorem failure_attributed (laws : Directory.LookupFrame (D := D) R (·.isBackstage = true))
    (reserved : Directory.Reserved D) (emits : Host.Emits (H := H) (·.isBackstage = true))
    (settings : Settings) (programName : String) (form : Form) (w : World D H)
    (failed : (changePassword settings programName form w).1.map Status.code = .ok 1) :
    let lines := (w.since (changePassword settings programName form w).2).warned
    ∃ changer request w₀ failure, form.submit = .ok request ∧
      Changer.make settings none w = (.ok changer, w₀) ∧
      (changer.run request w₀).1 = .error failure ∧
      failure.report? programName = some lines ∧
      ((∃ line ∈ lines, Attributes programName line) ∨
        ∃ error, failure = .directory error ∧ Text.isBlank error.description = true ∧
          lines = [error.details]) := by
  cases named : Text.isBlank form.username with
  | true =>
      rw [changePassword_of_isBlank named] at failed
      cases failed
  | false =>
      obtain ⟨request, submitted⟩ := submit_of_not_isBlank named
      obtain ⟨asked, asking, aside⟩ := Changer.make_unwarned emits settings w
      rcases made : Changer.make settings none w with ⟨e | c, w₀⟩ <;> rw [made] at asking
      · rw [changePassword_of_unmade named made] at failed
        cases failed
      · rw [changePassword_of_make named submitted made] at failed ⊢
        obtain ⟨e, lines, ended, shown, reporting⟩ := failed_of_reported failed
        obtain ⟨added, running, quiet⟩ := c.run_unwarned laws reserved emits request w₀
        have since : w.since (reported programName (c.run request) w₀).2 =
            asked ++ added ++ lines.map .warned := by
          refine World.since_of_journal_eq ?_
          rw [reporting, running, asking]
          simp only [List.append_assoc]
        have written : (w.since (reported programName (c.run request) w₀).2).warned = lines := by
          rw [since, Journal.warned_append, Journal.warned_append, aside, quiet,
            (Journal.of_warnings lines).1]
          rfl
        rw [written]
        exact ⟨c, request, w₀, e, submitted, rfl, ended, shown, Failure.attributed shown⟩

/-! ## A failure with a text and one without -/

open Directory (Memory)

/-- A network of which no session can be opened, for this reason. -/
def brokenNetwork (error : DirectoryError) : World Memory Host.Scripted where
  directory := { faults := { session := some error } }
  host := {}

/-- The change of the password of a user in a network of which no session can be opened. -/
def alicesAttempt (error : DirectoryError) : Except Failure Status × World Memory Host.Scripted :=
  changePassword {} "passwd" { username := some "alice" } (brokenNetwork error)

/-- The daemon of the network is described as unreachable. -/
theorem unreachable_attributed :
    (alicesAttempt { description := some "Unreachable." }).1.map Status.code = .ok 1 ∧
    ∃ line ∈ ((brokenNetwork { description := some "Unreachable." }).since
      (alicesAttempt { description := some "Unreachable." }).2).warned,
      Attributes "passwd" line := by
  have failed : (alicesAttempt { description := some "Unreachable." }).1.map Status.code = .ok 1 :=
    rfl
  obtain ⟨changer, request, w₀, failure, submitted, made, ended, _, attributed⟩ :=
    failure_attributed Memory.lookupFrame Memory.reserved Host.Scripted.emits {} "passwd"
      { username := some "alice" } (brokenNetwork { description := some "Unreachable." }) failed
  refine ⟨failed, attributed.resolve_right ?_⟩
  rintro ⟨error, rfl, undescribed, _⟩
  cases submitted
  cases made
  cases ended
  cases undescribed

/-- Of an error without any text an empty line is shown, and nothing is attributed. -/
theorem nothing_attributed :
    (alicesAttempt {}).1.map Status.code = .ok 1 ∧
    ((brokenNetwork {}).since (alicesAttempt {}).2).warned = [""] ∧
    ¬ ∃ line ∈ ((brokenNetwork {}).since (alicesAttempt {}).2).warned,
      Attributes "passwd" line := by
  have empty : ((brokenNetwork {}).since (alicesAttempt {}).2).warned = [""] := by decide +kernel
  refine ⟨rfl, empty, ?_⟩
  rw [empty]
  rintro ⟨line, member, _, char, inside, _⟩
  rw [List.mem_singleton.1 member] at inside
  simp at inside

end PasswordChange
