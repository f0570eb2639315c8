import PasswordChange.Proofs.Bootstrap
import PasswordChange.Proofs.Errand
import PasswordChange.Proofs.NodeAccord

/-!
# The flow at two directories

An `Accord` relates two directories at each station of the flow: before a session is open, in a
session, at a node in it, and from the node on. Its laws say that every operation of the flow leads
from a station to the next one on both sides. So the flow goes the same way at both directories, up
to the renaming of what is typed. A `Coupling` is an accord that does not depend on the changer, nor
on what has been read.

* `Accord.run_inStep` says so of a run, `Comparison.changePassword_agree` of a run and its report.
-/

namespace PasswordChange

variable {D₁ D₂ H : Type}

/-- How two directories are related at the stations of the whole flow of a changer for a request.
The directories are `cold` until a session is asked for, and `idle` from then on while none is
open. -/
structure Accord (D₁ D₂ : Type) [Directory D₁] [Directory D₂] (cmp : Comparison D₁) (c : Changer)
    (request : Request) extends NodeAccord D₁ D₂ cmp c request where
  cold : D₁ → D₂ → Prop
  session (s₁ s₂ : HandleId) : D₁ → D₂ → Prop
  entered (s₁ s₂ n₁ n₂ : HandleId) : D₁ → D₂ → Prop
  earlier (options : List (String × Value)) (d : D₁) :
    cmp.Earlier d (Directory.createSession options d).state
  undergo (deed : Directory.Deed) (d₁ : D₁) (d₂ : D₂) : idle d₁ d₂ →
    idle (Directory.undergo deed d₁) (Directory.undergo deed d₂)
  createSession : cmp.Tandem cold (Directory.createSession []) (Directory.createSession [])
    session idle
  createLocalSession : cmp.Tandem idle (Directory.createSession c.localOptions)
    (Directory.createSession c.localOptions) session idle
  openNodeByName (s₁ s₂ : HandleId) (name : String) :
    cmp.Tandem (session s₁ s₂) (Directory.openNodeByName s₁ name)
      (Directory.openNodeByName s₂ name) (entered s₁ s₂) (session s₁ s₂)
  openNodeByType (s₁ s₂ : HandleId) :
    cmp.Tandem (session s₁ s₂) (Directory.openNodeByType s₁ Directory.authenticationNode)
      (Directory.openNodeByType s₂ Directory.authenticationNode) (entered s₁ s₂) (session s₁ s₂)
  closeSession (s₁ s₂ : HandleId) : cmp.Closes (session s₁ s₂) s₁ s₂ idle
  leaveSession (s₁ s₂ n₁ n₂ : HandleId) :
    cmp.Closes (entered s₁ s₂ n₁ n₂) s₁ s₂ (node n₁ n₂)

/-- How two directories are related at the stations of the flow for a request, whoever the changer
is and whatever is read. -/
structure Coupling (D₁ D₂ : Type) [Directory D₁] [Directory D₂] (cmp : Comparison D₁)
    (request : Request) where
  idle : D₁ → D₂ → Prop
  session (s₁ s₂ : HandleId) : D₁ → D₂ → Prop
  entered (s₁ s₂ n₁ n₂ : HandleId) : D₁ → D₂ → Prop
  node (n₁ n₂ : HandleId) : D₁ → D₂ → Prop
  record (n₁ n₂ r₁ r₂ : HandleId) : D₁ → D₂ → Prop
  frame : Directory.SessionFrame (D := D₁) cmp.Earlier fun _ => True
  earlier (options : List (String × Value)) (d : D₁) :
    cmp.Earlier d (Directory.createSession options d).state
  undergo (deed : Directory.Deed) (d₁ : D₁) (d₂ : D₂) : idle d₁ d₂ →
    idle (Directory.undergo deed d₁) (Directory.undergo deed d₂)
  createSession (options : List (String × Value)) :
    cmp.Tandem idle (Directory.createSession options) (Directory.createSession options)
      session idle
  openNodeByName (s₁ s₂ : HandleId) (name : String) :
    cmp.Tandem (session s₁ s₂) (Directory.openNodeByName s₁ name)
      (Directory.openNodeByName s₂ name) (entered s₁ s₂) (session s₁ s₂)
  openNodeByType (s₁ s₂ : HandleId) :
    cmp.Tandem (session s₁ s₂) (Directory.openNodeByType s₁ Directory.authenticationNode)
      (Directory.openNodeByType s₂ Directory.authenticationNode) (entered s₁ s₂) (session s₁ s₂)
  copyRecord (n₁ n₂ : HandleId) :
    cmp.Tandem (node n₁ n₂) (Directory.copyRecord n₁ Directory.userRecords request.username)
      (Directory.copyRecord n₂ Directory.userRecords request.username)
      (Optionally (record n₁ n₂) (node n₁ n₂)) (node n₁ n₂)
  copyValues (n₁ n₂ r₁ r₂ : HandleId) :
    cmp.Tandem (record n₁ n₂ r₁ r₂) (Directory.copyValues r₁ Directory.metanodeLocation)
      (Directory.copyValues r₂ Directory.metanodeLocation)
      (fun values values' d₁ d₂ => values' = values ∧ record n₁ n₂ r₁ r₂ d₁ d₂)
      (record n₁ n₂ r₁ r₂)
  setCredentials {v₁ v₂ : Vault} {old? new? : Option SecretId} {old : Option String}
    {new : String} (n₁ n₂ r₁ r₂ : HandleId) :
    cmp.rename.Reads v₁ v₂ old? old → cmp.rename.Reads v₁ v₂ new? (some new) →
    cmp.Tandem (record n₁ n₂ r₁ r₂)
      (Directory.setCredentials v₁ r₁ Directory.userRecords Directory.setPassword
        [.text request.username, .ofSecret? new?, .text request.authname, .ofSecret? old?])
      (Directory.setCredentials v₂ r₂ Directory.userRecords Directory.setPassword
        [.text request.username, .ofSecret? new?, .text request.authname, .ofSecret? old?])
      (fun _ _ => record n₁ n₂ r₁ r₂) (record n₁ n₂ r₁ r₂)
  changePassword {v₁ v₂ : Vault} {old? new? : Option SecretId} {old : Option String}
    {new : String} (n₁ n₂ r₁ r₂ : HandleId) :
    cmp.rename.Reads v₁ v₂ old? old → cmp.rename.Reads v₁ v₂ new? (some new) →
    cmp.Tandem (record n₁ n₂ r₁ r₂)
      (Directory.changePassword v₁ r₁ (.ofSecret? old?) (.ofSecret? new?))
      (Directory.changePassword v₂ r₂ (.ofSecret? old?) (.ofSecret? new?))
      (fun _ _ => record n₁ n₂ r₁ r₂) (record n₁ n₂ r₁ r₂)
  closeSession (s₁ s₂ : HandleId) : cmp.Closes (session s₁ s₂) s₁ s₂ idle
  leaveSession (s₁ s₂ n₁ n₂ : HandleId) :
    cmp.Closes (entered s₁ s₂ n₁ n₂) s₁ s₂ (node n₁ n₂)
  closeRecord (n₁ n₂ r₁ r₂ : HandleId) :
    cmp.Closes (record n₁ n₂ r₁ r₂) r₁ r₂ (node n₁ n₂)
  closeNode (n₁ n₂ : HandleId) : cmp.Closes (node n₁ n₂) n₁ n₂ idle

section Flow

variable [Directory D₁] [Directory D₂] {cmp : Comparison D₁} {c : Changer} {request : Request}

/-- A coupling is an accord for every changer. -/
def Coupling.accord (pair : Coupling D₁ D₂ cmp request) (c : Changer) :
    Accord D₁ D₂ cmp c request where
  cold := pair.idle
  idle := pair.idle
  session := pair.session
  entered := pair.entered
  node := pair.node
  record := pair.record
  read _ := pair.record
  frame := pair.frame
  earlier := pair.earlier
  undergo := pair.undergo
  createSession := pair.createSession []
  createLocalSession := pair.createSession c.localOptions
  openNodeByName := pair.openNodeByName
  openNodeByType := pair.openNodeByType
  copyRecord := pair.copyRecord
  copyValues _ := pair.copyValues
  forget := id
  setCredentials n₁ n₂ r₁ r₂ _ := pair.setCredentials n₁ n₂ r₁ r₂
  changePassword n₁ n₂ r₁ r₂ _ := pair.changePassword n₁ n₂ r₁ r₂
  closeSession := pair.closeSession
  leaveSession := pair.leaveSession
  closeRecord := pair.closeRecord
  closeNode := pair.closeNode

namespace Accord

open Comparison Changer

variable (pair : Accord D₁ D₂ cmp c request)

theorem openNode_inStep (s₁ s₂ : HandleId) (location : Location) :
    cmp.InStep (H := H) (pair.session s₁ s₂) (openNode s₁ location) (openNode s₂ location)
      (pair.entered s₁ s₂) (pair.session s₁ s₂) := by
  unfold openNode
  rcases location.name? with _ | name
  · exact .perform (pair.openNodeByType s₁ s₂)
  · exact .perform (pair.openNodeByName s₁ s₂ name)

theorem proceed_inStep (s₁ s₂ : HandleId) (location : Location) :
    cmp.InStep (H := H) (pair.session s₁ s₂) (c.proceed request (s₁, location))
      (c.proceed request (s₂, location))
      (fun outcome outcome' d₁ d₂ => outcome' = outcome ∧ pair.idle d₁ d₂) pair.idle := by
  refine .bind (.closing (pair.openNode_inStep s₁ s₂ location) (pair.close_keeps s₁)
    (pair.leaveSession s₁ s₂) (pair.closeSession s₁ s₂)) (fun node => ?_) fun n₁ n₂ => ?_
  · exact cmp.keeps_course (c.enter_keeps pair.frame.covers request location node)
  · exact pair.enter_inStep n₁ n₂ location

/-! ## The opening of a session -/

section Opening

variable [Host H] (emits : Host.Emits (H := H) (·.isCommon = true))

include emits

theorem loadLocalDaemon_inStep :
    cmp.InStep (H := H) pair.idle c.loadLocalDaemon c.loadLocalDaemon (fun _ _ => pair.idle)
      pair.idle := by
  refine .bind (.orElse (.launch emits pair.undergo _ _) (fun e => ?_) fun e e' fails => ?_)
    (fun status => ?_) fun status status' => .given ?_
  · cases e
    case start cause =>
      change (ite _ _ _ : Act D₁ H Int).Keeps _
      split <;> exact Act.keeps_fail _
    all_goals exact Act.keeps_fail _
  · cases fails with
    | directory same => exact .fail (.directory same)
    | daemonLoad load same => exact .fail (.daemonLoad load same)
    | same =>
        cases e
        case start cause =>
          change cmp.InStep _ (ite _ _ _) (ite _ _ _) _ _
          split <;> exact .fail (.same _)
        all_goals exact .fail (.same _)
  · split
    · exact Act.keeps_fail _
    · exact Act.keeps_value _
  · rintro rfl
    split
    · exact .fail (.same _)
    · exact .value fun _ _ => id

theorem bootstrap_inStep {error error' : DirectoryError}
    (same : cmp.error error error') :
    cmp.InStep (H := H) pair.idle (c.bootstrap error) (c.bootstrap error') (fun _ _ => pair.idle)
      pair.idle := by
  have laws : Directory.IdleFrame D₁ cmp.Earlier := pair.frame.toIdleFrame
  have noted (event : Event) : (Act.note event : Act D₁ H Unit).Keeps cmp.course :=
    cmp.keeps_course (laws.keeps_note trivial).onstage
  have loads : (c.loadLocalDaemon : Act D₁ H Unit).Keeps cmp.course :=
    cmp.keeps_course (c.loadLocalDaemon_keeps (laws.coversBootstrap (P := fun _ => True)
      ⟨fun _ _ _ => trivial, fun _ _ _ => trivial, fun _ _ _ _ _ => trivial⟩
      fun _ _ => trivial)).onstage
  refine .bind (.consult emits.isSingleUser) (fun singleUser => ?_)
    fun singleUser singleUser' => .given ?_
  · cases singleUser
    case false => exact .bind (noted _) fun _ => Act.keeps_fail _
    case true =>
      refine .bind (noted _) fun _ => .orElse loads fun e => ?_
      cases e <;> exact Act.keeps_fail _
  · rintro rfl
    cases singleUser'
    case false =>
      exact .bind (.note rfl) (fun _ => Act.keeps_fail _) fun _ _ => .fail (.directory same)
    case true =>
      refine .bind (.note rfl) (fun _ => .orElse loads fun e => ?_) fun _ _ =>
        .orElse (pair.loadLocalDaemon_inStep emits) (fun e => ?_) fun e e' fails => ?_
      · cases e <;> exact Act.keeps_fail _
      · cases e <;> exact Act.keeps_fail _
      · cases fails with
        | directory same => exact .fail (.directory same)
        | daemonLoad load _ => exact .fail (.daemonLoad load same)
        | same =>
            cases e
            case daemonLoad load => exact .fail (.daemonLoad load same)
            all_goals exact .fail (.same _)

/-- A session is opened in the same way on both sides. -/
theorem openSession_inStep :
    cmp.InStep (H := H) pair.cold (c.openSession request) (c.openSession request)
      (fun opened opened' d₁ d₂ => opened'.2 = opened.2 ∧ pair.session opened.1 opened'.1 d₁ d₂)
      pair.idle := by
  have laws : Directory.IdleFrame D₁ cmp.Earlier := pair.frame.toIdleFrame
  have created (options : List (String × Value)) :
      (Act.perform (Directory.createSession options) : Act D₁ H HandleId).Keeps cmp.course :=
    cmp.keeps_course (laws.keeps_perform (P := fun _ => True) fun d =>
      ⟨pair.earlier options d, fun _ _ => trivial⟩).onstage
  have bootstrapped (error : DirectoryError) :
      (c.bootstrap error : Act D₁ H Unit).Keeps cmp.course :=
    cmp.keeps_course (c.bootstrap_keeps (laws.coversBootstrap (P := fun _ => True)
      ⟨fun _ _ _ => trivial, fun _ _ _ => trivial, fun _ _ _ _ _ => trivial⟩
      fun _ _ => trivial) error).onstage
  refine .bind (.orElse (.bind (.perform pair.createSession) (fun _ => Act.keeps_value _)
      fun s₁ s₂ => .value fun _ _ => id) (fun e => ?_) fun e e' fails => ?_) (fun first => ?_)
    (T := Optionally pair.session pair.idle) fun first first' => ?_
  · cases e
    case directory error =>
      change (ite _ _ _ : Act D₁ H (Option HandleId)).Keeps _
      split
      · exact .bind (bootstrapped error) fun _ => Act.keeps_value _
      · exact Act.keeps_fail _
    all_goals exact Act.keeps_fail _
  · cases fails with
    | directory same =>
        change cmp.InStep _ (ite _ _ _) (ite _ _ _) _ _
        simp only [cmp.code_iff same]
        split
        · exact .bind (pair.bootstrap_inStep emits same) (fun _ => Act.keeps_value _)
            fun _ _ => .value fun _ _ => id
        · exact .fail (.directory same)
    | daemonLoad load same => exact .fail (.daemonLoad load same)
    | same =>
        cases e
        case directory error =>
          change cmp.InStep _ (ite _ _ _) (ite _ _ _) _ _
          split
          · exact .bind (pair.bootstrap_inStep emits (cmp.error_refl error))
              (fun _ => Act.keeps_value _) fun _ _ => .value fun _ _ => id
          · exact .fail (.same _)
        all_goals exact .fail (.same _)
  · cases first
    case some session => exact Act.keeps_value _
    case none => exact .bind (created _) fun _ => Act.keeps_value _
  · rcases first with _ | s₁ <;> rcases first' with _ | s₂
    · exact .bind (.perform pair.createLocalSession) (fun _ => Act.keeps_value _) fun _ _ =>
        .value fun _ _ related => ⟨rfl, related⟩
    · exact fun _ _ abreast => abreast.directory.elim
    · exact fun _ _ abreast => abreast.directory.elim
    · exact .value fun _ _ related => ⟨rfl, related⟩

/-! ## A run and its report -/

/-- **The whole flow goes the same way on both sides.** -/
theorem run_inStep :
    cmp.InStep (H := H) pair.cold (c.run request) (c.run request)
      (fun outcome outcome' d₁ d₂ => outcome' = outcome ∧ pair.idle d₁ d₂) pair.idle := by
  rw [run_eq_proceed, run_eq_proceed]
  refine .bind (pair.openSession_inStep emits)
    (fun opened => cmp.keeps_course (c.proceed_keeps pair.frame.covers request opened))
    fun opened opened' => .given ?_
  obtain ⟨s₁, location⟩ := opened
  obtain ⟨s₂, location'⟩ := opened'
  rintro rfl
  exact pair.proceed_inStep s₁ s₂ location'

end Opening

end Accord

end Flow

/-! ## Reports -/

namespace Comparison

open Errand

variable {cmp : Comparison D₁} {S : D₁ → D₂ → Prop} {w₁ : World D₁ H} {w₂ : World D₂ H}

variable (cmp S) in
/-- From the worlds `w₁` and `w₂`, two acts have come to the same result, whether they succeeded or
failed, and to worlds that are abreast. -/
structure Agree {α : Type} (w₁ : World D₁ H) (end₁ : Except Failure α × World D₁ H)
    (w₂ : World D₂ H) (end₂ : Except Failure α × World D₂ H) : Prop where
  result : end₂.1 = end₁.1
  abreast : cmp.Abreast S end₁.2 end₂.2
  along : cmp.Along w₁ end₁.2 w₂ end₂.2

/-- Events that concern no directory are added on both sides. -/
theorem Abreast.add (abreast : cmp.Abreast S w₁ w₂) (events : List Event)
    (isCommon : ∀ event ∈ events, event.isCommon = true) :
    cmp.Abreast S { w₁ with journal := w₁.journal ++ events }
        { w₂ with journal := w₂.journal ++ events } ∧
      cmp.Along w₁ { w₁ with journal := w₁.journal ++ events } w₂
        { w₂ with journal := w₂.journal ++ events } :=
  ⟨⟨abreast.directory, abreast.host, abreast.vault, abreast.answers⟩,
    events, events, rfl, rfl, cmp.common events isCommon⟩

/-- Failures that are the same are reported in the same way, and passed on if they are equal. -/
theorem reportFailure_agree [Host H] (programName : String) {e e' : Failure}
    (fails : cmp.Fails e e') (abreast : cmp.Abreast S w₁ w₂) :
    cmp.Agree S w₁ (reportFailure programName e w₁) w₂ (reportFailure programName e' w₂) := by
  rcases reported : e.report? programName with _ | lines
  · rw [fails.eq_of_report? reported, reportFailure_of_none reported,
      reportFailure_of_none reported]
    exact ⟨rfl, abreast, .refl w₁ w₂⟩
  · have again : e'.report? programName = some lines :=
      (fails.report?_eq programName).trans reported
    have kind : ∀ event ∈ lines.map Event.warned, event.isCommon = true := by
      simp [Event.isCommon]
    rw [reportFailure_of_some reported, reportFailure_of_some again]
    obtain ⟨after, along⟩ := abreast.add _ kind
    exact ⟨rfl, after, along⟩

/-- Acts that have come to the same result are reported in the same way. -/
theorem Agree.reported [Host H] (programName : String) {act₁ : Act D₁ H Outcome}
    {act₂ : Act D₂ H Outcome} {w₁' : World D₁ H} {w₂' : World D₂ H}
    (agree : cmp.Agree S w₁ (act₁ w₁') w₂ (act₂ w₂')) :
    cmp.Agree S w₁ (reported programName act₁ w₁') w₂ (reported programName act₂ w₂') := by
  obtain ⟨result, abreast, along⟩ := agree
  rcases ran₁ : act₁ w₁' with ⟨e | outcome, u₁⟩ <;> rcases ran₂ : act₂ w₂' with ⟨r, u₂⟩ <;>
    rw [ran₁, ran₂] at result abreast along <;> cases result
  · have last := reportFailure_agree programName (.same e) abreast
    rw [reported_of_error programName ran₁, reported_of_error programName ran₂]
    exact ⟨last.result, last.abreast, along.trans last.along⟩
  · rw [reported_of_ok programName ran₁, reported_of_ok programName ran₂]
    exact ⟨rfl, abreast, along⟩

/-- Acts in step that return the same are reported in the same way. -/
theorem reported_agree [Host H] (programName : String) {act₁ : Act D₁ H Outcome}
    {act₂ : Act D₂ H Outcome}
    (inStep : cmp.InStep S act₁ act₂ (fun outcome outcome' d₁ d₂ => outcome' = outcome ∧ S d₁ d₂) S)
    (abreast : cmp.Abreast S w₁ w₂) (ahead : cmp.ahead (reported programName act₁ w₁).2.directory) :
    cmp.Agree S w₁ (reported programName act₁ w₁) w₂ (reported programName act₂ w₂) := by
  have still : (reported programName act₁ w₁).2.directory = (act₁ w₁).2.directory :=
    (reported_aside programName act₁ w₁).1.directory
  rw [still] at ahead
  rcases ran : act₁ w₁ with ⟨e | outcome, w₁'⟩ <;> rw [ran] at ahead
  case error =>
    obtain ⟨e', w₂', other, fails, after, along⟩ := inStep.of_error abreast ran ahead
    rw [reported_of_error programName ran, reported_of_error programName other]
    have last := reportFailure_agree programName fails after
    exact ⟨last.result, last.abreast, along.trans last.along⟩
  case ok =>
    obtain ⟨outcome', w₂', other, after, along⟩ := inStep.of_ok abreast ran ahead
    rw [reported_of_ok programName ran, reported_of_ok programName other]
    exact ⟨rfl, after.mono And.right, along⟩

variable [Directory D₁] [Directory D₂] {w₁ : World D₁ Host.Scripted} {w₂ : World D₂ Host.Scripted}

/-- **At coupled directories, the same change of a password is reported in the same way.** -/
theorem changePassword_agree (settings : Settings) (programName : String) (form : Form)
    (pairs : ∀ request, form.submit = .ok request →
      ∃ pair : Coupling D₁ D₂ cmp request, pair.idle = S)
    (abreast : cmp.Abreast S w₁ w₂)
    (ahead : cmp.ahead (changePassword settings programName form w₁).2.directory) :
    cmp.Agree S w₁ (changePassword settings programName form w₁) w₂
      (changePassword settings programName form w₂) := by
  cases blank : Text.isBlank form.username with
  | true =>
      rw [changePassword_of_isBlank blank, changePassword_of_isBlank blank]
      exact ⟨rfl, abreast, .refl w₁ w₂⟩
  | false =>
      obtain ⟨request, submitted⟩ := submit_of_not_isBlank blank
      obtain ⟨pair, rfl⟩ := pairs request submitted
      obtain ⟨asked, along⟩ := abreast.add [.queried .privileged] (List.forall_mem_singleton.2 rfl)
      rw [changePassword_of_submit blank submitted] at ahead ⊢
      rw [changePassword_of_submit blank submitted, abreast.host]
      have agree := reported_agree programName
        ((pair.accord _).run_inStep Host.Scripted.emits_isCommon) asked ahead
      exact ⟨agree.result, agree.abreast, along.trans agree.along⟩

end Comparison

end PasswordChange
