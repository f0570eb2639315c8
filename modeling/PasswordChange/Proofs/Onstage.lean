import PasswordChange.Proofs.Service

/-!
# The frame of the work at a record

What happens once a session is open involves the user, so it is not backstage: answers are used up
and secrets are made and wiped. `Onstage` is the frame of such work. It says of the directory along
which relation it moves, and of the journal by which kind of events it grows.

* `Frame.CoversService` says of a frame what the service at a record needs (`Changer.serve_keeps`),
  `Frame.CoversSession` what everything in a session needs (`Changer.proceed_keeps`).
* `Directory.ServiceFrame` and `Directory.SessionFrame` have the laws of a directory under which
  the frame of the work onstage covers this.
-/

namespace PasswordChange

variable {D H α : Type}

/-- The worlds before and after work at which the user may be present: the states of the directory
are related by `R`, and the events in between satisfy `P`. -/
structure Onstage (R : D → D → Prop) (P : Event → Prop) (w w' : World D H) : Prop where
  directory : R w.directory w'.directory
  journal : ∃ added, w'.journal = w.journal ++ added ∧ ∀ event ∈ added, P event

variable {R : D → D → Prop} {P : Event → Prop}

theorem Onstage.trans {w₁ w₂ w₃ : World D H} (first : Onstage R P w₁ w₂)
    (trans : ∀ d₁ d₂ d₃, R d₁ d₂ → R d₂ d₃ → R d₁ d₃) (second : Onstage R P w₂ w₃) :
    Onstage R P w₁ w₃ := by
  obtain ⟨added₁, journal₁, kind₁⟩ := first.journal
  obtain ⟨added₂, journal₂, kind₂⟩ := second.journal
  refine ⟨trans _ _ _ first.directory second.directory, added₁ ++ added₂, ?_, ?_⟩
  · rw [journal₂, journal₁, List.append_assoc]
  · exact List.forall_mem_append.2 ⟨kind₁, kind₂⟩

/-- Work backstage is no more than work onstage. -/
theorem Backstage.onstage {w w' : World D H} (kept : Backstage R P w w') : Onstage R P w w' :=
  ⟨kept.directory, kept.journal⟩

/-- The frame of the work onstage at a directory. -/
def Directory.IdleFrame.stage [Directory D] (laws : IdleFrame D R) (P : Event → Prop) :
    Frame D H where
  rel := Onstage R P
  refl _ := (Backstage.refl laws.refl _).onstage
  trans first second := first.trans (fun _ _ _ => laws.trans) second

theorem Act.Keeps.onstage [Directory D] {laws : Directory.IdleFrame D R} {act : Act D H α}
    (keeps : act.Keeps (laws.frame P)) : act.Keeps (laws.stage P) :=
  fun w => Backstage.onstage (keeps w)

/-- Reading a record and its credential operations move a directory along `R`, and their events
satisfy `P`, as do those of a conversation. -/
structure Directory.ServiceFrame [Directory D] (R : D → D → Prop) (P : Event → Prop) : Prop
    extends Directory.IdleFrame D R where
  copyValues (record : HandleId) (attributeName : String) (d : D) :
    (Directory.copyValues record attributeName d).Within R P d
  setCredentials (v : Vault) (record : HandleId) (recordType authType : String)
    (items : List Directory.Item) (d : D) :
    (Directory.setCredentials v record recordType authType items d).Within R P d
  changePassword (v : Vault) (record : HandleId) (old new : Directory.Item) (d : D) :
    (Directory.changePassword v record old new d).Within R P d
  spoken (event : Event) : event.isSpoken = true → P event

/-- Everything that a directory does in an open session moves it along `R`, and its events
satisfy `P`. -/
structure Directory.SessionFrame [Directory D] (R : D → D → Prop) (P : Event → Prop) : Prop
    extends Directory.ServiceFrame R P where
  openNodeByName (session : HandleId) (name : String) (d : D) :
    (Directory.openNodeByName session name d).Within R P d
  openNodeByType (session : HandleId) (nodeType : String) (d : D) :
    (Directory.openNodeByType session nodeType d).Within R P d
  copyRecord (node : HandleId) (recordType name : String) (d : D) :
    (Directory.copyRecord node recordType name d).Within R P d
  close (handle : HandleId) (d : D) : (Directory.close handle d).Within R P d

/-- Whatever happens in a session stays in a frame that says nothing. -/
theorem Directory.sessionFrame_of_forall [Directory D] (all : ∀ d d', R d d') :
    Directory.SessionFrame R fun _ => True where
  refl _ := all _ _
  trans _ _ := all _ _
  undergo _ _ := all _ _
  copyValues _ _ _ := ⟨all _ _, fun _ _ => trivial⟩
  setCredentials _ _ _ _ _ _ := ⟨all _ _, fun _ _ => trivial⟩
  changePassword _ _ _ _ _ := ⟨all _ _, fun _ _ => trivial⟩
  spoken _ _ := trivial
  openNodeByName _ _ _ := ⟨all _ _, fun _ _ => trivial⟩
  openNodeByType _ _ _ := ⟨all _ _, fun _ _ => trivial⟩
  copyRecord _ _ _ _ := ⟨all _ _, fun _ _ => trivial⟩
  close _ _ := ⟨all _ _, fun _ _ => trivial⟩

/-! ## Frames that cover a session -/

/-- The frame covers the service at a record: its operations at the directory, and a conversation,
which changes answers and secrets and speaks. -/
structure Frame.CoversService [Directory D] (F : Frame D H) : Prop where
  copyValues (record : HandleId) (attributeName : String) :
    (Act.perform (Directory.copyValues record attributeName) : Act D H _).Keeps F
  setCredentials (v : Vault) (record : HandleId) (recordType authType : String)
    (items : List Directory.Item) :
    (Act.perform (Directory.setCredentials v record recordType authType items) : Act D H _).Keeps F
  changePassword (v : Vault) (record : HandleId) (old new : Directory.Item) :
    (Act.perform (Directory.changePassword v record old new) : Act D H _).Keeps F
  spoken (w : World D H) (vault : Vault) (answers : List Answer) {events : List Event} :
    (∀ event ∈ events, event.isSpoken = true) →
    F.rel w { w with vault, answers, journal := w.journal ++ events }

/-- The frame covers everything in an open session. -/
structure Frame.CoversSession [Directory D] (F : Frame D H) : Prop extends F.CoversService where
  openNodeByName (session : HandleId) (name : String) :
    (Act.perform (Directory.openNodeByName session name) : Act D H _).Keeps F
  openNodeByType (session : HandleId) (nodeType : String) :
    (Act.perform (Directory.openNodeByType session nodeType) : Act D H _).Keeps F
  copyRecord (node : HandleId) (recordType name : String) :
    (Act.perform (Directory.copyRecord node recordType name) : Act D H _).Keeps F
  close (handle : HandleId) : (Act.perform (Directory.close handle) : Act D H _).Keeps F

theorem Directory.ServiceFrame.covers [Directory D] (laws : ServiceFrame (D := D) R P) :
    (laws.stage P : Frame D H).CoversService where
  copyValues _ _ := (laws.keeps_perform (laws.copyValues _ _)).onstage
  setCredentials _ _ _ _ _ := (laws.keeps_perform (laws.setCredentials _ _ _ _ _)).onstage
  changePassword _ _ _ _ := (laws.keeps_perform (laws.changePassword _ _ _ _)).onstage
  spoken _ _ _ events kind :=
    ⟨laws.refl _, events, rfl, fun event member => laws.spoken event (kind event member)⟩

theorem Directory.SessionFrame.covers [Directory D] (laws : SessionFrame (D := D) R P) :
    (laws.stage P : Frame D H).CoversSession where
  toCoversService := laws.toServiceFrame.covers
  openNodeByName _ _ := (laws.keeps_perform (laws.openNodeByName _ _)).onstage
  openNodeByType _ _ := (laws.keeps_perform (laws.openNodeByType _ _)).onstage
  copyRecord _ _ _ := (laws.keeps_perform (laws.copyRecord _ _ _)).onstage
  close _ := (laws.keeps_perform (laws.close _)).onstage

namespace Changer

open Confirmation

variable {F : Frame D H}

section Service

variable [Directory D] (covers : F.CoversService)

include covers

/-- What is only spoken changes neither answers nor secrets. -/
theorem note_keeps {event : Event} (spoken : event.isSpoken = true) :
    (Act.note event : Act D H Unit).Keeps F :=
  fun w => covers.spoken w w.vault w.answers (List.forall_mem_singleton.2 spoken)

/-- A conversation and the submission after it, if there is one, stay in the frame. -/
theorem exchange_keeps (record : HandleId) (request : Request) (location : Location)
    (needsAuth : Bool) :
    (exchange record request location needsAuth : Act D H Outcome).Keeps F := by
  intro w
  generalize held : Conversation.of needsAuth w.answers = talk
  have spoken : ∀ event ∈ talk.events (oldPrompt request) w.vault, event.isSpoken = true :=
    talk.isSpoken_events _ _
  rcases resolved : talk.resolution with _ | _ | password
  case interrupted =>
    rw [exchange_of_interrupted record request location held resolved]
    exact covers.spoken w _ _ spoken
  case declined =>
    rw [exchange_of_declined record request location held resolved]
    exact covers.spoken w _ _ spoken
  case confirmed =>
    rw [exchange_of_confirmed record request location held resolved]
    let step := submissionOf record request needsAuth talk w.vault w.directory
    -- The intention is logged, the submission is made, and then its success is logged.
    let intended : World D H := { w with
      vault := talk.vault w.vault
      answers := talk.rest
      journal := w.journal ++ (talk.events (oldPrompt request) w.vault ++
        [.logged (intention request needsAuth)]) }
    let submitted : World D H := { intended with
      directory := step.state
      journal := intended.journal ++ step.events }
    have first : F.rel w intended := covers.spoken w _ _
      (List.forall_mem_append.2 ⟨spoken, List.forall_mem_singleton.2 rfl⟩)
    have second : F.rel intended submitted := by
      have made : (Act.perform (submissionOf record request needsAuth talk w.vault) :
          Act D H Unit).Keeps F := by
        unfold submissionOf submission
        split
        · exact covers.setCredentials _ _ _ _ _
        · exact covers.changePassword _ _ _ _
      exact made intended
    have reported : ∀ event ∈ report request location step.outcome, event.isSpoken = true := by
      cases step.outcome <;> simp [report, Event.isSpoken]
    have third := covers.spoken submitted
      (concluded request location needsAuth talk step w).vault talk.rest reported
    have last : { submitted with
        vault := (concluded request location needsAuth talk step w).vault
        answers := talk.rest
        journal := submitted.journal ++ report request location step.outcome } =
        concluded request location needsAuth talk step w := by
      simp [concluded, submitted, intended, wiped, Conversation.after]
    rw [last] at third
    exact F.trans first (F.trans second third)

/-- **The service at a record stays in the frame.** -/
theorem serve_keeps (c : Changer) (record : HandleId) (request : Request) (searched : Location) :
    (c.serve record request searched : Act D H Outcome).Keeps F := by
  refine .bind (covers.copyValues _ _) fun values => ?_
  refine .bind (note_keeps covers rfl) fun _ => ?_
  refine .bind (note_keeps covers rfl) fun _ => ?_
  exact exchange_keeps covers _ _ _ _

end Service

/-! ## Everything in a session -/

variable [Directory D]

/-- The flow from the node on. -/
def enter (c : Changer) (request : Request) (location : Location) (node : HandleId) :
    Act D H Outcome :=
  Act.closing node do
    let record ← findRecord node request.username
    Act.closing record (c.serve record request location)

/-- The flow after a session was opened. -/
def proceed (c : Changer) (request : Request) (opened : HandleId × Location) : Act D H Outcome :=
  Act.closing opened.1 (openNode opened.1 opened.2) >>= c.enter request opened.2

theorem run_eq_proceed [Host H] (c : Changer) (request : Request) :
    (c.run request : Act D H Outcome) = c.openSession request >>= c.proceed request := rfl

/-- A run whose session is not opened fails as the opening does. -/
theorem run_of_unopened [Host H] {c : Changer} {request : Request} {w w₁ : World D H} {e : Failure}
    (unopened : c.openSession request w = (.error e, w₁)) :
    c.run request w = (.error e, w₁) := by
  rw [run_eq_proceed]
  exact Act.andThen_of_error unopened

section Session

variable (covers : F.CoversSession)

include covers

theorem closing_keeps (handle : HandleId) {act : Act D H α} (keeps : act.Keeps F) :
    (Act.closing handle act).Keeps F :=
  keeps.always (covers.close handle)

theorem enter_keeps (c : Changer) (request : Request) (location : Location) (node : HandleId) :
    (c.enter request location node : Act D H Outcome).Keeps F := by
  refine closing_keeps covers node (.bind (.bind ?_ fun record? => ?_) fun record => ?_)
  · exact covers.copyRecord _ _ _
  · cases record? with
    | none => exact Act.keeps_fail _
    | some record => exact Act.keeps_value _
  · exact closing_keeps covers record (c.serve_keeps covers.toCoversService _ _ _)

/-- **Everything after a session was opened stays in the frame.** -/
theorem proceed_keeps (c : Changer) (request : Request) (opened : HandleId × Location) :
    (c.proceed request opened : Act D H Outcome).Keeps F := by
  refine .bind (closing_keeps covers _ ?_) (c.enter_keeps covers request opened.2)
  unfold openNode
  split
  · exact covers.openNodeByType _ _
  · exact covers.openNodeByName _ _

end Session

/-- **A run stays in every frame that covers what it consists of.** -/
theorem run_keeps [Host H] (bootstraps : F.CoversBootstrap)
    (created : ∀ options,
      (Act.perform (Directory.createSession options) : Act D H HandleId).Keeps F)
    (covers : F.CoversSession) (c : Changer) (request : Request) :
    (c.run request : Act D H Outcome).Keeps F := by
  rw [run_eq_proceed]
  exact .bind (c.openSession_keeps bootstraps created request) (c.proceed_keeps covers request)

end Changer

end PasswordChange
