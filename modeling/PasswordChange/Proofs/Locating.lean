import PasswordChange.Changer.Run
import PasswordChange.Proofs.Frame

/-!
# Locating a record

The flow falls into two parts: `Changer.locate` opens the session and the node and looks the
record up, `Changer.serve` does the rest at the record. All that `run` adds to the two is to
close the record and the node (`run_eq_locate`).

* `Changer.run_cases` is the one inversion of a run that later proofs use: the record is not
  found and the run fails backstage, or it is found backstage and the run ends as `serve` does.
* `Changer.locate_eq_ok` says through which calls a record is found.
-/

namespace PasswordChange.Changer

variable {D H : Type} [Directory D] [Host H]

/-- A record that was found: its handle, that of the node it was looked up in, and the location
that was opened. -/
structure Found where
  node : HandleId
  record : HandleId
  location : Location

/-- The location that is opened, by whether the first session was opened directly. -/
def openedLocation (c : Changer) (request : Request) (direct : Bool) : Location :=
  if direct then request.location
  else if request.location.name?.isNone then .named c.settings.localDefaultNode
  else request.location

/-- The flow from a session to the record. -/
def seek (request : Request) (opened : HandleId × Location) : Act D H Found := do
  let node ← Act.closing opened.1 (openNode opened.1 opened.2)
  let record ← (findRecord node request.username).onFailure (Act.perform (Directory.close node))
  return ⟨node, record, opened.2⟩

/-- The flow up to the record. -/
def locate (c : Changer) (request : Request) : Act D H Found := do
  let (session, location) ← c.openSession request
  let node ← Act.closing session (openNode session location)
  let record ← (findRecord node request.username).onFailure (Act.perform (Directory.close node))
  return ⟨node, record, location⟩

/-- The flow from the record on. -/
def attend (c : Changer) (request : Request) (found : Found) : Act D H Outcome :=
  c.serve found.record request found.location

theorem locate_eq_seek (c : Changer) (request : Request) :
    (c.locate request : Act D H Found) = c.openSession request >>= seek request := rfl

theorem run_eq_locate (c : Changer) (request : Request) :
    (c.run request : Act D H Outcome) =
      c.locate request >>= fun found =>
        Act.closing found.node (Act.closing found.record (c.attend request found)) := by
  simp only [run, locate, bind_assoc]
  congr
  funext opened
  simp only [pure_bind]
  congr
  funext node
  exact Act.always_bind _ _ _

/-- A record that was located was found last, in the node that was opened before, in the session
that was opened first. -/
theorem locate_eq_ok {c : Changer} {request : Request} {w w₀ : World D H} {found : Found}
    (located : c.locate request w = (.ok found, w₀)) :
    ∃ session w₁ w₂, c.openSession request w = (.ok (session, found.location), w₁) ∧
      Act.closing session (openNode session found.location) w₁ = (.ok found.node, w₂) ∧
      findRecord found.node request.username w₂ = (.ok found.record, w₀) := by
  obtain ⟨⟨session, location⟩, w₁, opened, rest⟩ := Act.bind_eq_ok located
  obtain ⟨node, w₂, entered, rest⟩ := Act.bind_eq_ok rest
  obtain ⟨record, w₃, looked, rest⟩ := Act.bind_eq_ok rest
  cases rest
  refine ⟨session, w₁, w₂, opened, entered, ?_⟩
  rcases Act.orElse_eq_ok looked with direct | ⟨e, w', _, cleaned⟩
  · exact direct
  · obtain ⟨_, _, _, failed⟩ := Act.bind_eq_ok cleaned
    cases failed

omit [Host H] in
/-- A record that was found is one that the directory gave. -/
theorem findRecord_eq_ok {node record : HandleId} {username : String} {w w₀ : World D H}
    (looked : findRecord node username w = (.ok record, w₀)) :
    Act.perform (Directory.copyRecord node Directory.userRecords username) w =
      (.ok (some record), w₀) := by
  obtain ⟨record?, w₁, performed, rest⟩ := Act.bind_eq_ok looked
  cases record? with
  | none => cases rest
  | some record' =>
      cases rest
      exact performed

/-! ## What locating keeps -/

variable {R : D → D → Prop} {P : Event → Prop}

section Opening

variable {F : Frame D H} (covers : F.CoversBootstrap)

include covers

theorem loadLocalDaemon_keeps (c : Changer) : (c.loadLocalDaemon : Act D H Unit).Keeps F := by
  refine .bind (.orElse (covers.launch _ _) fun e => ?_) fun status => ?_
  · cases e
    case start cause =>
      show (ite _ _ _ : Act D H Int).Keeps _
      split <;> exact Act.keeps_fail _
    all_goals exact Act.keeps_fail _
  · show (ite _ _ _ : Act D H Unit).Keeps _
    split
    · exact Act.keeps_fail _
    · exact Act.keeps_value _

theorem bootstrap_keeps (c : Changer) (error : DirectoryError) :
    (c.bootstrap error : Act D H Unit).Keeps F := by
  refine .bind covers.isSingleUser fun singleUser => ?_
  cases singleUser
  case false => exact .bind (covers.logged _ _) fun _ => Act.keeps_fail _
  case true =>
    refine .bind (covers.logged _ _) fun _ => ?_
    refine .orElse (c.loadLocalDaemon_keeps covers) fun e => ?_
    cases e <;> exact Act.keeps_fail _

/-- A session is opened in a frame that covers the bootstrap and the creation of sessions. -/
theorem openSession_keeps
    (created : ∀ options,
      (Act.perform (Directory.createSession options) : Act D H HandleId).Keeps F)
    (c : Changer) (request : Request) :
    (c.openSession request : Act D H (HandleId × Location)).Keeps F := by
  refine .bind (.orElse ?_ fun e => ?_) fun first => ?_
  · exact .bind (created _) fun _ => Act.keeps_value _
  · cases e
    case directory error =>
      show (ite _ _ _ : Act D H (Option HandleId)).Keeps _
      split
      · exact .bind (c.bootstrap_keeps covers error) fun _ => Act.keeps_value _
      · exact Act.keeps_fail _
    all_goals exact Act.keeps_fail _
  · cases first
    case some session => exact Act.keeps_value _
    case none => exact .bind (created _) fun _ => Act.keeps_value _

end Opening

variable (laws : Directory.LookupFrame (D := D) R P) (host : Host.Emits (H := H) P)
  (logged : ∀ level message, P (.logged ⟨.flow, level, message⟩))

omit [Host H] in
theorem openNode_keeps (session : HandleId) (location : Location) :
    (openNode session location : Act D H HandleId).Keeps (laws.frame P) := by
  unfold openNode
  split
  · exact laws.keeps_perform (laws.openNodeByType _ _)
  · exact laws.keeps_perform (laws.openNodeByName _ _)

omit [Host H] in
theorem findRecord_keeps (node : HandleId) (username : String) :
    (findRecord node username : Act D H HandleId).Keeps (laws.frame P) := by
  apply Act.Keeps.bind (laws.keeps_perform (laws.copyRecord _ _ _))
  intro record
  cases record
  case none => exact Act.keeps_fail _
  case some => exact Act.keeps_value _

omit [Host H] in
theorem seek_keeps (request : Request) (opened : HandleId × Location) :
    (seek request opened : Act D H Found).Keeps (laws.frame P) := by
  apply Act.Keeps.bind (laws.keeps_closing opened.1 (openNode_keeps laws opened.1 opened.2))
  intro node
  apply Act.Keeps.bind (.onFailure (findRecord_keeps laws node _) (laws.keeps_close node))
  intro record
  exact Act.keeps_value _

include host logged in
/-- A record is looked up backstage. -/
theorem locate_keeps (c : Changer) (request : Request) :
    (c.locate request : Act D H Found).Keeps (laws.frame P) := by
  rw [locate_eq_seek]
  exact .bind (c.openSession_keeps (laws.coversBootstrap host logged)
    (fun _ => laws.keeps_perform (laws.createSession _)) request) (seek_keeps laws request)

/-! ## The inversion of a run -/

/-- A run that finds no record has nothing to close. -/
theorem run_of_unlocated {c : Changer} {request : Request} {w w₁ : World D H} {e : Failure}
    (unlocated : c.locate request w = (.error e, w₁)) : c.run request w = (.error e, w₁) := by
  rw [run_eq_locate]
  exact Act.andThen_of_error unlocated

include laws in
/-- A run that finds a record ends as the service at the record ends, and then closes it. -/
theorem run_of_located {c : Changer} {request : Request} {w w₁ : World D H} {found : Found}
    (located : c.locate request w = (.ok found, w₁)) :
    (c.run request w).1 = (c.attend request found w₁).1 ∧
      Backstage R P (c.attend request found w₁).2 (c.run request w).2 := by
  obtain ⟨inner, innerKept⟩ :=
    laws.closing_run found.record (c.attend request found) w₁
  obtain ⟨outer, outerKept⟩ := laws.closing_run found.node
    (Act.closing found.record (c.attend request found)) w₁
  rw [run_eq_locate, Act.bind_eq_andThen, Act.andThen_of_ok located]
  exact ⟨outer.trans inner, innerKept.trans (fun _ _ _ => laws.trans) outerKept⟩

include laws host logged in
/-- **A run either fails while it looks for the record, or ends as the service at the record
ends.** Everything around the service happens backstage. -/
theorem run_cases (c : Changer) (request : Request) (w : World D H) :
    (∃ e, c.run request w = (.error e, (c.locate request w).2) ∧
      (c.locate request w).1 = .error e ∧ Backstage R P w (c.locate request w).2) ∨
    ∃ found w₁, c.locate request w = (.ok found, w₁) ∧ Backstage R P w w₁ ∧
      (c.run request w).1 = (c.attend request found w₁).1 ∧
      Backstage R P (c.attend request found w₁).2 (c.run request w).2 := by
  have kept := c.locate_keeps laws host logged request w
  rcases located : c.locate request w with ⟨_ | found, w₁⟩ <;> rw [located] at kept
  case error e => exact Or.inl ⟨e, run_of_unlocated located, rfl, kept⟩
  case ok => exact Or.inr ⟨found, w₁, rfl, kept, run_of_located laws located⟩

end PasswordChange.Changer
