import PasswordChange.Proofs.Course
import PasswordChange.Proofs.Parting

/-!
# The stations of the flow

A run opens a session, a node in it and a record in that, and nothing can go wrong on the way but
what the user is told. `Act.Meets` is the contract of an act: in which worlds it may begin, and in
which ones it succeeds and fails. The contracts of the flow follow from those of the operations of a
directory, which `Directory.Stations` collects: each operation leads to the next station, or reports
an error of the directory and stays.

* `Changer.openSession_meets` and `Changer.seek_meets` are the contracts up to the record.
* `Changer.run_settles` says that a run does not come to a session, or does not come to a record, or
  takes its course there.
-/

namespace PasswordChange

variable {D H α β : Type}

/-! ## Contracts -/

namespace Act

/-- An act ended with a value in a world that satisfies `Q`, or with a failure in one that satisfies
`E`. -/
inductive Ends (Q : α → World D H → Prop) (E : Failure → World D H → Prop) :
    Except Failure α × World D H → Prop where
  | ok {a : α} {w : World D H} : Q a w → Ends Q E (.ok a, w)
  | error {e : Failure} {w : World D H} : E e w → Ends Q E (.error e, w)

/-- In every world that satisfies `P`, the act ends so. -/
def Meets (P : World D H → Prop) (act : Act D H α) (Q : α → World D H → Prop)
    (E : Failure → World D H → Prop) : Prop :=
  ∀ w, P w → Ends Q E (act w)

variable {P P' : World D H → Prop} {act : Act D H α} {Q Q' : α → World D H → Prop}
  {E E' : Failure → World D H → Prop}

namespace Meets

theorem of_ok {w w' : World D H} {a : α} (meets : Meets P act Q E) (start : P w)
    (run : act w = (.ok a, w')) : Q a w' := by
  have ends := meets w start
  rw [run] at ends
  cases ends
  assumption

theorem of_error {w w' : World D H} {e : Failure} (meets : Meets P act Q E) (start : P w)
    (run : act w = (.error e, w')) : E e w' := by
  have ends := meets w start
  rw [run] at ends
  cases ends
  assumption

theorem mono (meets : Meets P act Q E) (value : ∀ a w, Q a w → Q' a w)
    (failure : ∀ e w, E e w → E' e w) : Meets P act Q' E' := by
  intro w start
  rcases run : act w with ⟨e | a, w'⟩
  · exact .error (failure e w' (meets.of_error start run))
  · exact .ok (value a w' (meets.of_ok start run))

theorem value {a : α} (holds : ∀ w, P w → Q a w) : Meets P (.value a) Q E :=
  fun w start => .ok (holds w start)

theorem fail {e : Failure} (holds : ∀ w, P w → E e w) : Meets P (.fail e) Q E :=
  fun w start => .error (holds w start)

theorem bind {next : α → Act D H β} {R : β → World D H → Prop} (first : Meets P act Q E)
    (second : ∀ a, Meets (Q a) (next a) R E) : Meets P (act >>= next) R E := by
  intro w start
  rw [Act.bind_eq_andThen]
  rcases run : act w with ⟨e | a, w'⟩
  · rw [Act.andThen_of_error run]
    exact .error (first.of_error start run)
  · rw [Act.andThen_of_ok run]
    exact second a w' (first.of_ok start run)

theorem orElse {handle : Failure → Act D H α} (first : Meets P act Q E)
    (second : ∀ e, Meets (E e) (handle e) Q E') : Meets P (act.orElse handle) Q E' := by
  intro w start
  rcases run : act w with ⟨e | a, w'⟩
  · rw [Act.orElse_of_error run]
    exact second e w' (first.of_error start run)
  · rw [Act.orElse_of_ok run]
    exact .ok (first.of_ok start run)

end Meets

end Act

/-! ## Operations that lead from station to station -/

/-- The directory satisfies `S`, and the host satisfies `K`. -/
def World.At (S : D → Prop) (K : H → Prop) (w : World D H) : Prop :=
  S w.directory ∧ K w.host

/-- The failure is an error of the directory. -/
def Failure.IsReported (e : Failure) : Prop :=
  ∃ error, e = .directory error

/-- From a state that satisfies `S`, the operation leads with its value to one that satisfies `T`,
or reports an error and stays where `S` is satisfied. -/
def Directory.Leads (S : D → Prop) (operation : D → Step D α) (T : α → D → Prop) : Prop :=
  ∀ d, S d →
    (∃ a, (operation d).outcome = .ok a ∧ T a (operation d).state) ∨
    ∃ error, (operation d).outcome = .error (.directory error) ∧ S (operation d).state

/-- The stations of the flow for a request, and the contracts of the operations between them. -/
structure Directory.Stations (D : Type) [Directory D] (request : Request) where
  idle : D → Prop
  session (s : HandleId) : D → Prop
  entered (s n : HandleId) : D → Prop
  node (n : HandleId) : D → Prop
  record (r : HandleId) : D → Prop
  undergo (deed : Directory.Deed) (d : D) : idle d → idle (Directory.undergo deed d)
  createSession (options : List (String × Value)) :
    Leads idle (Directory.createSession options) session
  openNodeByName (s : HandleId) (name : String) :
    Leads (session s) (Directory.openNodeByName s name) (entered s)
  openNodeByType (s : HandleId) :
    Leads (session s) (Directory.openNodeByType s authenticationNode) (entered s)
  leaveSession (s n : HandleId) (d : D) :
    entered s n d → node n (Directory.close s d).state
  copyRecord (n : HandleId) :
    Leads (node n) (Directory.copyRecord n userRecords request.username)
      fun record? d => ∀ r, record? = some r → record r d
  copyValues (r : HandleId) (d : D) : record r d →
    ∃ values, (Directory.copyValues r metanodeLocation d).outcome = .ok values ∧
      record r (Directory.copyValues r metanodeLocation d).state
  submission {needsAuth : Bool} {answers : List Answer} {password : String} (r : HandleId)
    (v : Vault) :
    (Confirmation.Conversation.of needsAuth answers).resolution = .confirmed password →
    Leads (record r)
      (Changer.submissionOf r request needsAuth (Confirmation.Conversation.of needsAuth answers) v)
      fun _ _ => True

/-- Hosts that satisfy `K` answer the question for single-user mode, can only be refused the start
of a program, and go on to satisfy `K`. -/
structure Host.Dependable [Host H] (K : H → Prop) : Prop where
  isSingleUser (h : H) : K h →
    (∃ b, (Host.isSingleUser h).outcome = .ok b) ∧ K (Host.isSingleUser h).state
  run (path : String) (args : List String) (h : H) : K h →
    (∀ e, (Host.run path args h).outcome = .error e →
      ∃ cause, e = .start cause ∧ cause.isRefusal = true) ∧ K (Host.run path args h).state

namespace Act.Meets

variable {S : D → Prop} {T T' : α → D → Prop} {K : H → Prop}

theorem perform {operation : D → Step D α} (leads : Directory.Leads S operation T) :
    Meets (World.At S K) (.perform operation : Act D H α) (fun a => World.At (T a) K)
      fun e w => e.IsReported ∧ World.At S K w := by
  intro w start
  have led := leads w.directory start.1
  unfold Act.perform
  generalize operation w.directory = step at led
  obtain ⟨outcome, state, events⟩ := step
  rcases led with ⟨a, rfl, reached⟩ | ⟨error, rfl, stayed⟩
  · exact .ok ⟨reached, start.2⟩
  · exact .error ⟨⟨error, rfl⟩, stayed, start.2⟩

theorem note (event : Event) (E : Failure → World D H → Prop) :
    Meets (World.At S K) (.note event) (fun _ => World.At S K) E :=
  fun _ start => .ok start

/-- A handle is closed at the end, however the act ends. -/
theorem closing [Directory D] {P : World D H → Prop} {act : Act D H α} {F : Failure → Prop}
    {handle : HandleId} (meets : Meets P act (fun a => World.At (T a) K) fun e _ => F e)
    (closes : ∀ d : D, (Directory.close handle d).outcome = .ok ())
    (left : ∀ a d, T a d → T' a (Directory.close handle d).state) :
    Meets P (Act.closing handle act) (fun a => World.At (T' a) K) fun e _ => F e := by
  intro w start
  have closed (w : World D H) : Act.perform (Directory.close handle) w =
      (.ok (), (Act.perform (Directory.close handle) w).2) :=
    Prod.ext (closes w.directory) rfl
  unfold Act.closing
  rcases run : act w with ⟨e | a, w'⟩
  · rw [Act.always_of_ok run (closed w')]
    exact .error (meets.of_error start run)
  · rw [Act.always_of_ok run (closed w')]
    obtain ⟨reached, kept⟩ := meets.of_ok start run
    exact .ok ⟨left a _ reached, kept⟩

end Act.Meets

namespace Changer

open Confirmation Act

variable [Directory D] [Host H] {request : Request} {K : H → Prop}

/-- What may keep a run from coming to a session: an error of the directory, or the local daemon
cannot be loaded. -/
inductive Unopened : Failure → Prop where
  | directory (error : DirectoryError) : Unopened (.directory error)
  | daemonLoad (load : DaemonLoadError) : Unopened (.daemonLoad load)

/-- What may keep a run from coming to a record in a session: an error of the directory, or there is
no such user. -/
inductive Unfound (request : Request) : Failure → Prop where
  | directory (error : DirectoryError) : Unfound request (.directory error)
  | unknownUser : Unfound request (.unknownUser request.username)

/-! ## Up to a session -/

section Opening

variable (stations : Directory.Stations D request) (dependable : Host.Dependable K)

include dependable

theorem launch_meets (path : String) (args : List String) :
    Meets (World.At stations.idle K) (Act.launch path args : Act D H Int)
      (fun _ => World.At stations.idle K)
      fun e w => (∃ cause, e = .start cause ∧ cause.isRefusal = true) ∧
        World.At stations.idle K w := by
  intro w start
  have affected : ∀ (deeds : List Directory.Deed) (d : D), stations.idle d →
      stations.idle (deeds.foldl (fun d deed => Directory.undergo deed d) d) := by
    intro deeds
    induction deeds with
    | nil => exact fun _ => id
    | cons deed rest ih => exact fun d idle => ih _ (stations.undergo deed d idle)
  obtain ⟨refused, kept⟩ := dependable.run path args w.host start.2
  unfold Act.launch Act.andThen Act.consult
  generalize Host.run path args w.host = step at refused kept
  obtain ⟨e | launch, host, events⟩ := step
  · exact .error ⟨refused e rfl, start.1, kept⟩
  · exact .ok ⟨affected launch.deeds _ start.1, kept⟩

theorem loadLocalDaemon_meets (c : Changer) :
    Meets (World.At stations.idle K) (c.loadLocalDaemon : Act D H Unit)
      (fun _ => World.At stations.idle K) fun e _ => Unopened e := by
  refine .bind (.orElse (launch_meets stations dependable _ _) fun e => ?_) fun status => ?_
  · rintro w ⟨⟨cause, rfl, refusal⟩, _⟩
    dsimp only
    rw [if_pos refusal]
    exact .error (.daemonLoad _)
  · split
    · exact .fail fun _ _ => .daemonLoad _
    · exact .value fun _ => id

theorem bootstrap_meets (c : Changer) (error : DirectoryError) :
    Meets (World.At stations.idle K) (c.bootstrap error : Act D H Unit)
      (fun _ => World.At stations.idle K) fun e _ => Unopened e := by
  have asked : Meets (World.At stations.idle K) (Act.consult Host.isSingleUser : Act D H Bool)
      (fun _ => World.At stations.idle K) fun e _ => Unopened e := by
    intro w start
    obtain ⟨⟨b, answered⟩, kept⟩ := dependable.isSingleUser w.host start.2
    unfold Act.consult
    generalize Host.isSingleUser w.host = step at answered kept
    obtain ⟨outcome, host, events⟩ := step
    cases answered
    exact .ok ⟨start.1, kept⟩
  refine .bind asked fun singleUser => ?_
  cases singleUser
  case false => exact .bind (.note _ _) fun _ => .fail fun _ _ => .directory error
  case true =>
    refine .bind (.note _ _) fun _ => .orElse (loadLocalDaemon_meets stations dependable c)
      fun e => ?_
    rintro w (⟨error⟩ | ⟨load⟩)
    · exact .error (.directory error)
    · exact .error (.daemonLoad _)

/-- **A session is opened, or it is reported why not.** -/
theorem openSession_meets (c : Changer) :
    Meets (World.At stations.idle K) (c.openSession request : Act D H (HandleId × Location))
      (fun opened => World.At (stations.session opened.1) K) fun e _ => Unopened e := by
  have created (options : List (String × Value)) :=
    Meets.perform (K := K) (stations.createSession options)
  -- The first session is opened, or there is none yet after a bootstrap.
  let Q (first : Option HandleId) : World D H → Prop :=
    World.At (first.elim stations.idle stations.session) K
  refine .bind (Q := Q) (.orElse (.bind (created []) fun s => .value fun _ => id) fun e => ?_)
    fun first => ?_
  · rintro w ⟨⟨error, rfl⟩, stayed⟩
    dsimp only
    split
    · have loaded := bootstrap_meets stations dependable c error
      exact Meets.bind (R := Q) loaded (fun _ => .value fun _ => id) w stayed
    · exact .error (.directory error)
  · cases first with
    | some s => exact .value fun _ => id
    | none =>
        refine .bind ((created _).mono (fun _ _ => id) ?_) fun s => .value fun _ => id
        rintro e w ⟨⟨error, rfl⟩, _⟩
        exact .directory error

end Opening

/-! ## Up to a record -/

section Seeking

variable (stations : Directory.Stations D request)
  (closes : ∀ (handle : HandleId) (d : D), (Directory.close handle d).outcome = .ok ())

omit [Host H]

theorem openNode_meets (s : HandleId) (location : Location) :
    Meets (World.At (stations.session s) K) (openNode s location : Act D H HandleId)
      (fun n => World.At (stations.entered s n) K) fun e _ => Unfound request e := by
  have reported (e : Failure) (w : World D H)
      (failed : e.IsReported ∧ World.At (stations.session s) K w) : Unfound request e := by
    obtain ⟨⟨error, rfl⟩, _⟩ := failed
    exact .directory error
  unfold openNode
  split
  · exact (Meets.perform (stations.openNodeByType s)).mono (fun _ _ => id) reported
  · exact (Meets.perform (stations.openNodeByName s _)).mono (fun _ _ => id) reported

theorem findRecord_meets (n : HandleId) :
    Meets (World.At (stations.node n) K) (findRecord n request.username : Act D H HandleId)
      (fun r => World.At (stations.record r) K) fun e _ => Unfound request e := by
  refine .bind ((Meets.perform (stations.copyRecord n)).mono (fun _ _ => id) ?_) fun record? => ?_
  · intro e w failed
    obtain ⟨⟨error, rfl⟩, _⟩ := failed
    exact .directory error
  · cases record? with
    | none => exact .fail fun _ _ => .unknownUser
    | some r => exact .value fun _ found => ⟨found.1 r rfl, found.2⟩

include closes in
/-- **In a session the record is found, or it is reported why not.** -/
theorem seek_meets (opened : HandleId × Location) :
    Meets (World.At (stations.session opened.1) K) (seek request opened : Act D H Found)
      (fun found => World.At (stations.record found.record) K) fun e _ => Unfound request e := by
  refine .bind (.closing (openNode_meets stations opened.1 opened.2) (closes opened.1) fun n d =>
    stations.leaveSession opened.1 n d) fun n => ?_
  refine .bind (.orElse (findRecord_meets stations n) fun e => ?_) fun r => .value fun _ => id
  -- The node is closed, and the failure stays the same.
  have closed : Meets (fun _ => Unfound request e)
      (Act.perform (Directory.close n) : Act D H Unit) (fun _ _ => Unfound request e)
      fun e _ => Unfound request e := by
    intro w unfound
    rw [show Act.perform (Directory.close n) w = (.ok (), _) from
      Prod.ext (closes n w.directory) rfl]
    exact .ok unfound
  exact .bind closed fun _ => .fail fun _ unfound => unfound

end Seeking

/-! ## How a run settles -/

variable {R : D → D → Prop} {c : Changer} {w w₀ w₁ : World D H} {found : Found}
  {values : List (Option String)} {talk : Conversation} {prelude rest : List Event}

/-- **A run fails before there is a session, or before it finds the record, or takes its
course.** -/
theorem run_settles (stations : Directory.Stations D request)
    (laws : Directory.LookupFrame (D := D) R (·.isBackstage = true))
    (emits : Host.Emits (H := H) (·.isBackstage = true)) (dependable : Host.Dependable K)
    (c : Changer) (start : World.At stations.idle K w) :
    (∃ e w', Unopened e ∧ c.openSession request w = (.error e, w') ∧
      (c.run request w).1 = .error e ∧ Stopped R c request w) ∨
    (∃ e opened w', Unfound request e ∧ c.openSession request w = (.ok opened, w') ∧
      (c.run request w).1 = .error e ∧ Stopped R c request w) ∨
    ∃ found values w₀ w₁ talk prelude rest,
      Course R c request w found values w₀ w₁ talk prelude rest ∧
        stations.record found.record w₁.directory := by
  have opening := openSession_meets stations dependable c
  have seeking (opened : HandleId × Location) := seek_meets (K := K) stations laws.close_ok opened
  have locating {found : Found} {w₀ : World D H} (located : c.locate request w = (.ok found, w₀)) :
      stations.record found.record w₀.directory := by
    rw [locate_eq_seek] at located
    obtain ⟨opened, w', ended, sought⟩ := Act.bind_eq_ok located
    exact ((seeking opened).of_ok (opening.of_ok start ended) sought).1
  rcases c.run_course laws emits request w with
    stopped | ⟨found, values, w₀, w₁, talk, prelude, rest, course⟩
  · rcases located : c.locate request w with ⟨e | found, w₀⟩
    · have failed : (c.run request w).1 = .error e := by
        rw [run_eq_locate, Act.bind_eq_andThen, Act.andThen_of_error located]
      rw [locate_eq_seek] at located
      rcases Act.andThen_cases located with ⟨opened, w', ended, sought⟩ | ⟨e, ended, same⟩
      · have unfound := (seeking opened).of_error (opening.of_ok start ended) sought
        exact Or.inr (Or.inl ⟨e, opened, w', unfound, ended, failed, stopped⟩)
      · cases same
        exact Or.inl ⟨e, w₀, opening.of_error start ended, ended, failed, stopped⟩
    · obtain ⟨values, read, _⟩ := stations.copyValues found.record w₀.directory (locating located)
      obtain ⟨e, unread⟩ := stopped.unread found w₀ located
      rw [read] at unread
      cases unread
  · obtain ⟨_, _, kept⟩ := stations.copyValues found.record w₀.directory
      (locating course.reached.located)
    refine Or.inr (Or.inr ⟨found, values, w₀, w₁, talk, prelude, rest, course, ?_⟩)
    rw [course.reached.directory]
    exact kept

/-- How a run that takes its course ends, by what comes of its conversation. -/
theorem Course.result_cases (stations : Directory.Stations D request)
    (course : Course R c request w found values w₀ w₁ talk prelude rest)
    (there : stations.record found.record w₁.directory) :
    (talk.resolution = .interrupted ∧ (c.run request w).1 = .error .interrupted) ∨
    talk.resolution ≠ .interrupted ∧
      ((∃ outcome, (c.run request w).1 = .ok outcome) ∨
        ∃ error, (c.run request w).1 = .error (.directory error)) := by
  obtain ⟨_, rfl, _, _, concludes⟩ := course
  generalize (c.run request w).1 = result at concludes ⊢
  cases concludes with
  | interrupted resolved => exact Or.inl ⟨resolved, rfl⟩
  | declined resolved =>
      rw [resolved]
      exact Or.inr ⟨nofun, Or.inl ⟨_, rfl⟩⟩
  | submitted resolved submitted =>
      have led := stations.submission found.record w.vault resolved w₁.directory there
      rw [← submitted] at led
      rw [resolved]
      refine Or.inr ⟨nofun, ?_⟩
      rcases led with ⟨_, ok, _⟩ | ⟨error, failed, _⟩
      · exact Or.inl ⟨_, by rw [ok]; rfl⟩
      · exact Or.inr ⟨error, by rw [failed]; rfl⟩

/-- **A run that takes its course is interrupted exactly if an interrupt is among the answers to its
prompts.** -/
theorem Course.interrupted_iff (stations : Directory.Stations D request)
    (discreet : Directory.Discreet D)
    (course : Course R c request w found values w₀ w₁ talk prelude rest)
    (there : stations.record found.record w₁.directory) :
    (c.run request w).1 = .error .interrupted ↔
      .interrupt ∈ w.answers.take (w.since (c.run request w).2).prompts.length := by
  have talked := Conversation.interrupted_iff (oldPrompt request)
    (c.needsAuthentication (found.canonical values)) w.answers
  rw [course.held, ← (course.shown discreet).1] at talked
  rw [← talked]
  rcases course.result_cases stations there with
    ⟨resolved, result⟩ | ⟨other, ⟨outcome, result⟩ | ⟨error, result⟩⟩ <;> rw [result]
  · simp [resolved]
  · simp [other]
  · simp [other]

end Changer

end PasswordChange
