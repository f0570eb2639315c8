import PasswordChange.Proofs.Mirroring
import PasswordChange.Proofs.Secrecy

/-!
# The two kinds of directories agree

A run at a directory in memory and a run over a native framework go the same way, if the framework
answers every call in the way in which the directory in memory replied to the corresponding
operation. The replies are those of a directory that remembers them.

* `mirror` couples the two directories at the stations of the flow.
* `directories_agree` is the main result.
-/

namespace PasswordChange

open Directory (Memory Native Recorded Reply)

variable {f : Framework} {username : String} {replies : List Reply}

/-! ## The stations of the flow -/

variable (f username replies) in
/-- At a record: both handles are open on it and on its node, and on the first side it is a record
of the user. -/
structure AtRecord (node₂ record₁ record₂ : HandleId) (r : Recorded Memory) (n : Native) :
    Prop where
  mirrors : Mirrors f replies r n
  node : n.Holds .node node₂
  record : n.Holds .record record₂
  other : record₂ ≠ node₂
  denotes : ∃ home, r.directory.recordOf record₁ = .ok (home, username)

/-- What is done at a record keeps one there that leaves the handles alone. -/
theorem AtRecord.stay {node₂ record₁ record₂ : HandleId} {r r' : Recorded Memory} {n n' : Native}
    (here : AtRecord f username replies node₂ record₁ record₂ r n)
    (mirrors : Mirrors f replies r' n')
    (handles₁ : r'.directory.handles = r.directory.handles) (handles₂ : n'.handles = n.handles) :
    AtRecord f username replies node₂ record₁ record₂ r' n' := by
  refine ⟨mirrors, here.node.of_handles_eq handles₂, here.record.of_handles_eq handles₂,
    here.other, ?_⟩
  obtain ⟨home, place⟩ := here.denotes
  refine ⟨home, ?_⟩
  unfold Memory.recordOf at place ⊢
  rw [handles₁]
  exact place

theorem Mirrors.close {r : Recorded Memory} {n : Native} (mirrors : Mirrors f replies r n)
    (i j : HandleId) : Mirrors f replies (Directory.close i r).state (Directory.close j n).state :=
  ⟨mirrors.speaks, mirrors.answers⟩

/-- Two handles are closed, and the framework hears nothing of it. -/
theorem closes_of_mirrors {S S' : Recorded Memory → Native → Prop} {i j : HandleId}
    (still : ∀ r n, S r n → S' (Directory.close i r).state (Directory.close j n).state) :
    (agreement username replies).Closes S i j S' :=
  fun r n related _ => ⟨(Memory.close_eq i r.directory).1, (Native.close_eq j n).1,
    still r n related, Journal.follows_of_released (Memory.released_of_close i r.directory)⟩

/-- A node is opened on both sides. -/
theorem steps_of_openNode {call : Directory.Call} {call' : Framework.Call}
    {decide : Memory → Except Failure (Handle Memory.Ref)} {name : Framework.Response → Value}
    {session₂ : HandleId} {r : Recorded Memory} {n : Native} (complete : f.Complete)
    (mirrors : Mirrors f replies r n) (holds : n.Holds .session session₂)
    (passed : ∀ accepted, Passed username (call, accepted) (call', accepted))
    (ahead : (Recorded.ask (fun _ => .opened) (fun d => d.conclude call (decide d)) r).state.replies
      <+: replies) :
    (agreement username replies).Steps
      (fun _ node₂ r' n' => Mirrors f replies r' n' ∧ n'.Holds .node node₂ ∧ session₂ ≠ node₂)
      (fun r' n' => Mirrors f replies r' n' ∧ n'.Holds .session session₂)
      (Recorded.ask (fun _ => .opened) (fun d => d.conclude call (decide d)) r)
      (n.openObject .node .nodeUnknown name (.ok call')) :=
  .mono (steps_of_conclude complete mirrors passed nofun ahead)
    (fun _ _ _ _ ⟨after, node, kept⟩ => ⟨after, node, (kept _ _ holds).1⟩)
    fun _ _ ⟨after, same⟩ => ⟨after, holds.of_handles_eq same⟩

/-- A credential call is passed on to the framework. -/
theorem steps_of_submits {call : Directory.Call} {call' : Framework.Call}
    {operation : Memory → Step Memory Unit} {node₂ record₁ record₂ : HandleId}
    {r : Recorded Memory} {n : Native} (complete : f.Complete)
    (here : AtRecord f username replies node₂ record₁ record₂ r n)
    (submits : Memory.Submits call r.directory (operation r.directory))
    (passed : ∀ accepted, Passed username (call, accepted) (call', accepted))
    (ahead : (Recorded.ask (fun _ => .accepted) operation r).state.replies <+: replies) :
    (agreement username replies).Steps
      (fun _ _ => AtRecord f username replies node₂ record₁ record₂)
      (AtRecord f username replies node₂ record₁ record₂)
      (Recorded.ask (fun _ => .accepted) operation r) (n.submit (.ok call')) := by
  obtain ⟨answered, after⟩ := here.mirrors.asked ahead
  obtain ⟨_, _, handles⟩ := Native.ask_eq n
  have speaks := here.mirrors.speaks.ask
  unfold Recorded.ask at after ⊢
  generalize operation r.directory = step at submits answered after ⊢
  cases submits with
  | refused e =>
      obtain ⟨error, native, rfl, refused, given, carries⟩ := answered.of_error
      rw [Native.submit_of_refused refused, given]
      exact .fail (fails_of_carries complete speaks carries nofun)
        (here.stay (after _ speaks rfl) rfl handles) (Journal.follows_of_passed (passed false))
  | accepted d' kept =>
      rw [Native.submit_of_answered answered]
      exact .ok (here.stay (after _ speaks rfl) kept handles)
        (Journal.follows_of_passed (passed true))

section Stations

variable (complete : f.Complete) (node₁ node₂ record₁ record₂ : HandleId)

include complete

/-- A record is looked up on both sides. -/
theorem copyRecord_tandem :
    (agreement username replies).Tandem
      (fun r n => Mirrors f replies r n ∧ n.Holds .node node₂)
      (Directory.copyRecord node₁ Directory.userRecords username)
      (Directory.copyRecord node₂ Directory.userRecords username)
      (Optionally (AtRecord f username replies node₂)
        fun r n => Mirrors f replies r n ∧ n.Holds .node node₂)
      (fun r n => Mirrors f replies r n ∧ n.Holds .node node₂) := by
  rintro r n ⟨mirrors, holds⟩ ahead
  obtain ⟨o, decided⟩ := Native.decideRecord_eq mirrors.speaks complete.constants holds username
  obtain ⟨answered, after⟩ := mirrors.asked ahead
  obtain ⟨_, _, handles⟩ := Native.ask_eq n
  have still : n.ask.2.Holds .node node₂ := holds.of_handles_eq handles
  have finds : Memory.Finds username r.directory
      (Directory.copyRecord node₁ Directory.userRecords username r.directory) :=
    Memory.finds_copyRecord node₁ username r.directory
  change (agreement username replies).Steps _ _
    (Recorded.ask Reply.ofRecord? (Directory.copyRecord node₁ Directory.userRecords username) r)
    (n.copyRecord node₂ Directory.userRecords username)
  unfold Recorded.ask at after ⊢
  generalize Directory.copyRecord node₁ Directory.userRecords username r.directory = step
    at finds answered after ⊢
  cases finds with
  | refused e =>
      obtain ⟨error, native, rfl, refused, given, carries⟩ := answered.of_error
      rw [Native.copyRecord_of_refused decided refused given]
      exact .fail (fails_of_carries complete mirrors.speaks.ask carries nofun)
        ⟨after _ mirrors.speaks.ask rfl, still⟩
        (Journal.follows_of_passed (.copyRecord o false))
  | absent =>
      obtain ⟨refused, none⟩ := answered
      rw [Native.copyRecord_of_absent decided refused none]
      exact .ok ⟨after _ mirrors.speaks.ask rfl, still⟩ (Journal.follows_of_passed (.absent o))
  | found record d home place =>
      rw [Native.copyRecord_of_answered decided answered]
      obtain ⟨other, node⟩ := still.issue .record (.text username)
      exact .ok ⟨after _ (mirrors.speaks.ask.issue _) (Native.pending_issue ..), node,
        Native.holds_issue .., other.symm, home, place⟩
        (Journal.follows_of_passed (.copyRecord o true))

/-- The location of a record is read on both sides. -/
theorem copyValues_tandem :
    (agreement username replies).Tandem (AtRecord f username replies node₂ record₁ record₂)
      (Directory.copyValues record₁ Directory.metanodeLocation)
      (Directory.copyValues record₂ Directory.metanodeLocation)
      (fun values values' r n => values' = values ∧
        AtRecord f username replies node₂ record₁ record₂ r n)
      (AtRecord f username replies node₂ record₁ record₂) := by
  rintro r n here ahead
  obtain ⟨o, decided⟩ := Native.decideValues_eq here.mirrors.speaks complete.constants here.record
  obtain ⟨answered, after⟩ := here.mirrors.asked ahead
  obtain ⟨_, _, handles⟩ := Native.ask_eq n
  obtain ⟨home, place⟩ := here.denotes
  have read : Directory.copyValues record₁ Directory.metanodeLocation r.directory =
      .ok [some home] r.directory [] := by
    change Memory.copyValues record₁ Directory.metanodeLocation r.directory = _
    unfold Memory.copyValues
    rw [place]
    rfl
  change (agreement username replies).Steps _ _
    (Recorded.ask Reply.values (Directory.copyValues record₁ Directory.metanodeLocation) r)
    (n.copyValues record₂ Directory.metanodeLocation)
  unfold Recorded.ask at after ⊢
  rw [read] at answered after ⊢
  obtain ⟨answered, given⟩ := answered
  rw [Native.copyValues_of_answered decided answered given]
  exact .ok ⟨rfl, here.stay (after _ here.mirrors.speaks.ask rfl) rfl handles⟩ ⟨rfl, .nil⟩

variable {v₁ v₂ : Vault} {old? new? : Option SecretId} {old : Option String} {new : String}

/-- A password is set with credentials on both sides. -/
theorem setCredentials_tandem (readOld : Renaming.identity.Reads v₁ v₂ old? old)
    (readNew : Renaming.identity.Reads v₁ v₂ new? (some new)) (authname : String) :
    (agreement username replies).Tandem (AtRecord f username replies node₂ record₁ record₂)
      (Directory.setCredentials v₁ record₁ Directory.userRecords Directory.setPassword
        [.text username, .ofSecret? new?, .text authname, .ofSecret? old?])
      (Directory.setCredentials v₂ record₂ Directory.userRecords Directory.setPassword
        [.text username, .ofSecret? new?, .text authname, .ofSecret? old?])
      (fun _ _ => AtRecord f username replies node₂ record₁ record₂)
      (AtRecord f username replies node₂ record₁ record₂) := by
  rintro r n here ahead
  obtain ⟨o, decided⟩ := Native.decideCredentials_eq here.mirrors.speaks complete.constants
    here.record readOld.eq_of_identity readNew.second username authname
  change (agreement username replies).Steps _ _ _ (n.submit _)
  rw [decided]
  exact steps_of_submits complete here
    (Memory.submits_setCredentials r.directory readOld.first readNew.first username authname)
    (.setCredentials o new authname old) ahead

/-- A password is changed on both sides. -/
theorem changePassword_tandem (readOld : Renaming.identity.Reads v₁ v₂ old? old)
    (readNew : Renaming.identity.Reads v₁ v₂ new? (some new)) :
    (agreement username replies).Tandem (AtRecord f username replies node₂ record₁ record₂)
      (Directory.changePassword v₁ record₁ (.ofSecret? old?) (.ofSecret? new?))
      (Directory.changePassword v₂ record₂ (.ofSecret? old?) (.ofSecret? new?))
      (fun _ _ => AtRecord f username replies node₂ record₁ record₂)
      (AtRecord f username replies node₂ record₁ record₂) := by
  rintro r n here ahead
  obtain ⟨o, decided⟩ := Native.decideChange_eq here.record readOld.eq_of_identity readNew.second
  obtain ⟨home, place⟩ := here.denotes
  change (agreement username replies).Steps _ _ _ (n.submit _)
  rw [decided]
  exact steps_of_submits complete here
    (Memory.submits_changePassword r.directory readOld.first readNew.first place)
    (.changePassword o old new) ahead

end Stations

/-- **A directory in memory and a framework that answers as it replies go through the flow side by
side.** -/
def mirror (complete : f.Complete) (replies : List Reply) (request : Request) :
    Coupling (Recorded Memory) Native (agreement request.username replies) request where
  idle := Mirrors f replies
  session _ s₂ r n := Mirrors f replies r n ∧ n.Holds .session s₂
  entered _ s₂ _ n₂ r n := Mirrors f replies r n ∧ n.Holds .node n₂ ∧ s₂ ≠ n₂
  node _ n₂ r n := Mirrors f replies r n ∧ n.Holds .node n₂
  record _ n₂ r₁ r₂ := AtRecord f request.username replies n₂ r₁ r₂
  frame := Recorded.sessionFrame (fun _ _ grown ahead => grown.trans ahead)
    fun first second => first ∘ second
  earlier _ r := (List.prefix_append r.replies _).trans
  undergo _ _ _ mirrors := ⟨mirrors.speaks, mirrors.answers⟩
  createSession options := by
    intro r n mirrors ahead
    have decided := Native.decideSession_eq mirrors.speaks complete.constants options
    change (agreement request.username replies).Steps _ _ _ (n.createSession options)
    unfold Native.createSession
    rw [decided]
    refine steps_logged (.mono (steps_of_conclude complete mirrors (.createSession options)
      (by decide) ahead) (fun _ _ _ _ here => ?_) fun _ _ => And.left) _
    exact ⟨here.1, here.2.1⟩
  openNodeByName s₁ s₂ name := by
    rintro r n ⟨mirrors, holds⟩ ahead
    obtain ⟨o, decided⟩ := Native.decideNodeByName_eq mirrors.speaks complete.constants holds name
    change (agreement request.username replies).Steps _ _ _ (n.openNodeByName s₂ name)
    unfold Native.openNodeByName
    rw [decided]
    exact steps_of_openNode complete mirrors holds (.openNodeByName o name) ahead
  openNodeByType s₁ s₂ := by
    rintro r n ⟨mirrors, holds⟩ ahead
    obtain ⟨o, decided⟩ := Native.decideNodeByType_eq mirrors.speaks complete.constants holds
    change (agreement request.username replies).Steps _ _ _
      (n.openNodeByType s₂ Directory.authenticationNode)
    unfold Native.openNodeByType
    rw [decided]
    exact steps_of_openNode complete mirrors holds (.openNodeByType o) ahead
  copyRecord n₁ n₂ := copyRecord_tandem complete n₁ n₂
  copyValues _ n₂ r₁ r₂ := copyValues_tandem complete n₂ r₁ r₂
  setCredentials _ n₂ r₁ r₂ readOld readNew :=
    setCredentials_tandem complete n₂ r₁ r₂ readOld readNew request.authname
  changePassword _ n₂ r₁ r₂ readOld readNew :=
    changePassword_tandem complete n₂ r₁ r₂ readOld readNew
  closeSession s₁ s₂ := closes_of_mirrors fun _ _ here => here.1.close s₁ s₂
  leaveSession s₁ s₂ _ _ := closes_of_mirrors fun _ _ here =>
    ⟨here.1.close s₁ s₂, here.2.1.close here.2.2⟩
  closeRecord _ _ r₁ r₂ := closes_of_mirrors fun _ _ here =>
    ⟨here.mirrors.close r₁ r₂, here.node.close here.other⟩
  closeNode n₁ n₂ := closes_of_mirrors fun _ _ here => here.1.close n₁ n₂

/-! ## Agreement -/

/-- The world with another directory. -/
def World.withDirectory {D D' H : Type} (d : D') (w : World D H) : World D' H :=
  { directory := d, host := w.host, vault := w.vault, answers := w.answers, journal := w.journal }

variable (settings : Settings) (programName : String) (form : Form)
  (w : World Memory Host.Scripted)

/-- The same change of a password at a directory that remembers its replies. -/
def recordedChange : Except Failure Status × World (Recorded Memory) Host.Scripted :=
  changePassword settings programName form (w.withDirectory { directory := w.directory })

/-- A directory that remembers its replies is otherwise the same. -/
theorem recordedChange_eq :
    (changePassword settings programName form w).1 =
        (recordedChange settings programName form w).1 ∧
      (changePassword settings programName form w).2.journal =
        (recordedChange settings programName form w).2.journal := by
  have abreast : (Memory.secrecy .identity).recorded.Abreast
      (Comparison.Within (Memory.Twin .identity True))
      (w.withDirectory ({ directory := w.directory } : Recorded Memory)) w :=
    ⟨⟨trivial, w.directory.rename_identity.symm⟩, rfl, rfl,
      (Answer.map_rename_identity w.answers).symm⟩
  obtain ⟨result, _, added₁, added₂, grown₁, grown₂, same⟩ :=
    Comparison.changePassword_agree settings programName form
      (fun request _ => ⟨(Memory.coupling .identity request).recorded, rfl⟩) abreast trivial
  have unchanged : added₂ = added₁ := by
    rw [show added₂ = added₁.map (Event.rename .identity) from same,
      show Event.rename .identity = id from funext Event.rename_identity, List.map_id]
  refine ⟨result, ?_⟩
  rw [grown₂, unchanged]
  exact grown₁.symm

/-- A form is submitted for the user whom it names. -/
theorem Form.username_of_submit {form : Form} {request : Request}
    (submitted : form.submit = .ok request) : form.username = some request.username := by
  obtain ⟨username, location, authname⟩ := form
  unfold Form.submit at submitted
  cases username with
  | none => cases submitted
  | some username =>
      dsimp only at submitted
      split at submitted
      · cases submitted
      · split at submitted
        · cases submitted
          rfl
        · split at submitted <;>
          · cases submitted
            rfl

namespace Journal

variable {username : String} {j k : Journal}

/-- A view of the events at the terminal and on the host is the same. -/
theorem Follows.view_eq (follows : Follows username j k) {α : Type} {select : Event → Option α}
    (outward : ∀ event, event.isOutward = false → select event = none) :
    k.filterMap select = j.filterMap select := by
  have seen (l : Journal) : (l.filter Event.isOutward).filterMap select = l.filterMap select := by
    rw [List.filterMap_filter]
    refine congrArg (List.filterMap · l) (funext fun event => ?_)
    cases kind : event.isOutward with
    | true => rfl
    | false => exact (outward event kind).symm
  rw [← seen k, follows.outward, seen j]

end Journal

/-- **A directory in memory and a directory over a framework agree.** If the framework has its
constants and its errors, and if it answers every call in the way in which the directory in memory
replies to the corresponding operation, then a change of a password ends in the same way, with the
same prompts, the same lines, the same questions to the host and the same programs run, and every
call on the directory is passed on to the framework, with the same names and passwords, and
accepted or not as the directory accepts it or not. -/
theorem directories_agree (n : Native) (installed : n.framework = some f) (complete : f.Complete)
    (answers : ∀ k reply,
      (recordedChange settings programName form w).2.directory.replies[k]? = some reply →
        f.Answers reply (n.reply k)) :
    let first := changePassword settings programName form w
    let second := changePassword settings programName form (w.withDirectory n)
    let seen₁ := w.since first.2
    let seen₂ := (w.withDirectory n).since second.2
    second.1 = first.1 ∧ seen₂.prompts = seen₁.prompts ∧ seen₂.said = seen₁.said ∧
      seen₂.warned = seen₁.warned ∧ seen₂.queried = seen₁.queried ∧
      seen₂.launched = seen₁.launched ∧ seen₁.Follows (form.username.getD "") seen₂ := by
  generalize replied : (recordedChange settings programName form w).2.directory.replies = replies
    at answers
  have abreast : (agreement (form.username.getD "") replies).Abreast (Mirrors f replies)
      (w.withDirectory { directory := w.directory }) (w.withDirectory n) := by
    refine ⟨⟨⟨f, installed, rfl, rfl⟩, fun k reply next => ?_⟩, rfl, rfl,
      (Answer.map_rename_identity w.answers).symm⟩
    change replies[0 + k]? = some reply at next
    rw [Nat.zero_add] at next
    exact answers k reply next
  have pairs (request : Request) (submitted : form.submit = .ok request) :
      ∃ pair : Coupling (Recorded Memory) Native (agreement (form.username.getD "") replies)
        request, pair.idle = Mirrors f replies := by
    rw [Form.username_of_submit submitted]
    exact ⟨mirror complete replies request, rfl⟩
  obtain ⟨result, _, added₁, added₂, grown₁, grown₂, follows⟩ :=
    Comparison.changePassword_agree settings programName form pairs abreast
      (replied ▸ List.prefix_refl _)
  obtain ⟨same, journal⟩ := recordedChange_eq settings programName form w
  have follows : Journal.Follows (form.username.getD "") added₁ added₂ := follows
  dsimp only
  rw [World.since_of_journal_eq (journal.trans grown₁), World.since_of_journal_eq grown₂]
  refine ⟨result.trans same.symm, follows.view_eq ?_, follows.view_eq ?_, follows.view_eq ?_,
    follows.view_eq ?_, follows.view_eq ?_, follows⟩ <;>
  · intro event inward
    cases event <;> first | rfl | cases inward

/-- A directory with one user, who types a wrong password. -/
def mistaken : World Memory Host.Scripted :=
  { directory := ({} : Memory).addUser "/Local/Default" "dora" "old" false
    host := {}
    answers := [.text "wrong", .text "new", .text "new"] }

/-- The text with which a wrong password is refused. -/
def mistakenText : String := "Credentials could not be verified, username or password is invalid."

/-- A framework that finds the user and refuses the fifth call. -/
def refusing : Framework :=
  { responses := [{}, {}, {}, {},
      { ok := false, error := some { code := 5000, description := .text mistakenText } }] }

/-- A wrong password is refused in the same words over the framework. -/
theorem mistake_refused_over_framework :
    let n : Native := { framework := some refusing }
    let form : Form := { username := some "dora" }
    let second := changePassword {} "passwd" form (mistaken.withDirectory n)
    refusing.Complete ∧ second.1 = .ok .failure ∧
      ((mistaken.withDirectory n).since second.2).warned = ["passwd: " ++ mistakenText] := by
  intro n form second
  have replied : (recordedChange {} "passwd" form mistaken).2.directory.replies =
      [.opened, .opened, .opened, .values [some "/Local/Default"],
        .refused { code := .authenticationFailed, description := some mistakenText }] := by
    decide +kernel
  have complete : refusing.Complete := by
    refine ⟨fun constant => ?_, by decide, by decide⟩
    cases constant <;> rfl
  have carries : refusing.Carries { code := 5000, description := .text mistakenText }
      { code := .authenticationFailed, description := some mistakenText } :=
    ⟨rfl, rfl, rfl, by decide⟩
  have agree := directories_agree {} "passwd" form mistaken n rfl complete <| by
    rw [replied]
    rintro (_ | _ | _ | _ | _ | k) reply next <;> cases next
    · rfl
    · rfl
    · rfl
    · exact ⟨rfl, rfl⟩
    · exact ⟨rfl, _, rfl, carries⟩
  obtain ⟨result, _, _, warned, _⟩ := agree
  have ended : (changePassword {} "passwd" form mistaken).1 = .ok .failure := by decide +kernel
  have line : (mistaken.since (changePassword {} "passwd" form mistaken).2).warned =
      ["passwd: " ++ mistakenText] := by decide +kernel
  exact ⟨complete, result.trans ended, warned.trans line⟩

end PasswordChange
