import PasswordChange.Proofs.Ledger
import PasswordChange.Proofs.Resolving

/-!
# What names refer to

In a directory in memory, the search order, the handles on nodes and the handles on records refer to
nodes and users by their names. Whatever was done to the directory, these names lead somewhere: so
an operation on an open handle of the right kind never misses an entry.

* `Memory.Coherent` is the invariant, `Memory.Coherent.carryOut` the step that every operation
  takes.
* `Memory.Ref.IsThere.replay` says that a handle that was issued once goes on referring to what is
  there.
* `Memory.Coherent.error_cases` says how an operation can fail in such a directory.
* `references_never_dangle` is the main result.
-/

namespace PasswordChange

/-- The failure is one of the arguments of a credential operation. -/
inductive Failure.IsMisuse : Failure → Prop where
  | itemCount (count : Nat) : IsMisuse (.itemCount count)
  | notASecret : IsMisuse .notASecret
  | notAKey : IsMisuse .notAKey
  | undecodable : IsMisuse .undecodable

namespace Directory

/-- The item is a secret that can be read. -/
def Item.IsReadable (v : Vault) : Item → Prop
  | .secret id => ∃ text, v.reveal id = .ok text
  | .absent | .text _ => False

namespace Memory

/-! ## The invariant -/

/-- The kind of the handles that refer to something so. -/
def Ref.kind : Ref → Handle.Kind
  | session _ => .session
  | node _ => .node
  | record .. => .record

/-- What is referred to is there: each of the nodes, or the node of the record and in it the
user. -/
def Ref.IsThere (d : Memory) : Ref → Prop
  | session _ => True
  | node names => ∀ name ∈ names, d.nodes.has name = true
  | record home user => d.nodes.has home = true ∧ (d.account? home user).isSome = true

/-- No node is searched twice, all that are searched are there, and every open handle refers to
something that is there, of its own kind. -/
structure Coherent (d : Memory) : Prop where
  distinct : d.searchOrder.Nodup
  grounded : d.Grounded
  handles {kind : Handle.Kind} {i : HandleId} {ref : Ref} : d.Holds kind i ref →
    ref.kind = kind ∧ ref.IsThere d

variable {d : Memory} {i j : HandleId} {kind : Handle.Kind} {ref : Ref}

/-- **What is there stays there.** -/
theorem Ref.IsThere.replay (there : ref.IsThere d) (operations : List Operation) :
    ref.IsThere (replay operations d) := by
  cases ref with
  | session => trivial
  | node names => exact fun name member => has_replay (there name member) operations
  | record home user =>
      exact ⟨has_replay there.1 operations, present_replay operations there.2⟩

/-! ## What is issued -/

/-- The handle refers to something that is there, of its own kind. -/
def Refers (d : Memory) (h : Handle Ref) : Prop :=
  ∀ ref, h.ref = some ref → ref.kind = h.kind ∧ ref.IsThere d

theorem refers_of_ref {h : Handle Ref} (isOpen : h.ref = some ref) (same : ref.kind = h.kind)
    (there : ref.IsThere d) : d.Refers h := by
  intro ref' isOpen'
  rw [isOpen] at isOpen'
  cases isOpen'
  exact ⟨same, there⟩

theorem refers_of_decideSession {options : List (String × Value)} {h : Handle Ref}
    (decided : d.decideSession options = .ok h) : d.Refers h := by
  obtain ⟨same, isOpen⟩ := decideSession_eq_ok decided
  exact refers_of_ref isOpen same.symm trivial

theorem refers_of_decideNodeByName {session : HandleId} {name : String} {h : Handle Ref}
    (decided : d.decideNodeByName session name = .ok h) : d.Refers h := by
  obtain ⟨restricted, _, visible, rfl⟩ := decideNodeByName_eq_ok decided
  exact refers_of_ref rfl rfl (List.forall_mem_singleton.2 (has_of_visible visible))

theorem refers_of_decideNodeByType {session : HandleId} {nodeType : String} {h : Handle Ref}
    (decided : d.decideNodeByType session nodeType = .ok h) : d.Refers h := by
  obtain ⟨restricted, _, rfl⟩ := decideNodeByType_eq_ok decided
  have there : ∀ name ∈ d.searchOrder.filter (d.visibleNodes restricted).contains,
      d.nodes.has name = true :=
    fun name member => has_of_visible (List.mem_filter.1 member).2
  exact refers_of_ref rfl rfl there

theorem refers_of_decideRecord {node : HandleId} {recordType user : String} {h : Handle Ref}
    (decided : d.decideRecord node recordType user = .ok (some h)) : d.Refers h := by
  obtain ⟨names, home, _, ended, rfl⟩ := decideRecord_eq_ok decided
  have present : (d.account? home user).isSome = true := isSome_of_findUser ended
  exact refers_of_ref rfl rfl ⟨has_of_account? present, present⟩

/-- An open handle was open before another one was issued, or it is that one. -/
theorem Holds.of_issue {h : Handle Ref} (holds : (d.issue h).2.Holds kind i ref)
    (refers : d.Refers h) : d.Holds kind i ref ∨ ref.kind = kind ∧ ref.IsThere d := by
  obtain ⟨h', there, rfl, isOpen⟩ := holds
  have entry := (Registry.get?_issue h d.handles i).symm.trans there
  split at entry
  · cases entry
    exact Or.inr (refers ref isOpen)
  · exact Or.inl ⟨h', entry, rfl, isOpen⟩

theorem Holds.of_conclude {call : Call} {decision : Except Failure (Handle Ref)}
    (holds : (d.conclude call decision).state.Holds kind i ref)
    (refers : ∀ h, decision = .ok h → d.Refers h) :
    d.Holds kind i ref ∨ ref.kind = kind ∧ ref.IsThere d := by
  cases decision with
  | error e => exact Or.inl holds
  | ok h => exact holds.of_issue (refers h rfl)

/-- **A handle that an operation returns is open.** -/
theorem holds_of_returned {operation : Operation}
    (returned : (operation.carryOut d).outcome = .ok (some i)) :
    ∃ ref, (operation.carryOut d).state.Holds operation.lends i ref := by
  cases operation with
  | addNode | addUser | configure | undergo => cases returned
  | createSession options => exact ⟨_, holds_of_createSession returned⟩
  | openNodeByName session name =>
      exact ⟨_, holds_of_openNodeByName (outcome_of_returned returned)⟩
  | openNodeByType session nodeType =>
      obtain ⟨names, holds, _⟩ := holds_of_openNodeByType (outcome_of_returned returned)
      exact ⟨_, holds⟩
  | copyRecord node recordType name =>
      change (d.copyRecord node recordType name).outcome = .ok (some i) at returned
      change ∃ ref, (d.copyRecord node recordType name).state.Holds .record i ref
      unfold Memory.copyRecord at returned ⊢
      rcases decided : d.decideRecord node recordType name with e | _ | h <;>
        simp only [decided] at returned ⊢ <;> cases returned
      obtain ⟨names, home, _, _, rfl⟩ := decideRecord_eq_ok decided
      exact ⟨_, holds_issue rfl d⟩
  | copyValues | setCredentials | changePassword | close =>
      have nothing := (join_map_none _).symm.trans (congrArg (Except.toOption · |>.join) returned)
      cases nothing

/-- A handle that is open after another one was closed was open before. -/
theorem Holds.of_close (holds : (d.close j).state.Holds kind i ref) : d.Holds kind i ref := by
  obtain ⟨h, there, ofKind, isOpen⟩ := holds
  by_cases other : j ≠ i
  · exact ⟨h, (get?_close_of_other other d).symm.trans there, ofKind, isOpen⟩
  · obtain rfl : j = i := Decidable.not_not.1 other
    rcases issued : d.handles.get? j with _ | h'
    · -- Closing a handle that was never issued issues none.
      have nothing : d.close j = .ok () d [] := close_of_not_isOpen fun h found => by
        rw [issued] at found
        cases found
      rw [nothing] at there
      exact ⟨h, there, ofKind, isOpen⟩
    · rw [get?_close_self issued] at there
      cases there
      cases isOpen

/-- **A handle that is open after an operation was open before, or the operation has issued it for
something that is there.** -/
theorem Holds.of_carryOut {operation : Operation}
    (holds : (operation.carryOut d).state.Holds kind i ref) :
    d.Holds kind i ref ∨ ref.kind = kind ∧ ref.IsThere d := by
  have aside (same : (operation.carryOut d).state.handles = d.handles) : d.Holds kind i ref :=
    holds.of_handles_eq same.symm
  cases operation with
  | addNode | addUser | configure => exact Or.inl holds
  | undergo deed => exact Or.inl (aside (undergo_handles deed d).1)
  | createSession options => exact holds.of_conclude fun h => refers_of_decideSession
  | openNodeByName session name => exact holds.of_conclude fun h => refers_of_decideNodeByName
  | openNodeByType session nodeType => exact holds.of_conclude fun h => refers_of_decideNodeByType
  | copyRecord node recordType name =>
      change (d.copyRecord node recordType name).state.Holds kind i ref at holds
      unfold Memory.copyRecord at holds
      rcases decided : d.decideRecord node recordType name with e | _ | h <;>
        simp only [decided] at holds
      · exact Or.inl holds
      · exact Or.inl holds
      · exact holds.of_issue (refers_of_decideRecord decided)
  | copyValues record attributeName =>
      exact Or.inl (aside (congrArg Memory.handles (copyValues_state record attributeName d)))
  | setCredentials v record recordType authType items =>
      exact Or.inl
        (aside (credited_setCredentials v record recordType authType items d).handles.1)
  | changePassword v record old new =>
      exact Or.inl (aside (credited_changePassword v record old new d).handles.1)
  | close handle => exact Or.inl holds.of_close

/-! ## Every operation keeps the invariant -/

/-- **The step of the invariant.** -/
theorem Coherent.carryOut (coherent : d.Coherent) (operation : Operation) :
    (operation.carryOut d).state.Coherent where
  distinct := by
    rw [searchOrder_carryOut]
    exact nodup_append_removeAll coherent.distinct operation.joins?
  grounded := coherent.grounded.replay [operation]
  handles holds := by
    -- It was there before the operation, which takes nothing away.
    have known := holds.of_carryOut.elim coherent.handles id
    exact ⟨known.1, known.2.replay [operation]⟩

theorem coherent_fresh (daemonRunning : Bool) (localRoot : String) :
    Coherent { daemonRunning, localRoot } where
  distinct := List.nodup_nil
  grounded _ member := (List.not_mem_nil member).elim
  handles := by
    intro kind i ref ⟨h, there, _⟩
    simp [Registry.get?] at there

theorem Coherent.replay (coherent : d.Coherent) (operations : List Operation) :
    (replay operations d).Coherent := by
  induction operations generalizing d with
  | nil => exact coherent
  | cons operation rest ih => exact ih (coherent.carryOut operation)

/-! ## What is asked, and of what -/

/-- The handle is open and of this kind. -/
def IsOpen (d : Memory) (kind : Handle.Kind) (i : HandleId) : Prop :=
  ∃ ref, d.Holds kind i ref

/-- If the operation is asked of a handle, it is an open one of the kind that it needs. -/
def Operation.Addressed (d : Memory) : Operation → Prop
  | openNodeByName session _ | openNodeByType session _ => d.IsOpen .session session
  | copyRecord node _ _ => d.IsOpen .node node
  | copyValues record _ | setCredentials _ record _ _ _ | changePassword _ record _ _ =>
    d.IsOpen .record record
  | _ => True

/-- A credential operation is given what it needs: the new password as a secret that can be read,
and the other password so or not at all. If it takes items, there are four of them, and the name of
the authenticator is a text or is absent: a secret is no name. -/
def Operation.WellShaped : Operation → Prop
  | setCredentials v _ _ _ items => ∃ username new authname old,
    items = [username, new, authname, old] ∧ new.IsReadable v ∧
      (old = .absent ∨ old.IsReadable v) ∧ ∀ id, authname ≠ .secret id
  | changePassword v _ old new => (old = .absent ∨ old.IsReadable v) ∧ new.IsReadable v
  | _ => True

/-! ## How an operation can fail -/

section Secrets

variable {v : Vault} {item : Item} {e : Failure}

theorem misuse_of_revealed (failed : revealed v item = .error e) :
    e.IsMisuse ∧ ¬ item.IsReadable v := by
  cases item with
  | absent | text =>
      cases failed
      exact ⟨.notASecret, id⟩
  | secret id =>
      have unreadable : ¬ ∃ text, v.reveal id = .ok text := by
        intro ⟨text, read⟩
        have contra : v.reveal id = .error e := failed
        rw [read] at contra
        cases contra
      refine ⟨?_, unreadable⟩
      unfold revealed Vault.reveal at failed
      dsimp only at failed
      split at failed <;> cases failed
      exact .undecodable

theorem misuse_of_revealed? (failed : revealed? v item = .error e) :
    e.IsMisuse ∧ ¬ (item = .absent ∨ item.IsReadable v) := by
  have given : item ≠ .absent := by
    intro absent
    rw [absent] at failed
    cases failed
  have failed : revealed v item = .error e := by
    cases item with
    | absent => exact absurd rfl given
    | text s =>
        cases failed
        rfl
    | secret id =>
        unfold revealed? at failed
        rcases read : revealed v (.secret id) with e' | text <;> simp only [read] at failed <;>
          cases failed
        rfl
  obtain ⟨misuse, unreadable⟩ := misuse_of_revealed failed
  exact ⟨misuse, fun shaped => shaped.elim given unreadable⟩

end Secrets

theorem Coherent.session (coherent : d.Coherent) (isOpen : d.IsOpen .session i) :
    ∃ path, d.Holds .session i (.session path) := by
  obtain ⟨ref, holds⟩ := isOpen
  obtain ⟨same, _⟩ := coherent.handles holds
  cases ref with
  | session path => exact ⟨path, holds⟩
  | node | record => cases same

theorem Coherent.node (coherent : d.Coherent) (isOpen : d.IsOpen .node i) :
    ∃ names, d.Holds .node i (.node names) ∧ ∀ name ∈ names, d.nodes.has name = true := by
  obtain ⟨ref, holds⟩ := isOpen
  obtain ⟨same, there⟩ := coherent.handles holds
  cases ref with
  | node names => exact ⟨names, holds, there⟩
  | session | record => cases same

theorem Coherent.record (coherent : d.Coherent) (isOpen : d.IsOpen .record i) :
    ∃ home user, d.Holds .record i (.record home user) ∧ d.nodes.has home = true ∧
      (d.account? home user).isSome = true := by
  obtain ⟨ref, holds⟩ := isOpen
  obtain ⟨same, there⟩ := coherent.handles holds
  cases ref with
  | record home user => exact ⟨home, user, holds, there⟩
  | session | node => cases same

section Decisions

variable {home user : String} {e : Failure}

theorem accountOf_isOk (present : (d.account? home user).isSome = true) :
    ∃ account, d.accountOf home user = .ok account := by
  obtain ⟨account, there⟩ := Option.isSome_iff_exists.1 present
  exact ⟨account, accountOf_eq_ok_iff.2 there⟩

/-- Credentials for a record that is there are refused by an error of the directory, or because a
secret cannot be looked up. -/
theorem decideCredentials_error_cases (grounded : d.Grounded)
    (holds : d.Holds .record i (.record home user))
    (present : (d.account? home user).isSome = true) {authType : String} {username authname : Item}
    {oldPassword : Option String}
    (refused : d.decideCredentials i authType username authname oldPassword = .error e) :
    e.IsReported ∨ e = .notAKey ∧ ∃ id, authname = .secret id := by
  unfold decideCredentials at refused
  split at refused
  · cases refused
    exact Or.inl ⟨_, rfl⟩
  split at refused
  · cases refused
    exact Or.inl ⟨_, rfl⟩
  rw [holds.recordOf_eq] at refused
  have known : d.nodes.has home = true := has_of_account? present
  cases authname with
  | secret id =>
      change (d.lookThrough [home] >>= fun _ => .error .notAKey) = .error e at refused
      rw [lookThrough_eq (List.forall_mem_singleton.2 known)] at refused
      cases refused
      exact Or.inr ⟨rfl, id, rfl⟩
  | absent =>
      change (d.lookThrough (home :: d.searchOrder) >>= fun _ => .error invalidCredentials) =
        .error e at refused
      rw [lookThrough_eq (List.forall_mem_cons.2 ⟨known, grounded⟩)] at refused
      cases refused
      exact Or.inl ⟨_, rfl⟩
  | text authname =>
      apply Or.inl
      change (d.decideAuthenticator home authname username oldPassword >>= fun _ =>
        d.accountOf home user >>= fun _ => .ok (home, user)) = .error e at refused
      rcases Failure.bind_eq_error_iff.1 refused with distrusted | ⟨_, _, missed⟩
      · exact decideAuthenticator_isReported grounded known distrusted
      · obtain ⟨account, there⟩ := accountOf_isOk present
        rw [there] at missed
        cases missed

/-- A change of a record that is there is refused by an error of the directory. -/
theorem decideChange_isReported (present : (d.account? home user).isSome = true)
    {oldPassword : Option String} (refused : d.decideChange home user oldPassword = .error e) :
    e.IsReported := by
  unfold decideChange at refused
  split at refused
  · cases refused
    exact ⟨_, rfl⟩
  · obtain ⟨account, there⟩ := accountOf_isOk present
    rw [there] at refused
    cases oldPassword with
    | none => cases refused
    | some old =>
        simp only [bind, Except.bind] at refused
        split at refused <;> cases refused
        exact ⟨_, rfl⟩

/-- Setting the password of a record that is there fails with an error of the directory, or the
operation was not given what it needs. -/
theorem setCredentials_error_cases (grounded : d.Grounded)
    (holds : d.Holds .record i (.record home user))
    (present : (d.account? home user).isSome = true) {v : Vault} {recordType authType : String}
    {items : List Item}
    (failed : (setCredentials v i recordType authType items d).outcome = .error e) :
    e.IsReported ∨
      e.IsMisuse ∧ ¬ (Operation.setCredentials v i recordType authType items).WellShaped := by
  unfold setCredentials at failed
  split at failed
  case h_2 otherwise =>
    cases failed
    refine Or.inr ⟨.itemCount _, ?_⟩
    intro ⟨username, new, authname, old, four, _⟩
    exact otherwise username new authname old four
  case h_1 username new authname old =>
    split at failed
    next unread =>
      cases failed
      obtain ⟨misuse, unreadable⟩ := misuse_of_revealed unread
      refine Or.inr ⟨misuse, ?_⟩
      intro ⟨_, _, _, _, four, readable, _⟩
      cases four
      exact unreadable readable
    next newPassword _ =>
      split at failed
      next unread =>
        cases failed
        obtain ⟨misuse, unreadable⟩ := misuse_of_revealed? unread
        refine Or.inr ⟨misuse, ?_⟩
        intro ⟨_, _, _, _, four, _, readable, _⟩
        cases four
        exact unreadable readable
      next oldPassword _ =>
        dsimp only at failed
        split at failed <;> cases failed
        next refused =>
          rcases decideCredentials_error_cases grounded holds present refused with
            reported | ⟨rfl, id, rfl⟩
          · exact Or.inl reported
          · refine Or.inr ⟨.notAKey, ?_⟩
            intro ⟨_, _, _, _, four, _, _, named⟩
            cases four
            exact named id rfl

/-- Changing the password of a record that is there fails with an error of the directory, or the
operation was not given what it needs. -/
theorem changePassword_error_cases (holds : d.Holds .record i (.record home user))
    (present : (d.account? home user).isSome = true) {v : Vault} {old new : Item}
    (failed : (changePassword v i old new d).outcome = .error e) :
    e.IsReported ∨ e.IsMisuse ∧ ¬ (Operation.changePassword v i old new).WellShaped := by
  unfold changePassword at failed
  split at failed
  next unread =>
    cases failed
    obtain ⟨misuse, unreadable⟩ := misuse_of_revealed? unread
    exact Or.inr ⟨misuse, fun shaped => unreadable shaped.1⟩
  next oldPassword _ =>
    split at failed
    next unread =>
      cases failed
      obtain ⟨misuse, unreadable⟩ := misuse_of_revealed unread
      exact Or.inr ⟨misuse, fun shaped => unreadable shaped.2⟩
    next newPassword _ =>
      have named := recordOf_of_key holds.recordOf_eq "username"
      simp only [named] at failed
      split at failed <;> cases failed
      next refused => exact Or.inl (decideChange_isReported present refused)

end Decisions

/-- **How an operation on open handles of the right kinds can fail.** -/
theorem Coherent.error_cases (coherent : d.Coherent) {operation : Operation}
    (addressed : operation.Addressed d) {e : Failure}
    (failed : (operation.carryOut d).outcome = .error e) :
    e.IsReported ∨ e.IsMisuse ∧ ¬ operation.WellShaped := by
  cases operation with
  | addNode | addUser | configure | undergo => cases failed
  | createSession options =>
      exact Or.inl (createSession_isReported (Step.error_of_map failed))
  | openNodeByName session name =>
      obtain ⟨path, holds⟩ := coherent.session addressed
      have refused := error_of_conclude (Step.error_of_map failed)
      exact Or.inl (decideNodeByName_isReported holds refused)
  | openNodeByType session nodeType =>
      obtain ⟨path, holds⟩ := coherent.session addressed
      have refused := error_of_conclude (Step.error_of_map failed)
      exact Or.inl (decideNodeByType_isReported holds refused)
  | copyRecord node recordType name =>
      obtain ⟨names, holds, known⟩ := coherent.node addressed
      change (d.copyRecord node recordType name).outcome = .error e at failed
      unfold Memory.copyRecord at failed
      rcases decided : d.decideRecord node recordType name with e' | _ | h <;>
        simp only [decided] at failed <;> cases failed
      exact Or.inl (decideRecord_isReported holds known decided)
  | copyValues record attributeName =>
      obtain ⟨home, user, holds, _⟩ := coherent.record addressed
      have failed := Step.error_of_map failed
      unfold Memory.copyValues at failed
      rw [holds.recordOf_eq] at failed
      split at failed <;> cases failed
  | setCredentials v record recordType authType items =>
      obtain ⟨home, user, holds, _, present⟩ := coherent.record addressed
      exact setCredentials_error_cases coherent.grounded holds present (Step.error_of_map failed)
  | changePassword v record old new =>
      obtain ⟨home, user, holds, _, present⟩ := coherent.record addressed
      exact changePassword_error_cases holds present (Step.error_of_map failed)
  | close handle =>
      have ended := (close_eq handle d).1
      rw [Step.error_of_map failed] at ended
      cases ended

/-- Operations on open handles of the right kinds miss no entry; and if they are given what they
need, they succeed or are refused with an error of the directory. -/
structure Responsive (d : Memory) : Prop where
  finds {operation : Operation} (key : String) : operation.Addressed d →
    (operation.carryOut d).outcome ≠ .error (.missingEntry key)
  answers {operation : Operation} : operation.Addressed d → operation.WellShaped →
    (∃ value, (operation.carryOut d).outcome = .ok value) ∨
      ∃ error, (operation.carryOut d).outcome = .error (.directory error)

theorem Coherent.responsive (coherent : d.Coherent) : d.Responsive where
  finds key addressed missed := by
    rcases coherent.error_cases addressed missed with ⟨_, same⟩ | ⟨misuse, _⟩
    · cases same
    · cases misuse
  answers {operation} addressed shaped := by
    rcases ended : (operation.carryOut d).outcome with e | value
    · apply Or.inr
      rcases coherent.error_cases addressed ended with ⟨error, rfl⟩ | ⟨_, misshaped⟩
      · exact ⟨error, rfl⟩
      · exact absurd shaped misshaped
    · exact Or.inl ⟨value, rfl⟩

end Memory

end Directory

open Directory (Memory)
open Directory.Memory (Operation replay coherent_fresh holds_of_returned)

/-- **What names refer to**: whatever operations are carried out on a new directory and whatever
calls of the library are made on it, in any order, all that happens to the directory is a sequence
of operations; and after every sequence of operations, so at every moment, what the search order and
the open handles refer to is there, and stays there, and no operation on open handles of the right
kinds misses an entry. -/
theorem references_never_dangle (daemonRunning : Bool) (localRoot : String) (host : Host.Scripted)
    (vault : Vault) (activities : List Activity) :
    let fresh : Memory := { daemonRunning, localRoot }
    let w : World Memory Host.Scripted := { directory := fresh, host, vault }
    let w' := activities.foldl Activity.pursue w
    (∃ operations, Unfolds w activities operations w' ∧
      w'.directory = replay operations fresh) ∧
    ∀ operations,
      let d := replay operations fresh
      d.Coherent ∧ d.Responsive ∧
      (∀ (operation : Operation) (i : HandleId), (operation.carryOut d).outcome = .ok (some i) →
        ∃ ref, (operation.carryOut d).state.Holds operation.lends i ref) ∧
      ∀ kind i ref, d.Holds kind i ref → ∀ later, ref.IsThere (replay later d) := by
  intro fresh w w'
  constructor
  · obtain ⟨operations, unfolds⟩ := unfolds_pursue activities w
    exact ⟨operations, unfolds, unfolds.retraces.directory⟩
  · intro operations d
    have coherent : d.Coherent := (coherent_fresh daemonRunning localRoot).replay operations
    refine ⟨coherent, coherent.responsive, fun _ _ => holds_of_returned, ?_⟩
    intro kind i ref holds later
    exact (coherent.handles holds).2.replay later

/-! ## An authenticator who is nowhere -/

/-- A user is added to a node and looked up. -/
def aliceLookedUp : List Operation :=
  [.addUser "/Local/Default" "alice" "a" false, .createSession [],
    .openNodeByType ⟨0⟩ Directory.authenticationNode, .copyRecord ⟨1⟩ Directory.userRecords "alice"]

/-- The node is closed, and one is added that is not searched. -/
def nodesMoved : List Operation :=
  [.close ⟨1⟩, .addNode "/Hidden" false]

/-- Somebody who is in no node sets a new password for the user. -/
def evesAttempt : Operation :=
  .setCredentials (({} : Vault).issue "new").2 ⟨2⟩ Directory.userRecords Directory.setPassword
    [.text "alice", .secret (({} : Vault).issue "new").1, .text "eve", .absent]

/-- The handle on the record refers to the user in spite of all, and the attempt is refused with an
error of the directory. -/
theorem evesAttempt_refused :
    let d := replay nodesMoved (replay aliceLookedUp {})
    (d.account? "/Local/Default" "alice").isSome = true ∧
    evesAttempt.Addressed d ∧ evesAttempt.WellShaped ∧
    ∃ error, (evesAttempt.carryOut d).outcome = .error (.directory error) := by
  intro d
  obtain ⟨_, always⟩ := references_never_dangle true "/Local/" {} {} []
  obtain ⟨_, _, _, stays⟩ := always aliceLookedUp
  obtain ⟨_, responsive, _⟩ := always (aliceLookedUp ++ nodesMoved)
  have there := stays .record ⟨2⟩ (.record "/Local/Default" "alice") ⟨_, rfl, rfl, rfl⟩ nodesMoved
  have addressed : evesAttempt.Addressed d := ⟨.record "/Local/Default" "alice", _, rfl, rfl, rfl⟩
  have readable := Vault.reveal_eq_ok_iff.2 (Vault.contents_issue "new" {})
  have shaped : evesAttempt.WellShaped := ⟨_, _, _, _, rfl, ⟨_, readable⟩, Or.inl rfl, nofun⟩
  refine ⟨there.2, addressed, shaped, (responsive.answers addressed shaped).resolve_left ?_⟩
  intro ⟨value, accepted⟩
  cases accepted

end PasswordChange
