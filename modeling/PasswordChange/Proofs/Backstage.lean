import PasswordChange.Directory.Memory
import PasswordChange.Directory.Native
import PasswordChange.Host.Posix
import PasswordChange.Host.Scripted
import PasswordChange.Proofs.Frame

/-!
# What directories and hosts do backstage

No directory and no host ever prompts, reads an answer or shows a line, and looking up a record
is never a credential call. `Event.isBackstage` are the events that remain; the laws of the four
implementations say that they make no others.

A directory in memory keeps more while a record is looked up: `Memory.Undisturbed`.
-/

namespace PasswordChange

/-- The event is neither seen on the terminal nor a credential call. -/
def Event.isBackstage : Event → Bool
  | .prompted _ | .issued _ | .said _ | .warned _ => false
  | .called call _ => !call.isCredential
  | .native call _ => !call.isCredential
  | .logged _ | .released _ | .queried _ | .launched .. | .probed _ => true

/-- The event is neither a prompt nor a secret that was typed at one. -/
def Event.isSilent : Event → Bool
  | .prompted _ | .issued _ => false
  | _ => true

theorem Event.isSilent_of_isBackstage {event : Event} (backstage : event.isBackstage = true) :
    event.isSilent = true := by
  cases event <;> first | rfl | cases backstage

/-- Silent events show neither prompts nor secrets. -/
theorem Journal.prompts_of_isSilent {j : Journal} (silent : ∀ event ∈ j, event.isSilent = true) :
    j.prompts = [] ∧ j.issued = [] := by
  unfold prompts issued
  rw [List.filterMap_eq_nil_iff, List.filterMap_eq_nil_iff]
  constructor <;>
  · intro event member
    have := silent event member
    cases event <;> first | rfl | cases this

/-- The credential operations of a directory are silent. -/
structure Directory.Discreet (D : Type) [Directory D] : Prop where
  setCredentials (v : Vault) (record : HandleId) (recordType authType : String)
    (items : List Directory.Item) (d : D) : ∀ event ∈
      (Directory.setCredentials v record recordType authType items d).events,
      event.isSilent = true
  changePassword (v : Vault) (record : HandleId) (old new : Directory.Item) (d : D) :
    ∀ event ∈ (Directory.changePassword v record old new d).events, event.isSilent = true

/-! ## Hosts -/

/-- The events of a scripted host are questions and programs that were run. -/
theorem Host.Scripted.emits_of {P : Event → Prop} (queried : ∀ question, P (.queried question))
    (launched : ∀ path args, P (.launched path args)) : Host.Emits (H := Host.Scripted) P where
  isSingleUser _ := List.forall_mem_singleton.2 (queried _)
  isPrivileged _ := List.forall_mem_singleton.2 (queried _)
  run path args h := by
    change ∀ event ∈ (Host.Scripted.run path args h).events, P event
    unfold Host.Scripted.run
    split <;> exact List.forall_mem_singleton.2 (launched path args)

theorem Host.Scripted.emits : Host.Emits (H := Host.Scripted) (·.isBackstage = true) :=
  emits_of (fun _ => rfl) fun _ _ => rfl

theorem Host.Posix.emits : Host.Emits (H := Host.Posix) (·.isBackstage = true) where
  isSingleUser h := by
    have loading : ∀ event ∈ h.load.2.2, Event.isBackstage event = true := by
      unfold Host.Posix.load
      split <;> simp [Event.isBackstage]
    show ∀ event ∈ (Host.Posix.isSingleUser h).events, _
    unfold Host.Posix.isSingleUser
    generalize h.load = loaded at loading ⊢
    obtain ⟨library, h', events⟩ := loaded
    -- Whatever the library says, an event is one of the loading or a detail for the log.
    have kinds (more : List Event) (backstage : ∀ event ∈ more, event.isBackstage = true) :
        ∀ event ∈ events ++ more, event.isBackstage = true := by
      intro event member
      exact (List.mem_append.1 member).elim (loading event) (backstage event)
    rcases library with _ | _ | ⟨value, result, errno⟩
    · exact kinds [_] (by simp [Event.isBackstage, Host.Posix.debug])
    · exact kinds [_] (by simp [Event.isBackstage, Host.Posix.debug])
    · dsimp only
      split
      · exact loading
      · split
        · rw [Step.ok, List.append_assoc]
          exact kinds [_, _] (by simp [Event.isBackstage, Host.Posix.debug])
        · exact kinds [_] (by simp [Event.isBackstage])
  isPrivileged h := by simp [Host.isPrivileged, Step.ok]
  run path args h := by
    show ∀ event ∈ (Host.Posix.run path args h).events, _
    unfold Host.Posix.run
    split <;> simp [Step.ok, Step.fail, Event.isBackstage, Host.Posix.debug]

end PasswordChange

namespace PasswordChange.Directory

/-! ## Directories in memory -/

namespace Memory

/-- The nodes, the accounts, the search order and the fault of credential calls are the same. -/
structure Undisturbed (d d' : Memory) : Prop where
  nodes : d'.nodes = d.nodes
  searchOrder : d'.searchOrder = d.searchOrder
  commitFault : d'.faults.commit = d.faults.commit

theorem Undisturbed.refl (d : Memory) : Undisturbed d d :=
  ⟨rfl, rfl, rfl⟩

theorem Undisturbed.trans {d₁ d₂ d₃ : Memory} (first : Undisturbed d₁ d₂)
    (second : Undisturbed d₂ d₃) : Undisturbed d₁ d₃ :=
  ⟨second.nodes.trans first.nodes, second.searchOrder.trans first.searchOrder,
    second.commitFault.trans first.commitFault⟩

theorem Undisturbed.account?_eq {d d' : Memory} (same : Undisturbed d d') (node user : String) :
    d'.account? node user = d.account? node user := by
  unfold account? accounts
  rw [same.nodes]

theorem undisturbed_issue (h : Handle Ref) (d : Memory) : Undisturbed d (d.issue h).2 :=
  ⟨rfl, rfl, rfl⟩

section Lookups

variable {P : Event → Prop}
  (lookups : ∀ call accepted, call.isCredential = false → P (.called call accepted))

include lookups

/-- The conclusion of an operation that opens something. -/
theorem conclude_within (call : Call) (lookup : call.isCredential = false)
    (decision : Except Failure (Handle Ref)) (d : Memory) :
    (d.conclude call decision).Within Undisturbed P d := by
  unfold conclude
  split
  case h_1 => exact ⟨.refl d, List.forall_mem_singleton.2 (lookups call false lookup)⟩
  case h_2 h =>
    exact ⟨undisturbed_issue h d, List.forall_mem_singleton.2 (lookups call true lookup)⟩

theorem copyRecord_within (node : HandleId) (recordType name : String) (d : Memory) :
    (d.copyRecord node recordType name).Within Undisturbed P d := by
  have called (accepted : Bool) : P (.called (.copyRecord recordType name) accepted) :=
    lookups _ accepted rfl
  unfold copyRecord
  split
  case h_1 => exact ⟨.refl d, List.forall_mem_singleton.2 (called false)⟩
  case h_2 => exact ⟨.refl d, List.forall_mem_singleton.2 (called true)⟩
  case h_3 h _ => exact ⟨undisturbed_issue h d, List.forall_mem_singleton.2 (called true)⟩

omit lookups in
theorem copyValues_within (record : HandleId) (attributeName : String) (d : Memory) :
    (d.copyValues record attributeName).Within Undisturbed P d := by
  unfold copyValues
  split
  · exact ⟨.refl d, fun _ => nofun⟩
  · split <;> exact ⟨.refl d, fun _ => nofun⟩

end Lookups

/-- Closing a handle makes no events but releases. -/
theorem released_of_close (i : HandleId) (d : Memory) :
    ∀ event ∈ (d.close i).events, ∃ kind, event = .released kind := by
  unfold close Registry.close Handle.close
  rcases d.handles.get? i with _ | ⟨kind, name, _ | ref⟩ <;> simp [release]

/-- Closing a handle succeeds and disturbs nothing. -/
theorem close_eq (i : HandleId) (d : Memory) :
    (d.close i).outcome = .ok () ∧ Undisturbed d (d.close i).state := by
  unfold close Registry.close Handle.close
  rcases d.handles.get? i with _ | ⟨kind, name, _ | ref⟩ <;> exact ⟨rfl, rfl, rfl, rfl⟩

/-- Looking up a record makes no events but calls that are no credential calls, and releases. -/
theorem lookupFrame_of {P : Event → Prop}
    (lookups : ∀ call accepted, call.isCredential = false → P (.called call accepted))
    (released : ∀ kind, P (.released kind)) : LookupFrame (D := Memory) Undisturbed P where
  refl := .refl
  trans := .trans
  createSession _ _ := conclude_within lookups _ rfl _ _
  openNodeByName _ _ _ := conclude_within lookups _ rfl _ _
  openNodeByType _ _ _ := conclude_within lookups _ rfl _ _
  copyRecord := copyRecord_within lookups
  copyValues := copyValues_within
  close i d := by
    refine ⟨(close_eq i d).2, fun event member => ?_⟩
    obtain ⟨kind, rfl⟩ := released_of_close i d event member
    exact released kind
  close_ok i d := (close_eq i d).1
  undergo deed d := by cases deed <;> exact ⟨rfl, rfl, rfl⟩

theorem lookupFrame : LookupFrame (D := Memory) Undisturbed (·.isBackstage = true) :=
  lookupFrame_of (fun call _ lookup => by simp [Event.isBackstage, lookup]) fun _ => rfl

/-- A credential operation left the directory as it was or replaced a password, and made no events
but credential calls. -/
structure Credited (d : Memory) (step : Step Memory Unit) : Prop where
  state : step.state = d ∨
    ∃ node user password, step.state = d.setAccountPassword node user password
  events : ∀ event ∈ step.events, ∃ call accepted,
    event = .called call accepted ∧ call.isCredential = true

theorem credited_setCredentials (v : Vault) (record : HandleId) (recordType authType : String)
    (items : List Item) (d : Memory) :
    d.Credited (setCredentials v record recordType authType items d) := by
  unfold setCredentials
  repeat' split
  all_goals
    refine ⟨?_, ?_⟩
    · first | exact Or.inl rfl | exact Or.inr ⟨_, _, _, rfl⟩
    · simp [Step.ok, Step.fail, Call.isCredential]

theorem credited_changePassword (v : Vault) (record : HandleId) (old new : Item) (d : Memory) :
    d.Credited (changePassword v record old new d) := by
  unfold changePassword
  repeat' split
  all_goals
    refine ⟨?_, ?_⟩
    · first | exact Or.inl rfl | exact Or.inr ⟨_, _, _, rfl⟩
    · simp [Step.ok, Step.fail, Call.isCredential]

theorem Credited.silent {d : Memory} {step : Step Memory Unit} (credited : d.Credited step) :
    ∀ event ∈ step.events, event.isSilent = true := by
  intro event member
  obtain ⟨call, accepted, rfl, _⟩ := credited.events event member
  rfl

theorem discreet : Discreet Memory where
  setCredentials v record recordType authType items d :=
    (credited_setCredentials v record recordType authType items d).silent
  changePassword v record old new d := (credited_changePassword v record old new d).silent

end Memory

/-! ## Directories over a native framework -/

namespace Native

/-- The call that an operation decides on, if any, is no credential call. -/
def IsLookup (decision : Except Failure Framework.Call) : Prop :=
  ∀ call, decision = .ok call → call.isCredential = false

theorem isLookup_session (options : List (String × Value)) (d : Native) :
    IsLookup (d.decideSession options) := by
  intro call decided
  obtain ⟨f, _, chosen⟩ := Failure.bind_eq_ok_iff.1 decided
  split at chosen
  · cases chosen
    rfl
  · obtain ⟨constant, _, chosen⟩ := Failure.bind_eq_ok_iff.1 chosen
    cases chosen
    rfl

theorem isLookup_nodeByName (session : HandleId) (name : String) (d : Native) :
    IsLookup (d.decideNodeByName session name) := by
  intro call decided
  obtain ⟨f, _, chosen⟩ := Failure.bind_eq_ok_iff.1 decided
  obtain ⟨o, _, chosen⟩ := Failure.bind_eq_ok_iff.1 chosen
  cases chosen
  rfl

theorem isLookup_nodeByType (session : HandleId) (nodeType : String) (d : Native) :
    IsLookup (d.decideNodeByType session nodeType) := by
  intro call decided
  obtain ⟨f, _, chosen⟩ := Failure.bind_eq_ok_iff.1 decided
  split at chosen
  · cases chosen
  · obtain ⟨o, _, chosen⟩ := Failure.bind_eq_ok_iff.1 chosen
    obtain ⟨constant, _, chosen⟩ := Failure.bind_eq_ok_iff.1 chosen
    cases chosen
    rfl

theorem isLookup_record (node : HandleId) (type name : String) (d : Native) :
    IsLookup (d.decideRecord node type name) := by
  intro call decided
  obtain ⟨nativeType, _, chosen⟩ := Failure.bind_eq_ok_iff.1 decided
  obtain ⟨o, _, chosen⟩ := Failure.bind_eq_ok_iff.1 chosen
  cases chosen
  rfl

theorem isLookup_values (record : HandleId) (attributeName : String) (d : Native) :
    IsLookup (d.decideValues record attributeName) := by
  intro call decided
  obtain ⟨f, _, chosen⟩ := Failure.bind_eq_ok_iff.1 decided
  split at chosen
  · cases chosen
  · obtain ⟨o, _, chosen⟩ := Failure.bind_eq_ok_iff.1 chosen
    obtain ⟨constant, _, chosen⟩ := Failure.bind_eq_ok_iff.1 chosen
    cases chosen
    rfl

theorem openObject_within (kind : Handle.Kind) (fallback : ErrorCode)
    (name : Framework.Response → Value) {decision : Except Failure Framework.Call} (d : Native)
    (lookup : IsLookup decision) :
    (d.openObject kind fallback name decision).Within (fun _ _ => True)
      (·.isBackstage = true) d := by
  refine ⟨trivial, ?_⟩
  unfold openObject
  split
  case h_1 => simp [Step.fail]
  case h_2 call =>
    have kind := lookup call rfl
    dsimp only
    split <;> simp [Step.ok, Step.fail, Event.isBackstage, kind]

theorem createSession_within (options : List (String × Value)) (d : Native) :
    (d.createSession options).Within (fun _ _ => True) (·.isBackstage = true) d := by
  refine ⟨trivial, ?_⟩
  have opened := (d.openObject_within .session .sessionFailed
    (fun _ => (localPath? options).getD (.text "default")) (isLookup_session options d)).2
  unfold createSession
  dsimp only
  split
  · exact opened
  · intro event member
    rcases List.mem_append.1 member with early | late
    · exact opened event early
    · cases List.mem_singleton.1 late
      rfl

theorem copyRecord_within (node : HandleId) (type name : String) (d : Native) :
    (d.copyRecord node type name).Within (fun _ _ => True) (·.isBackstage = true) d := by
  refine ⟨trivial, ?_⟩
  unfold copyRecord
  split
  case h_1 => simp [Step.fail]
  case h_2 call decided =>
    have kind := isLookup_record node type name d call decided
    dsimp only
    split
    · simp [Step.ok, Event.isBackstage, kind]
    · split <;> simp [Step.ok, Step.fail, Event.isBackstage, kind]

theorem copyValues_within (record : HandleId) (attributeName : String) (d : Native) :
    (d.copyValues record attributeName).Within (fun _ _ => True) (·.isBackstage = true) d := by
  refine ⟨trivial, ?_⟩
  unfold copyValues
  split
  case h_1 => simp [Step.fail]
  case h_2 call decided =>
    have kind := isLookup_values record attributeName d call decided
    dsimp only
    split <;> simp [Step.ok, Event.isBackstage, kind, debug]

/-- Closing a handle always succeeds, and the framework hears nothing of it. -/
theorem close_eq (i : HandleId) (d : Native) :
    (d.close i).outcome = .ok () ∧ (d.close i).events = [] := by
  refine ⟨?_, rfl⟩
  unfold close Registry.close Handle.close
  rcases d.handles.get? i with _ | ⟨kind, name, _ | ref⟩ <;> rfl

theorem lookupFrame : LookupFrame (D := Native) (fun _ _ => True) (·.isBackstage = true) where
  refl _ := trivial
  trans _ _ := trivial
  createSession := createSession_within
  openNodeByName session name d := openObject_within _ _ _ d (isLookup_nodeByName session name d)
  openNodeByType session nodeType d :=
    openObject_within _ _ _ d (isLookup_nodeByType session nodeType d)
  copyRecord := copyRecord_within
  copyValues := copyValues_within
  close i d := by
    refine ⟨trivial, ?_⟩
    rw [show Directory.close i d = d.close i from rfl, (close_eq i d).2]
    simp
  close_ok i d := (close_eq i d).1
  undergo _ _ := trivial

theorem submit_silent (decision : Except Failure Framework.Call) (d : Native) :
    ∀ event ∈ (d.submit decision).events, event.isSilent = true := by
  unfold submit
  split
  case h_1 => simp [Step.fail]
  case h_2 call =>
    dsimp only
    split <;> simp [Step.ok, Step.fail, Event.isSilent]

theorem discreet : Discreet Native where
  setCredentials _ _ _ _ _ d := submit_silent _ d
  changePassword _ _ _ _ d := submit_silent _ d

end Native

end PasswordChange.Directory
