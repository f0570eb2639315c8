import PasswordChange.Proofs.Footing
import PasswordChange.Proofs.Secrecy

/-!
# Directories in memory side by side

Two directories go through the flow side by side from a node on if the user is found in the same
node of both, and if whoever vouches for the change there is judged alike. What else there is in the
directories makes no difference.

* `Memory.sameness` compares runs whose errors and events have to be equal.
* `Memory.SameStore` says that two directories differ in their handles only.
* `Memory.Akin` says of a relation between directories that it contains this and is kept.
* `Memory.Akin.nodeAccord` are the stations of the flow at directories that are so related.
-/

namespace PasswordChange.Directory.Memory

/-- Errors and events have to be equal. -/
def sameness : Comparison Memory :=
  { secrecy .identity with
    events := Eq
    common := fun _ _ => rfl
    append := fun first second => by rw [first, second] }

variable {c : Changer} {request : Request} {d d' e e' : Memory} {node user home : String}
  {i i' j j' : HandleId} {kind : Handle.Kind} {ref ref' : Ref}

theorem eq_of_fails {e e' : Failure} (fails : sameness.Fails e e') : e' = e := by
  cases fails with
  | same => rfl
  | directory same => exact congrArg Failure.directory (Eq.symm same)
  | daemonLoad load same =>
      exact congrArg (fun e => Failure.daemonLoad { load with directoryError := some e })
        (Eq.symm same)

/-- Acts in step that return the same come to the same result. -/
theorem agree_of_inStep {H α : Type} {S S' : Memory → Memory → Prop} {act act' : Act Memory H α}
    (inStep : sameness.InStep S act act' (fun a b d d' => b = a ∧ S' d d') S')
    {w w' : World Memory H} (abreast : sameness.Abreast S w w') :
    sameness.Agree S' w (act w) w' (act' w') := by
  obtain ⟨ends, along⟩ := inStep w w' abreast trivial
  generalize act w = first at ends along ⊢
  generalize act' w' = second at ends along ⊢
  cases ends with
  | ok after => exact ⟨congrArg Except.ok after.directory.1, after.mono And.right, along⟩
  | error fails after => exact ⟨congrArg Except.error (eq_of_fails fails), after, along⟩

/-! ## Handles on both sides -/

/-- The directories differ in their handles only. -/
def SameStore (d d' : Memory) : Prop :=
  ∃ handles openHandles, d' = { d with handles, openHandles }

theorem sameStore_issue (h : Handle Ref) (d : Memory) : SameStore d (d.issue h).2 :=
  ⟨_, _, rfl⟩

theorem sameStore_close (i : HandleId) (d : Memory) : SameStore d (d.close i).state :=
  ⟨_, _, rfl⟩

theorem SameStore.refl (d : Memory) : SameStore d d :=
  ⟨_, _, rfl⟩

theorem SameStore.symm (same : SameStore d e) : SameStore e d := by
  obtain ⟨_, _, rfl⟩ := same
  exact ⟨_, _, rfl⟩

theorem SameStore.trans (first : SameStore d e) (second : SameStore e e') : SameStore d e' := by
  obtain ⟨_, _, rfl⟩ := first
  obtain ⟨_, _, rfl⟩ := second
  exact ⟨_, _, rfl⟩

theorem SameStore.undisturbed (same : SameStore d e) : Undisturbed d e := by
  obtain ⟨_, _, rfl⟩ := same
  exact ⟨rfl, rfl, rfl⟩

/-- On both sides the handle is open and of this kind; it stands for `ref` on the first side and
for `ref'` on the second. -/
def Shares (kind : Handle.Kind) (i i' : HandleId) (ref ref' : Ref) (d d' : Memory) : Prop :=
  d.Holds kind i ref ∧ d'.Holds kind i' ref'

/-- New handles are none of the open ones, which stand for the same as before. -/
theorem Shares.issue (shares : Shares kind i i' ref ref' d d') (h h' : Handle Ref) :
    (i ≠ (d.issue h).1 ∧ i' ≠ (d'.issue h').1) ∧
      Shares kind i i' ref ref' (d.issue h).2 (d'.issue h').2 := by
  obtain ⟨other, holds⟩ := shares.1.issue h
  obtain ⟨other', holds'⟩ := shares.2.issue h'
  exact ⟨⟨other, other'⟩, holds, holds'⟩

theorem shares_issue {h : Handle Ref} (isOpen : h.ref = some ref) (d d' : Memory) :
    Shares h.kind (d.issue h).1 (d'.issue h).1 ref ref (d.issue h).2 (d'.issue h).2 :=
  ⟨holds_issue isOpen d, holds_issue isOpen d'⟩

theorem Shares.close (shares : Shares kind i i' ref ref' d d') (other : j ≠ i ∧ j' ≠ i') :
    Shares kind i i' ref ref' (d.close j).state (d'.close j').state :=
  ⟨shares.1.close other.1, shares.2.close other.2⟩

theorem Shares.of_handles_eq (shares : Shares kind i i' ref ref' d d')
    (same : e.handles = d.handles) (same' : e'.handles = d'.handles) :
    Shares kind i i' ref ref' e e' :=
  ⟨shares.1.of_handles_eq same, shares.2.of_handles_eq same'⟩

/-- Handles of the same kind are closed in the same way. -/
theorem closes_of_shares {S S' : Memory → Memory → Prop}
    (shares : ∀ d d', S d d' → ∃ kind ref ref', Shares kind i i' ref ref' d d')
    (still : ∀ d d', S d d' → S' (d.close i).state (d'.close i').state) :
    sameness.Closes S i i' S' := by
  intro d d' related _
  obtain ⟨kind, ref, ref', holds, holds'⟩ := shares d d' related
  exact ⟨(close_eq i d).1, (close_eq i' d').1, still d d' related,
    holds.events_close.trans holds'.events_close.symm⟩

/-! ## Lookups -/

/-- A user is looked for in the nodes that are open. -/
theorem decideRecord_eq {n : HandleId} {names : List String}
    (holds : d.Holds .node n (.node names)) (user : String) :
    d.decideRecord n userRecords user =
      match d.faults.lookup with
      | some e => .error (.directory e)
      | none => (d.findUser user names).map
          (Option.map fun home => ⟨.record, .text user, some (.record home user)⟩) := by
  unfold decideRecord
  rw [holds.nodeNames_eq]
  rcases d.faults.lookup with _ | e
  · simp only [bind, Except.bind, ne_eq, not_true, if_false]
    rcases d.findUser user names with _ | _ | home <;> rfl
  · rfl

/-- Users are found in the nodes that are searched. -/
theorem mem_of_findUser {names : List String}
    (found : d.findUser user names = .ok (some home)) : home ∈ names := by
  induction names with
  | nil => cases found
  | cons name rest ih =>
      unfold findUser at found
      split at found
      · cases found
      · split at found
        · cases found
          exact List.mem_cons_self
        · exact List.mem_cons_of_mem _ (ih found)

/-- Whether the user is in a node, if the node is there. -/
def hasUser? (d : Memory) (user node : String) : Option Bool :=
  (d.nodes.get? node).map (·.has user)

theorem findUser_cons (d : Memory) (user name : String) (rest : List String) :
    d.findUser user (name :: rest) =
      match d.hasUser? user name with
      | none => .error (.missingEntry name)
      | some true => .ok (some name)
      | some false => d.findUser user rest := by
  unfold hasUser?
  rw [findUser]
  rcases d.nodes.get? name with _ | accounts
  · rfl
  · cases has : accounts.has user <;> simp [has]

/-- A lookup depends on which nodes are there and on who is in them. -/
theorem findUser_congr (same : ∀ name, e.hasUser? user name = d.hasUser? user name)
    (names : List String) : e.findUser user names = d.findUser user names := by
  induction names with
  | nil => rfl
  | cons name rest ih => rw [findUser_cons, findUser_cons, same, ih]

theorem Undisturbed.findUser_eq (same : Undisturbed d e) (user : String) (names : List String) :
    e.findUser user names = d.findUser user names := by
  refine findUser_congr (fun name => ?_) names
  unfold hasUser?
  rw [same.nodes]

/-- An account is looked up in a node that is there. -/
theorem accountOf_eq (d : Memory) (node user : String) :
    d.accountOf node user =
      match d.hasUser? user node with
      | none => .error (.missingEntry node)
      | some _ =>
        match d.account? node user with
        | none => .error (.missingEntry user)
        | some account => .ok account := by
  unfold accountOf hasUser?
  rcases known : d.nodes.get? node with _ | accounts
  · rfl
  · rw [account?_of_get? known]
    rfl

/-- The authenticator is looked for in the node and then in the nodes of the search. -/
theorem authenticator_eq (d : Memory) (node authname : String) :
    d.authenticator node authname = (d.findUser authname (node :: d.searchOrder)).map
      fun home? => home?.bind fun home => (d.account? home authname).map (home, ·) := by
  unfold authenticator
  rw [findUser]
  rcases known : d.nodes.get? node with _ | accounts
  · rfl
  · dsimp only
    unfold Table.has
    rcases own : accounts.get? authname with _ | account
    · rcases d.findUser authname d.searchOrder with _ | _ | _ <;> rfl
    · have here : d.account? node authname = some account := (account?_of_get? known _).trans own
      change _ = Except.ok ((d.account? node authname).map (node, ·))
      rw [here]
      rfl

/-- The authenticator is the same where the user is found in the same node, with the same
account. -/
theorem decideAuthenticator_congr {authname : String}
    (same : e.findUser authname (node :: e.searchOrder) =
      d.findUser authname (node :: d.searchOrder))
    (account : ∀ home, d.findUser authname (node :: d.searchOrder) = .ok (some home) →
      e.account? home authname = d.account? home authname)
    (username : Item) (oldPassword : Option String) :
    e.decideAuthenticator node authname username oldPassword =
      d.decideAuthenticator node authname username oldPassword := by
  have authenticator : e.authenticator node authname = d.authenticator node authname := by
    rw [authenticator_eq, authenticator_eq, same]
    rcases found : d.findUser authname (node :: d.searchOrder) with _ | _ | home
    · rfl
    · rfl
    · simp only [Except.map, Option.bind_some, account home found]
  unfold decideAuthenticator
  rw [authenticator]

theorem hasUser?_eq (d : Memory) (user node : String) :
    d.hasUser? user node =
      if d.nodes.has node = true then some (d.account? node user).isSome else none := by
  unfold hasUser? Table.has
  rcases known : d.nodes.get? node with _ | accounts
  · rfl
  · rw [account?_of_get? known]
    rfl

/-- Replacing a password adds no node. -/
theorem has_setAccountPassword (node username password name : String) (d : Memory) :
    (d.setAccountPassword node username password).nodes.has name = d.nodes.has name := by
  unfold setAccountPassword
  split
  next => rfl
  next account there =>
    have known : d.nodes.has node = true := has_of_account? (by rw [there]; rfl)
    unfold Table.has at known ⊢
    rw [Table.get?_put]
    split
    next same => rw [← same, known]; rfl
    next => rfl

/-- Replacing a password moves nobody. -/
theorem hasUser?_setAccountPassword (node username password user name : String) (d : Memory) :
    (d.setAccountPassword node username password).hasUser? user name = d.hasUser? user name := by
  have present : ((d.setAccountPassword node username password).account? name user).isSome =
      (d.account? name user).isSome := by
    rw [account?_setAccountPassword]
    split
    · exact Option.isSome_map
    · rfl
  rw [hasUser?_eq, hasUser?_eq, has_setAccountPassword, present]

/-! ## Relations that the flow keeps -/

variable {S : Memory → Memory → Prop} {Home : String → Prop}

/-- The relation between directories does not depend on their handles, and it is kept when the
password of the user is replaced on both sides in one of the nodes `Home`. Related directories have
the same faults, and a change of the user's account in such a node is judged alike. -/
structure Akin (c : Changer) (request : Request) (S : Memory → Memory → Prop)
    (Home : String → Prop) : Prop where
  store {d d' e e' : Memory} : S d d' → SameStore d e → SameStore d' e' → S e e'
  faults {d d' : Memory} : S d d' → d'.faults = d.faults
  present {d d' : Memory} {home : String} : S d d' → Home home →
    (d.account? home request.username).isSome = true →
    (d'.account? home request.username).isSome = true
  permits {d d' : Memory} {home : String} (oldPassword : Option String) : S d d' → Home home →
    (d.account? home request.username).isSome = true →
    c.needsAuthentication (.named home) = true →
    d'.decideAuthenticator home request.authname (.text request.username) oldPassword =
      d.decideAuthenticator home request.authname (.text request.username) oldPassword
  changes {d d' : Memory} {home : String} (oldPassword : Option String) : S d d' → Home home →
    d'.decideChange home request.username oldPassword =
      d.decideChange home request.username oldPassword
  replaces {d d' : Memory} {home : String} (password : String) : S d d' → Home home →
    (d.account? home request.username).isSome = true →
    S (d.setAccountPassword home request.username password)
      (d'.setAccountPassword home request.username password)

/-- The user is found in the same one of two lists of nodes, if at all, and then in one of the nodes
`Home`. -/
structure LooksUp (username : String) (Home : String → Prop) (names names' : List String)
    (d d' : Memory) : Prop where
  same : d'.findUser username names' = d.findUser username names
  home (node : String) : d.findUser username names = .ok (some node) → Home node

/-- The handles are open on nodes in which the user is found so. -/
def AtNode (username : String) (Home : String → Prop) (n n' : HandleId) (d d' : Memory) : Prop :=
  ∃ names names', Shares .node n n' (.node names) (.node names') d d' ∧
    LooksUp username Home names names' d d'

/-- Both handles are open on the record of the user in the same node. -/
structure AtRecord (username : String) (S : Memory → Memory → Prop) (Home : String → Prop)
    (home : String) (n n' r r' : HandleId) (d d' : Memory) : Prop where
  related : S d d'
  node : AtNode username Home n n' d d'
  other : r ≠ n ∧ r' ≠ n'
  record : Shares .record r r' (.record home username) (.record home username) d d'
  reached : Home home
  present : (d.account? home username).isSome = true

variable {username : String} {names names' : List String} {n n' r r' : HandleId}

theorem LooksUp.of_eq (looksUp : LooksUp username Home names names' d d')
    (same : e.findUser username names = d.findUser username names)
    (same' : e'.findUser username names' = d'.findUser username names') :
    LooksUp username Home names names' e e' := by
  constructor
  · rw [same, same']
    exact looksUp.same
  · rw [same]
    exact looksUp.home

theorem AtNode.issue (there : AtNode username Home n n' d d') (h h' : Handle Ref) :
    (n ≠ (d.issue h).1 ∧ n' ≠ (d'.issue h').1) ∧
      AtNode username Home n n' (d.issue h).2 (d'.issue h').2 := by
  obtain ⟨names, names', shares, looksUp⟩ := there
  obtain ⟨other, shares⟩ := shares.issue h h'
  exact ⟨other, names, names', shares, looksUp.of_eq
    ((undisturbed_issue h d).findUser_eq _ _) ((undisturbed_issue h' d').findUser_eq _ _)⟩

theorem AtNode.close (there : AtNode username Home n n' d d') (other : j ≠ n ∧ j' ≠ n') :
    AtNode username Home n n' (d.close j).state (d'.close j').state := by
  obtain ⟨names, names', shares, looksUp⟩ := there
  exact ⟨names, names', shares.close other, looksUp.of_eq
    ((close_eq j d).2.findUser_eq _ _) ((close_eq j' d').2.findUser_eq _ _)⟩

theorem AtNode.setAccountPassword (there : AtNode username Home n n' d d')
    (node user password : String) :
    AtNode username Home n n' (d.setAccountPassword node user password)
      (d'.setAccountPassword node user password) := by
  obtain ⟨names, names', shares, looksUp⟩ := there
  exact ⟨names, names', shares.of_handles_eq (handles_setAccountPassword ..)
    (handles_setAccountPassword ..), looksUp.of_eq
    (findUser_congr (hasUser?_setAccountPassword node user password username · d) _)
    (findUser_congr (hasUser?_setAccountPassword node user password username · d') _)⟩

namespace Akin

variable (akin : Akin c request S Home)

include akin

/-- The record of the user is found in the same node on both sides. -/
theorem copyRecord_tandem (n n' : HandleId) :
    sameness.Tandem (fun d d' => S d d' ∧ AtNode request.username Home n n' d d')
      (copyRecord n userRecords request.username) (copyRecord n' userRecords request.username)
      (Optionally (fun r r' d d' => ∃ home, AtRecord request.username S Home home n n' r r' d d')
        fun d d' => S d d' ∧ AtNode request.username Home n n' d d')
      fun d d' => S d d' ∧ AtNode request.username Home n n' d d' := by
  intro d d' start _
  obtain ⟨related, names, names', shares, looksUp⟩ := start
  have node : AtNode request.username Home n n' d d' := ⟨names, names', shares, looksUp⟩
  have same : d'.decideRecord n' userRecords request.username =
      d.decideRecord n userRecords request.username := by
    rw [decideRecord_eq shares.1, decideRecord_eq shares.2, akin.faults related, looksUp.same]
  unfold copyRecord
  dsimp only
  rw [same]
  rcases decided : d.decideRecord n userRecords request.username with e | _ | h
  · exact .fail (.same e) ⟨related, node⟩ rfl
  · exact .ok ⟨related, node⟩ rfl
  · rw [decideRecord_eq shares.1] at decided
    split at decided
    · cases decided
    · rcases search : d.findUser request.username names with e | _ | home <;>
        rw [search] at decided <;> cases decided
      have present : (d.account? home request.username).isSome = true := isSome_of_findUser search
      let h : Handle Ref := ⟨.record, .text request.username, some (.record home request.username)⟩
      obtain ⟨other, still⟩ := node.issue h h
      have after := akin.store related (sameStore_issue h d) (sameStore_issue h d')
      exact .ok ⟨home, after, still, ⟨other.1.symm, other.2.symm⟩, shares_issue rfl d d',
        looksUp.home home search, present⟩ rfl

end Akin

namespace AtRecord

variable (akin : Akin c request S Home)
  (there : AtRecord request.username S Home home n n' r r' d d')

include akin there

theorem denotes :
    d.Denotes r home request.username ∧ d'.Denotes r' home request.username :=
  ⟨⟨there.record.1.recordOf_eq, there.present⟩,
    there.record.2.recordOf_eq, akin.present there.related there.reached there.present⟩

theorem setAccountPassword (password : String) :
    AtRecord request.username S Home home n n' r r'
      (d.setAccountPassword home request.username password)
      (d'.setAccountPassword home request.username password) := by
  refine ⟨akin.replaces password there.related there.reached there.present,
    there.node.setAccountPassword _ _ _, there.other,
    there.record.of_handles_eq (handles_setAccountPassword ..) (handles_setAccountPassword ..),
    there.reached, ?_⟩
  rw [account?_setAccountPassword, if_pos ⟨rfl, rfl⟩, Option.isSome_map]
  exact there.present

/-- With the same permission the password is replaced on both sides, or on none. -/
theorem steps_replacing (permission : Except Failure Unit) (call : Call) (password : String) :
    sameness.Steps
      (fun _ _ d d' => ∃ home, AtRecord request.username S Home home n n' r r' d d')
      (fun d d' => ∃ home, AtRecord request.username S Home home n n' r r' d d')
      (replacing permission call home request.username password d)
      (replacing permission call home request.username password d') := by
  cases permission with
  | ok _ => exact .ok ⟨home, there.setAccountPassword akin password⟩ rfl
  | error e => exact .fail (.same e) ⟨home, there⟩ rfl

variable {v v' : Vault} {old? new? : Option SecretId} {old : Option String} {new : String}

/-- Setting the password with credentials goes the same way, since whoever vouches is judged
alike. -/
theorem setCredentials_steps (needed : c.needsAuthentication (.named home) = true)
    (readOld : Renaming.identity.Reads v v' old? old)
    (readNew : Renaming.identity.Reads v v' new? (some new)) :
    sameness.Steps
      (fun _ _ d d' => ∃ home, AtRecord request.username S Home home n n' r r' d d')
      (fun d d' => ∃ home, AtRecord request.username S Home home n n' r r' d d')
      (setCredentials v r userRecords setPassword
        [.text request.username, .ofSecret? new?, .text request.authname, .ofSecret? old?] d)
      (setCredentials v' r' userRecords setPassword
        [.text request.username, .ofSecret? new?, .text request.authname, .ofSecret? old?] d') := by
  have proof := (revealed?_ofSecret? v old?).trans readOld.first
  have proof' := (revealed?_ofSecret? v' old?).trans readOld.eq_of_identity
  obtain ⟨denotes, denotes'⟩ := there.denotes akin
  have same := akin.permits old there.related there.reached there.present needed
  rw [setCredentials_eq denotes (revealed_of_reveal? readNew.first) proof,
    setCredentials_eq denotes' (revealed_of_reveal? readNew.second) proof', same]
  unfold permit
  rw [akin.faults there.related]
  exact there.steps_replacing akin _ _ new

/-- Changing the password goes the same way. -/
theorem changePassword_steps (readOld : Renaming.identity.Reads v v' old? old)
    (readNew : Renaming.identity.Reads v v' new? (some new)) :
    sameness.Steps
      (fun _ _ d d' => ∃ home, AtRecord request.username S Home home n n' r r' d d')
      (fun d d' => ∃ home, AtRecord request.username S Home home n n' r r' d d')
      (changePassword v r (.ofSecret? old?) (.ofSecret? new?) d)
      (changePassword v' r' (.ofSecret? old?) (.ofSecret? new?) d') := by
  have proof := (revealed?_ofSecret? v old?).trans readOld.first
  have proof' := (revealed?_ofSecret? v' old?).trans readOld.eq_of_identity
  rw [changePassword_eq_replacing there.record.1.recordOf_eq (revealed_of_reveal? readNew.first)
      proof,
    changePassword_eq_replacing there.record.2.recordOf_eq (revealed_of_reveal? readNew.second)
      proof',
    akin.changes old there.related there.reached]
  exact there.steps_replacing akin _ _ new

end AtRecord

/-- **The stations of the flow from a node on at directories that are akin.** -/
def Akin.nodeAccord (akin : Akin c request S Home) :
    NodeAccord Memory Memory sameness c request where
  idle := S
  node n n' d d' := S d d' ∧ AtNode request.username Home n n' d d'
  record n n' r r' d d' := ∃ home, AtRecord request.username S Home home n n' r r' d d'
  read location n n' r r' d d' :=
    ∃ home, location = .named home ∧ AtRecord request.username S Home home n n' r r' d d'
  frame := sessionFrame_of_forall fun _ _ => id
  copyRecord := akin.copyRecord_tandem
  copyValues searched n n' r r' := by
    intro d d' start _
    obtain ⟨home, there⟩ := start
    have read := copyValues_eq (there.denotes akin).1
    have read' := copyValues_eq (there.denotes akin).2
    change sameness.Steps _ _ (copyValues r metanodeLocation d) (copyValues r' metanodeLocation d')
    rw [read, read']
    exact .ok ⟨rfl, home, rfl, there⟩ rfl
  forget := by
    intro _ _ _ _ _ _ _ start
    obtain ⟨home, _, there⟩ := start
    exact ⟨home, there⟩
  setCredentials n n' r r' needed readOld readNew := by
    intro d d' start _
    obtain ⟨home, rfl, there⟩ := start
    exact there.setCredentials_steps akin needed readOld readNew
  changePassword n n' r r' _ readOld readNew := by
    intro d d' start _
    obtain ⟨home, _, there⟩ := start
    exact there.changePassword_steps akin readOld readNew
  closeRecord n n' r r' := by
    refine closes_of_shares ?_ ?_
    · intro d d' start
      obtain ⟨home, there⟩ := start
      exact ⟨_, _, _, there.record⟩
    · intro d d' start
      obtain ⟨home, there⟩ := start
      exact ⟨akin.store there.related (sameStore_close r d) (sameStore_close r' d'),
        there.node.close there.other⟩
  closeNode n n' := by
    refine closes_of_shares ?_ fun d d' there =>
      akin.store there.1 (sameStore_close n d) (sameStore_close n' d')
    intro d d' there
    obtain ⟨_, names, names', shares, _⟩ := there
    exact ⟨_, _, _, shares⟩

end PasswordChange.Directory.Memory
