import PasswordChange.Proofs.Footing

/-!
# The local part of a directory in memory

The nodes whose names begin with the local root are the local part of a directory. Two directories
agree locally if their local parts are the same, entry by entry and in the same order, and they have
the same daemons and the same injected faults.

* `Memory.AgreeLocally` is this relation. What a session on the local database can open is the same
  in both directories (`AgreeLocally.visibleNodes_eq`, `AgreeLocally.searched_eq`), and so is whom
  it can find there (`AgreeLocally.findUser_eq`).
* `AgreeLocally.decideAuthenticator_eq` says that the authenticator of a change is judged alike if
  the same account vouches in both.
-/

namespace PasswordChange

namespace Table

variable {α : Type}

/-- The entries whose keys satisfy `p`. -/
def restrict (p : String → Bool) (t : Table α) : Table α :=
  t.filter fun entry => p entry.1

variable {p : String → Bool} {key : String}

theorem get?_restrict (t : Table α) (kept : p key = true) :
    (t.restrict p).get? key = t.get? key := by
  induction t with
  | nil => rfl
  | cons entry rest ih =>
      obtain ⟨k, v⟩ := entry
      by_cases same : k = key
      · subst same
        simp [restrict, kept, get?]
      · by_cases left : p k = true
        · simpa [restrict, List.filter_cons, left, get?, same] using ih
        · simpa [restrict, List.filter_cons, left, get?, same] using ih

theorem keys_restrict (p : String → Bool) (t : Table α) :
    (t.restrict p).keys = t.keys.filter p := by
  unfold restrict keys
  rw [List.filter_map]
  rfl

theorem put_restrict (t : Table α) (kept : p key = true) (value : α) :
    (t.put key value).restrict p = (t.restrict p).put key value := by
  induction t with
  | nil => simp [restrict, put, kept]
  | cons entry rest ih =>
      obtain ⟨k, v⟩ := entry
      by_cases same : k = key
      · subst same
        simp [restrict, kept, put]
      · by_cases left : p k = true
        · simpa [restrict, List.filter_cons, left, put, same] using ih
        · simpa [restrict, List.filter_cons, left, put, same] using ih

end Table

namespace Directory.Memory

variable {d d' : Memory} {node user : String}

/-- The node is local: its name begins with the local root. -/
def isLocal (d : Memory) (node : String) : Bool :=
  Text.startsWith d.localRoot node

/-- The local parts of the directories are the same, and so are their daemons and their faults. -/
structure AgreeLocally (d d' : Memory) : Prop where
  localRoot : d'.localRoot = d.localRoot
  nodes : d'.nodes.restrict d.isLocal = d.nodes.restrict d.isLocal
  searchOrder : d'.searchOrder.filter d.isLocal = d.searchOrder.filter d.isLocal
  daemonRunning : d'.daemonRunning = d.daemonRunning
  localDaemonRunning : d'.localDaemonRunning = d.localDaemonRunning
  faults : d'.faults = d.faults

theorem isLocal_of_visible (visible : (d.visibleNodes true).contains node = true) :
    d.isLocal node = true :=
  (List.mem_filter.1 (List.contains_iff_mem.1 visible)).2

namespace AgreeLocally

theorem refl (d : Memory) : AgreeLocally d d :=
  ⟨rfl, rfl, rfl, rfl, rfl, rfl⟩

variable (agree : AgreeLocally d d')

include agree

/-! ## What a session on the local database can see -/

theorem isLocal_eq : d'.isLocal = d.isLocal := by
  funext node
  unfold isLocal
  rw [agree.localRoot]

theorem get?_eq (here : d.isLocal node = true) : d'.nodes.get? node = d.nodes.get? node := by
  rw [← Table.get?_restrict d'.nodes here, agree.nodes, Table.get?_restrict d.nodes here]

theorem accounts_eq (here : d.isLocal node = true) : d'.accounts node = d.accounts node := by
  unfold accounts
  rw [agree.get?_eq here]

theorem account?_eq (here : d.isLocal node = true) (user : String) :
    d'.account? node user = d.account? node user := by
  unfold account?
  rw [agree.accounts_eq here]

theorem visibleNodes_eq : d'.visibleNodes true = d.visibleNodes true := by
  change d'.nodes.keys.filter d'.isLocal = d.nodes.keys.filter d.isLocal
  rw [agree.isLocal_eq, ← Table.keys_restrict, agree.nodes, Table.keys_restrict]

/-- The search goes over the same nodes. -/
theorem searched_eq :
    d'.searchOrder.filter (d'.visibleNodes true).contains =
      d.searchOrder.filter (d.visibleNodes true).contains := by
  -- What is visible is local, so the search may as well go over the local nodes of the search.
  have narrowed (order : List String) :
      (order.filter d.isLocal).filter (d.visibleNodes true).contains =
        order.filter (d.visibleNodes true).contains := by
    rw [List.filter_filter]
    refine List.filter_congr fun node _ => ?_
    cases visible : (d.visibleNodes true).contains node with
    | false => rfl
    | true => rw [isLocal_of_visible visible]; rfl
  rw [agree.visibleNodes_eq, ← narrowed d'.searchOrder, agree.searchOrder, narrowed]

/-! ## What is decided -/

theorem decideSession_eq (options : List (String × Value)) :
    d'.decideSession options = d.decideSession options := by
  unfold decideSession
  rw [agree.faults, agree.daemonRunning, agree.localDaemonRunning]

theorem findUser_eq (user : String) {names : List String}
    (here : ∀ name ∈ names, d.isLocal name = true) :
    d'.findUser user names = d.findUser user names := by
  induction names with
  | nil => rfl
  | cons name rest ih =>
      obtain ⟨first, others⟩ := List.forall_mem_cons.1 here
      unfold findUser
      rw [agree.get?_eq first]
      split
      · rfl
      · rw [ih others]

theorem accountOf_eq (here : d.isLocal node = true) (user : String) :
    d'.accountOf node user = d.accountOf node user := by
  unfold accountOf
  rw [agree.get?_eq here]

theorem decideChange_eq (here : d.isLocal node = true) (user : String)
    (oldPassword : Option String) :
    d'.decideChange node user oldPassword = d.decideChange node user oldPassword := by
  unfold decideChange
  rw [agree.faults, agree.accountOf_eq here]

omit agree in
/-- Where the same account vouches, authenticators are judged alike. -/
theorem decideAuthenticator_eq {authname : String} (known : d.nodes.has node = true)
    (known' : d'.nodes.has node = true) (grounded : d.Grounded) (grounded' : d'.Grounded)
    (same : d'.voucher? node authname = d.voucher? node authname) (username : Item)
    (oldPassword : Option String) :
    d'.decideAuthenticator node authname username oldPassword =
      d.decideAuthenticator node authname username oldPassword := by
  obtain ⟨found, search⟩ := authenticator_isOk known grounded authname
  obtain ⟨found', search'⟩ := authenticator_isOk known' grounded' authname
  rw [voucher?_of_authenticator search, voucher?_of_authenticator search'] at same
  unfold decideAuthenticator
  rw [search, search']
  rcases found with _ | ⟨home, account⟩ <;> rcases found' with _ | ⟨home', account'⟩ <;>
    cases same <;> rfl

/-! ## What is replaced -/

/-- A password that is replaced in a local node is replaced in both directories. -/
theorem setAccountPassword (here : d.isLocal node = true)
    (present : (d.account? node user).isSome = true) (password : String) :
    AgreeLocally (d.setAccountPassword node user password)
      (d'.setAccountPassword node user password) := by
  obtain ⟨account, there⟩ := Option.isSome_iff_exists.1 present
  have there' := (agree.account?_eq here user).trans there
  unfold Memory.setAccountPassword
  rw [there, there', agree.accounts_eq here]
  refine ⟨agree.localRoot, ?_, agree.searchOrder, agree.daemonRunning, agree.localDaemonRunning,
    agree.faults⟩
  change (d'.nodes.put node _).restrict d.isLocal = (d.nodes.put node _).restrict d.isLocal
  rw [Table.put_restrict _ here, Table.put_restrict _ here, agree.nodes]

end AgreeLocally

end Directory.Memory

end PasswordChange
