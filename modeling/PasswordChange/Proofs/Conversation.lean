import PasswordChange.Proofs.Dialogue
import PasswordChange.Proofs.Frame

/-!
# The whole conversation

The conversation with the user opens with the prompt for the old password, if an identity must be
proved, and goes on with the dialogue about the new one, unless the user interrupts the first
prompt. `Conversation.of` reads it off the answers.

* `collect_eq` says that the passwords are collected by exactly this conversation.
* `Conversation.isSpoken_events` says of what kind the events of a conversation are.
* `Conversation.custody` keeps track of its secrets: at most the old and the new password are
  unwiped at its end.
-/

namespace PasswordChange

/-- The event belongs to a conversation: a prompt, a secret typed at it, a line that is said to the
user, or an entry in the log. -/
def Event.isSpoken : Event → Bool
  | .prompted _ | .issued _ | .said _ | .logged _ => true
  | .warned _ | .called .. | .released _ | .native .. | .queried _ | .launched .. | .probed _ =>
    false

end PasswordChange

namespace PasswordChange.Confirmation

/-- What became of the prompt for the old password. -/
inductive Opening where
  | skipped
  | typed (password : String)
  | ended
  | unreadable
  | interrupted
  deriving DecidableEq, Repr

/-- A conversation: its opening, the dialogue after it unless that was interrupted, and the
answers that are left over. -/
structure Conversation where
  opening : Opening
  dialogue? : Option Dialogue
  rest : List Answer
  deriving DecidableEq, Repr

/-- What comes of a conversation. -/
inductive Resolution where
  | interrupted
  | declined
  | confirmed (password : String)
  deriving DecidableEq, Repr

/-! ## The conversation of given answers -/

/-- A conversation that was not interrupted at the first prompt. -/
def Opening.before (opening : Opening) (answers : List Answer) : Conversation :=
  ⟨opening, some (Dialogue.of answers), (Dialogue.of answers).rest⟩

/-- The conversation that answers make, with or without the prompt for the old password. -/
def Conversation.of (needsAuth : Bool) (answers : List Answer) : Conversation :=
  if needsAuth then
    match answers with
    | [] => Opening.ended.before []
    | .endOfInput :: rest => Opening.ended.before rest
    | .interrupt :: rest => ⟨.interrupted, none, rest⟩
    | .undecodable :: rest => Opening.unreadable.before rest
    | .text password :: rest => (Opening.typed password).before rest
  else Opening.skipped.before answers

/-- The text that was typed at the prompt for the old password. -/
def Opening.password? : Opening → Option String
  | typed password => some password
  | skipped | ended | unreadable | interrupted => none

def Opening.prompts (label : String) : Opening → List String
  | skipped => []
  | typed _ | ended | unreadable | interrupted => [label]

/-- The secret that an opening makes. -/
def Opening.secret? (v : Vault) : Opening → Option SecretId
  | typed password => some (v.issue password).1
  | skipped | ended | unreadable | interrupted => none

def Opening.vault (v : Vault) : Opening → Vault
  | typed password => (v.issue password).2
  | skipped | ended | unreadable | interrupted => v

def Opening.events (label : String) (v : Vault) : Opening → List Event
  | skipped => []
  | typed password => [.prompted label, .issued (v.issue password).1]
  | ended | interrupted => [.prompted label]
  | unreadable => [.prompted label,
      .logged ⟨.flow, .warning, "old password could not be decoded, sending none"⟩]

def Ending.resolution : Ending → Resolution
  | ended | blank => .declined
  | confirmed password => .confirmed password
  | interrupted | interruptedRetyping _ => .interrupted

namespace Conversation

def resolution (talk : Conversation) : Resolution :=
  match talk.dialogue? with
  | none => .interrupted
  | some d => d.ending.resolution

def prompts (label : String) (talk : Conversation) : List String :=
  talk.opening.prompts label ++ talk.dialogue?.elim [] Dialogue.prompts

/-- The secret with the old password. -/
def old? (v : Vault) (talk : Conversation) : Option SecretId :=
  talk.opening.secret? v

/-- The secret with the new password, if it was confirmed. -/
def new? (v : Vault) (talk : Conversation) : Option SecretId :=
  talk.dialogue?.bind fun d => (d.result (talk.opening.vault v)).toOption.join

def vault (v : Vault) (talk : Conversation) : Vault :=
  talk.dialogue?.elim (talk.opening.vault v) fun d => d.vault (talk.opening.vault v)

def events (label : String) (v : Vault) (talk : Conversation) : List Event :=
  talk.opening.events label v ++ talk.dialogue?.elim [] fun d => d.events (talk.opening.vault v)

/-- The secrets that the conversation leaves unwiped. -/
def held (v : Vault) (talk : Conversation) : List SecretId :=
  (talk.old? v).toList ++ talk.dialogue?.elim [] fun d => d.held (talk.opening.vault v)

variable {D H : Type}

/-- The world after the conversation. -/
def after (label : String) (talk : Conversation) (w : World D H) : World D H :=
  { w with
    vault := talk.vault w.vault
    answers := talk.rest
    journal := w.journal ++ talk.events label w.vault }

end Conversation

variable {D H : Type}

/-- The world in which a secret, if there is one, has been wiped. -/
def wiped (secret? : Option SecretId) (w : World D H) : World D H :=
  { w with vault := secret?.elim w.vault fun s => w.vault.wipe s }

theorem wipe?_eq (secret? : Option SecretId) (w : World D H) :
    Act.wipe? secret? w = (.ok (), wiped secret? w) := by
  cases secret? <;> rfl

/-! ## The collection holds the conversation -/

/-- What collecting the passwords gives at the end of a conversation. -/
def Conversation.collected (v : Vault) (talk : Conversation) :
    Except Failure (Option SecretId × Option SecretId) :=
  match talk.resolution with
  | .interrupted => .error .interrupted
  | .declined | .confirmed _ => .ok (talk.old? v, talk.new? v)

/-- The world after the passwords were collected; if the conversation was interrupted, the old
one has been wiped. -/
def Conversation.left (label : String) (talk : Conversation) (w : World D H) : World D H :=
  match talk.resolution with
  | .interrupted => wiped (talk.old? w.vault) (talk.after label w)
  | .declined | .confirmed _ => talk.after label w

/-- The act that opens the conversation. -/
def askOld? (request : Request) (needsAuth : Bool) : Act D H (Option SecretId) :=
  if needsAuth then askOld request else Act.value none

theorem collect_eq_andThen (request : Request) (needsAuth : Bool) :
    (collect request needsAuth : Act D H (Option SecretId × Option SecretId)) =
      (askOld? request needsAuth).andThen fun old =>
        Act.andThen (Act.onFailure (fun w => confirm w.answers w) (Act.wipe? old)) fun new =>
          Act.value (old, new) := by
  cases needsAuth <;> rfl

/-- The world after an opening that leaves the given answers. -/
def Opening.after (label : String) (opening : Opening) (rest : List Answer) (w : World D H) :
    World D H :=
  { w with
    vault := opening.vault w.vault
    answers := rest
    journal := w.journal ++ opening.events label w.vault }

/-- An ending fails exactly if it is an interruption. -/
theorem Ending.result_cases (ending : Ending) (v : Vault) :
    (ending.resolution = .interrupted ∧ ending.result v = .error .interrupted) ∨
      (ending.resolution ≠ .interrupted ∧ ∃ new, ending.result v = .ok new) := by
  cases ending with
  | interrupted | interruptedRetyping first => exact Or.inl ⟨rfl, rfl⟩
  | ended | blank | confirmed password =>
      exact Or.inr ⟨fun same => Resolution.noConfusion same, _, rfl⟩

/-- The dialogue follows an opening that was not interrupted. -/
theorem collect_of_opening {request : Request} {needsAuth : Bool} {opening : Opening}
    {label : String} {rest : List Answer} {w : World D H}
    (opened : askOld? request needsAuth w =
      (.ok (opening.secret? w.vault), opening.after label rest w)) :
    collect request needsAuth w =
      ((opening.before rest).collected w.vault, (opening.before rest).left label w) := by
  let old := opening.secret? w.vault
  let w₁ := opening.after label rest w
  have follow : collect request needsAuth w =
      Act.andThen (Act.onFailure (fun w => confirm w.answers w) (Act.wipe? old))
        (fun new => Act.value (old, new)) w₁ := by
    rw [collect_eq_andThen]
    exact Act.andThen_of_ok opened
  have held : confirm w₁.answers w₁ =
      ((Dialogue.of rest).result w₁.vault, (opening.before rest).after label w) := by
    refine (confirm_eq rest w₁).trans (Prod.ext rfl ?_)
    simp [w₁, Dialogue.play, Opening.after, Conversation.after, Opening.before,
      Conversation.vault, Conversation.events]
  rw [follow]
  rcases (Dialogue.of rest).ending.result_cases _ with ⟨broken, failed⟩ | ⟨lasted, new, ended⟩
  · -- The failure of the dialogue has the old password wiped.
    rw [Dialogue.result, failed] at held
    have stopped : Act.onFailure (fun w => confirm w.answers w) (Act.wipe? old) w₁ =
        (.error .interrupted, wiped old ((opening.before rest).after label w)) := by
      refine (Act.orElse_of_error held).trans (Act.andThen_of_ok (wipe?_eq old _))
    rw [Act.andThen_of_error stopped]
    have resolved : (opening.before rest).resolution = .interrupted := broken
    simp only [Conversation.collected, Conversation.left, resolved]
    rfl
  · rw [Dialogue.result, ended] at held
    have went : Act.onFailure (fun w => confirm w.answers w) (Act.wipe? old) w₁ = _ :=
      Act.orElse_of_ok held
    rw [Act.andThen_of_ok went]
    have given : (opening.before rest).new? w.vault = new := by
      show (Except.toOption ((Dialogue.of rest).result (opening.vault w.vault))).join = new
      have same : (Dialogue.of rest).result (opening.vault w.vault) = .ok new := ended
      rw [same]
      rfl
    have resolved : (opening.before rest).resolution ≠ .interrupted := lasted
    unfold Conversation.collected Conversation.left
    split
    · contradiction
    all_goals rw [given]; rfl

/-- **The passwords are collected by the conversation of the answers.** -/
theorem collect_eq (request : Request) (needsAuth : Bool) (w : World D H) :
    collect request needsAuth w =
      ((Conversation.of needsAuth w.answers).collected w.vault,
        (Conversation.of needsAuth w.answers).left
          (Policy.oldPasswordPrompt request.username request.authname) w) := by
  obtain ⟨directory, host, v, answers, journal⟩ := w
  cases needsAuth with
  | false =>
      refine collect_of_opening ?_
      simp [askOld?, Act.value, Opening.after, Opening.secret?, Opening.vault, Opening.events]
  | true =>
      match answers with
      | [] | .endOfInput :: rest => exact collect_of_opening rfl
      | .interrupt :: rest =>
          rw [collect_eq_andThen]
          exact Act.andThen_of_error rfl
      | .undecodable :: rest =>
          refine collect_of_opening ?_
          simp [askOld?, askOld, Terminal.entry, Terminal.readSecret, Terminal.receive, Act.note,
            Act.log, Act.fail, Act.bind_eq_andThen, Act.pure_eq_value, Act.andThen, Act.value,
            Opening.after, Opening.secret?, Opening.vault, Opening.events]
      | .text password :: rest =>
          refine collect_of_opening ?_
          simp [askOld?, askOld, Terminal.entry, Terminal.readSecret, Terminal.receive, Act.note,
            Act.bind_eq_andThen, Act.pure_eq_value, Act.andThen, Act.value, Opening.after,
            Opening.secret?, Opening.vault, Opening.events]

/-! ## What a conversation leaves behind -/

theorem Attempt.isSpoken_events (attempt : Attempt) (v : Vault) :
    ∀ event ∈ attempt.events v, event.isSpoken = true := by
  cases attempt <;> simp [Attempt.events, Event.isSpoken]

theorem isSpoken_eventsOf (attempts : List Attempt) (v : Vault) :
    ∀ event ∈ eventsOf attempts v, event.isSpoken = true := by
  induction attempts generalizing v with
  | nil => exact fun _ member => (List.not_mem_nil member).elim
  | cons attempt rest ih =>
      exact List.forall_mem_append.2 ⟨attempt.isSpoken_events v, ih (attempt.vault v)⟩

theorem Ending.isSpoken_events (ending : Ending) (v : Vault) :
    ∀ event ∈ ending.events v, event.isSpoken = true := by
  cases ending <;> simp [Ending.events, Event.isSpoken]

theorem Opening.isSpoken_events (label : String) (opening : Opening) (v : Vault) :
    ∀ event ∈ opening.events label v, event.isSpoken = true := by
  cases opening <;> simp [Opening.events, Event.isSpoken]

/-- **All that happens in a conversation is spoken.** -/
theorem Conversation.isSpoken_events (label : String) (v : Vault) (talk : Conversation) :
    ∀ event ∈ talk.events label v, event.isSpoken = true := by
  obtain ⟨opening, dialogue?, rest⟩ := talk
  refine List.forall_mem_append.2 ⟨opening.isSpoken_events label v, ?_⟩
  cases dialogue? with
  | none => exact fun _ member => (List.not_mem_nil member).elim
  | some d =>
      exact List.forall_mem_append.2 ⟨isSpoken_eventsOf d.attempts _, d.ending.isSpoken_events _⟩

/-- A conversation is none of the directory's business. -/
theorem Conversation.native_events (label : String) (v : Vault) (talk : Conversation) :
    Journal.native (talk.events label v) = [] := by
  refine List.filterMap_eq_nil_iff.2 fun event member => ?_
  have spoken := talk.isSpoken_events label v event member
  cases event <;> first | rfl | cases spoken

theorem Conversation.prompts_events (label : String) (v : Vault) (talk : Conversation) :
    Journal.prompts (talk.events label v) = talk.prompts label := by
  obtain ⟨opening, dialogue?, rest⟩ := talk
  have first : Journal.prompts (opening.events label v) = opening.prompts label := by
    cases opening <;> rfl
  rw [events, Journal.prompts_append, first, prompts]
  cases dialogue? with
  | none => rfl
  | some d => exact congrArg _ (d.prompts_events _)

theorem Opening.custody (label : String) (v : Vault) (opening : Opening) :
    v.Custody (opening.vault v) (Journal.issued (opening.events label v))
      (opening.secret? v).toList := by
  cases opening with
  | typed password => exact .issue password v
  | skipped | ended | unreadable | interrupted => exact .refl v

/-- **A conversation leaves no secret behind but the old password and the new one.** -/
theorem Conversation.custody (label : String) (v : Vault) (talk : Conversation) :
    v.Custody (talk.vault v) (Journal.issued (talk.events label v)) (talk.held v) := by
  obtain ⟨opening, dialogue?, rest⟩ := talk
  have first := opening.custody label v
  rw [events, Journal.issued_append]
  cases dialogue? with
  | none => exact first.trans (.refl _)
  | some d => exact first.trans (d.custody _)

/-- When the conversation is over, the old password is read back as it was typed, if it was. -/
theorem Conversation.reveal_old? (talk : Conversation) (v : Vault) :
    (talk.vault v).reveal? (talk.old? v) = .ok talk.opening.password? := by
  obtain ⟨opening, dialogue?, rest⟩ := talk
  cases opening with
  | typed password =>
      have typed := Vault.contents_issue password v
      suffices read : Vault.reveal _ (v.issue password).1 = .ok password from
        congrArg (Except.map some) read
      refine Vault.reveal_of_contents_eq ?_
      cases dialogue? with
      | none => exact typed
      | some d =>
          exact (Vault.Extends.contents_eq (Vault.fresh_issue password v)
            (d.custody _).kept).trans typed
  | skipped | ended | unreadable | interrupted => rfl

/-- What a conversation leaves unwiped was made in it. -/
theorem Conversation.issued_of_held {talk : Conversation} {v : Vault} {s : SecretId}
    (label : String) (held : s ∈ talk.held v) : s ∈ Journal.issued (talk.events label v) := by
  obtain ⟨opening, dialogue?, rest⟩ := talk
  rw [events, Journal.issued_append, List.mem_append]
  rcases List.mem_append.1 held with first | later
  · left
    cases opening with
    | typed password => exact first
    | skipped | ended | unreadable | interrupted => cases first
  · right
    cases dialogue? with
    | none => cases later
    | some d =>
        show s ∈ Journal.issued (d.events (opening.vault v))
        rw [Dialogue.events, Journal.issued_append]
        exact List.mem_append_right _ (Ending.contents_held later).1

/-- The new password is at hand exactly if it was confirmed, and then it is what was typed. -/
theorem Conversation.new?_of_confirmed {talk : Conversation} {password : String}
    (confirmed : talk.resolution = .confirmed password) (v : Vault) :
    ∃ s, talk.new? v = some s ∧ talk.held v = (talk.old? v).toList ++ [s] ∧
      (talk.vault v).contents s = password.toUTF8 := by
  obtain ⟨opening, _ | ⟨attempts, ending, left⟩, rest⟩ := talk
  · cases confirmed
  · cases ending with
    | confirmed text =>
        cases confirmed
        refine ⟨_, rfl, rfl, ?_⟩
        obtain ⟨_, text, same | same, contents⟩ := @Ending.contents_held
          (.confirmed password) _ _ (List.mem_singleton_self _)
        · cases same
          exact contents
        · cases same
    | ended | blank | interrupted | interruptedRetyping _ => cases confirmed

/-- An interrupted conversation gives no new password. -/
theorem Conversation.new?_of_interrupted {talk : Conversation}
    (interrupted : talk.resolution = .interrupted) (v : Vault) : talk.new? v = none := by
  obtain ⟨opening, _ | ⟨attempts, ending, left⟩, rest⟩ := talk
  · rfl
  · cases ending with
    | interrupted | interruptedRetyping _ => rfl
    | ended | blank | confirmed _ => cases interrupted

theorem Conversation.held_of_declined {talk : Conversation}
    (declined : talk.resolution = .declined) (v : Vault) :
    talk.new? v = none ∧ talk.held v = (talk.old? v).toList := by
  obtain ⟨opening, _ | ⟨attempts, ending, left⟩, rest⟩ := talk
  · cases declined
  · cases ending with
    | ended | blank => exact ⟨rfl, List.append_nil _⟩
    | confirmed _ | interrupted | interruptedRetyping _ => cases declined

/-- The prompt for the old password is the first, if there is one. -/
theorem Conversation.head?_prompts (label : String) (answers : List Answer) :
    ((Conversation.of true answers).prompts label).head? = some label := by
  match answers with
  | [] | .endOfInput :: _ | .undecodable :: _ | .interrupt :: _ | .text _ :: _ => rfl

/-! ## Answers that confirm a password -/

/-- After any number of attempts that fail, the answers are the password twice in a row. -/
def Confirms (answers : List Answer) (password : String) : Prop :=
  password ≠ "" ∧ ∃ (attempts : List Attempt) (rest : List Answer),
    (∀ attempt ∈ attempts, attempt.Possible) ∧
    answers = attempts.flatMap Attempt.answers ++ .text password :: .text password :: rest

/-- **Exactly these answers confirm a password.** -/
theorem Dialogue.ending_eq_confirmed_iff {answers : List Answer} {password : String} :
    (Dialogue.of answers).ending = .confirmed password ↔ Confirms answers password := by
  constructor
  · intro confirmed
    obtain ⟨possible, typed⟩ := Dialogue.possible_of answers
    have lasting : (Dialogue.of answers).ending ≠ .ended := by
      rw [confirmed]
      exact Ending.noConfusion
    have split := Dialogue.answers_eq answers lasting
    rw [confirmed] at typed
    refine ⟨typed, _, (Dialogue.of answers).rest, possible, split.trans ?_⟩
    simp [Dialogue.answers, confirmed, Ending.answers]
  · rintro ⟨typed, attempts, rest, possible, rfl⟩
    rw [Dialogue.of_confirmed possible typed]

/-- A conversation confirms a password if the answers do, those after the old password if it was
asked for. -/
theorem Conversation.resolution_of_confirms {needsAuth : Bool} {answers : List Answer}
    {password : String}
    (confirms : Confirms (if needsAuth then answers.tail else answers) password)
    (typed : needsAuth = true → ∃ old rest, answers = .text old :: rest) :
    (Conversation.of needsAuth answers).resolution = .confirmed password := by
  have ending := Dialogue.ending_eq_confirmed_iff.2 confirms
  cases needsAuth with
  | false =>
      show (Dialogue.of answers).ending.resolution = _
      rw [if_neg Bool.false_ne_true] at ending
      rw [ending]
      rfl
  | true =>
      obtain ⟨old, rest, rfl⟩ := typed rfl
      show (Dialogue.of rest).ending.resolution = _
      rw [if_pos rfl, List.tail_cons] at ending
      rw [ending]
      rfl

/-- A text at the prompt for the old password is the first answer. -/
theorem Conversation.password?_eq_some_iff {answers : List Answer} {old : String} :
    (Conversation.of true answers).opening.password? = some old ↔
      ∃ rest, answers = .text old :: rest := by
  match answers with
  | [] | .endOfInput :: _ | .undecodable :: _ | .interrupt :: _ =>
      simp [Conversation.of, Opening.before, Opening.password?]
  | .text other :: rest => simp [Conversation.of, Opening.before, Opening.password?]

/-- The password is not empty, it is the text of the last two of the answers that were taken,
and these two were given at the prompt for a new password and at the one to type it again. -/
def TypedLast (answers rest : List Answer) (prompts : List String) (password : String) : Prop :=
  password ≠ "" ∧ ∃ (earlier : List Answer) (labels : List String),
    answers = earlier ++ [.text password, .text password] ++ rest ∧
    prompts = labels ++ [newPrompt, retypePrompt] ∧ labels.length = earlier.length

theorem Dialogue.typedLast {answers : List Answer} {password : String}
    (confirmed : (Dialogue.of answers).ending = .confirmed password) :
    TypedLast answers (Dialogue.of answers).rest (Dialogue.of answers).prompts password := by
  obtain ⟨_, typed⟩ := Dialogue.possible_of answers
  have lasting : (Dialogue.of answers).ending ≠ .ended := by
    rw [confirmed]
    exact Ending.noConfusion
  have split := Dialogue.answers_eq answers lasting
  rw [confirmed] at typed
  rw [Dialogue.answers, confirmed] at split
  refine ⟨typed, _, _, split, ?_, length_prompts _⟩
  rw [Dialogue.prompts, confirmed]
  rfl

/-- More prompts, each with its answer, can come before. -/
theorem TypedLast.after {answers rest : List Answer} {prompts : List String} {password : String}
    (typed : TypedLast answers rest prompts password) (label : String) (answer : Answer) :
    TypedLast (answer :: answers) rest (label :: prompts) password := by
  obtain ⟨nonempty, earlier, labels, rfl, rfl, same⟩ := typed
  exact ⟨nonempty, answer :: earlier, label :: labels, rfl, rfl, congrArg (· + 1) same⟩

/-- **A confirmed password is what was typed last.** -/
theorem Conversation.typedLast {needsAuth : Bool} {answers : List Answer} {password : String}
    (confirmed : (Conversation.of needsAuth answers).resolution = .confirmed password)
    (label : String) :
    TypedLast answers (Conversation.of needsAuth answers).rest
      ((Conversation.of needsAuth answers).prompts label) password := by
  have follow (answers : List Answer)
      (resolved : (Dialogue.of answers).ending.resolution = .confirmed password) :
      TypedLast answers (Dialogue.of answers).rest (Dialogue.of answers).prompts password := by
    refine Dialogue.typedLast ?_
    cases ending : (Dialogue.of answers).ending <;> rw [ending] at resolved <;> cases resolved
    rfl
  cases needsAuth with
  | false => exact follow answers confirmed
  | true =>
      match answers with
      | [] => cases confirmed
      | .endOfInput :: rest | .undecodable :: rest | .text _ :: rest =>
          exact (follow rest confirmed).after label _
      | .interrupt :: rest => cases confirmed

end PasswordChange.Confirmation
