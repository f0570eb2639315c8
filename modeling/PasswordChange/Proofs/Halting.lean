import PasswordChange.Proofs.Course

/-!
# The confirmation loop comes to its end

Nothing in the confirmation loop limits the number of its rounds. It ends nevertheless, since a
round that does not end it has used up an answer for good, and once there are no answers left the
input has ended.

* `Act.Loops` is a loop without a limit, and `round` the body of the confirmation loop, one reading
  after the other.
* `loops_confirm` says that the recursion on the answers is this loop.
* `round_consumes` is what one round costs, `loops_consumes` what all of them do.
* `collect_halts` is the main result.
-/

namespace PasswordChange

variable {D H : Type}

namespace Act

variable {α : Type} {body : Act D H (Option α)} {w w₁ w₂ : World D H}

/-- The body is gone through again and again until it gives a value or fails, however often that
takes. -/
inductive Loops (body : Act D H (Option α)) : World D H → Except Failure α → World D H → Prop
  | again {w w₁ w' : World D H} {result : Except Failure α} :
    body w = (.ok none, w₁) → Loops body w₁ result w' → Loops body w result w'
  | ended {w w' : World D H} {a : α} :
    body w = (.ok (some a), w') → Loops body w (.ok a) w'
  | failed {w w' : World D H} {e : Failure} :
    body w = (.error e, w') → Loops body w (.error e) w'

/-- A loop ends in one way at most. -/
theorem Loops.unique {result result' : Except Failure α} (loops : Loops body w result w₁)
    (loops' : Loops body w result' w₂) : result = result' ∧ w₁ = w₂ := by
  induction loops with
  | again on _ ih =>
      cases loops' with
      | again on' rest' =>
          rw [on] at on'
          cases on'
          exact ih rest'
      | ended halted | failed halted =>
          rw [on] at halted
          cases halted
  | ended halted | failed halted =>
      cases loops' with
      | again on' _ =>
          rw [halted] at on'
          cases on'
      | ended halted' | failed halted' =>
          rw [halted] at halted'
          cases halted' <;> exact ⟨rfl, rfl⟩

end Act

namespace Confirmation

open Terminal (Entry readSecret entry)

variable {w w₁ w' : World D H}

/-! ## Readings -/

/-- So many times a secret was read: each time a prompt was shown and the next answer was used up,
if there was one. -/
structure Consumes (count : Nat) (w w' : World D H) : Prop where
  answers : w'.answers = w.answers.drop count
  journal : ∃ added, w'.journal = w.journal ++ added ∧ (Journal.prompts added).length = count

theorem Consumes.trans {first second : Nat} (consumes : Consumes first w w₁)
    (consumes' : Consumes second w₁ w') : Consumes (first + second) w w' := by
  obtain ⟨added, journal, shown⟩ := consumes.journal
  obtain ⟨added', journal', shown'⟩ := consumes'.journal
  refine ⟨?_, added ++ added', ?_, ?_⟩
  · rw [consumes'.answers, consumes.answers, List.drop_drop]
  · rw [journal', journal, List.append_assoc]
  · rw [Journal.prompts_append, List.length_append, shown, shown']

/-- Nothing is read where no prompt is shown and the answers stay. -/
theorem Consumes.spoken {added : List Event} (answers : w'.answers = w.answers)
    (journal : w'.journal = w.journal ++ added) (silent : Journal.prompts added = []) :
    Consumes 0 w w' :=
  ⟨answers, added, journal, by rw [silent, List.length_nil]⟩

theorem Consumes.length_since {count : Nat} (consumes : Consumes count w w') :
    (w.since w').prompts.length = count := by
  obtain ⟨added, journal, shown⟩ := consumes.journal
  rw [World.since_of_journal_eq journal, shown]

/-- A reading is one, however it ends. -/
theorem consumes_readSecret (label : String) (w : World D H) :
    Consumes 1 w (entry (readSecret label) w).2 := by
  obtain ⟨directory, host, vault, answers, journal⟩ := w
  rcases answers with _ | ⟨_ | _ | _ | _, rest⟩
  case cons.text s =>
    exact ⟨rfl, [.prompted label, .issued (vault.issue s).1], List.append_assoc .., rfl⟩
  all_goals exact ⟨rfl, [.prompted label], rfl, rfl⟩

/-- Without any answers left the input has ended. -/
theorem readSecret_of_exhausted (label : String) (exhausted : w.answers = []) :
    (entry (readSecret label) w).1 = .ok .ended := by
  simp only [entry, readSecret, exhausted]
  rfl

/-- The readings of the recursion on the answers take the next answer, as every reading does. -/
theorem take_eq (label : String) (w : World D H) :
    take label (w.answers.headD .endOfInput) w.answers.tail w = entry (readSecret label) w := by
  obtain ⟨directory, host, vault, answers, journal⟩ := w
  cases answers <;> rfl

/-! ## One round -/

/-- The second half of a round: the new password is confirmed by typing it again, or there is to be
another round. -/
def check (new : SecretId) : Act D H (Option (Option SecretId)) := do
  match ← entry (readSecret retypePrompt) with
  | .unreadable =>
    Act.wipe new
    Terminal.say mismatchLine
    return none
  | .ended =>
    Act.wipe new
    return none
  | .typed again =>
    let matched ← Act.inspect (·.agree again new)
    Act.wipe again
    if matched then return some (some new)
    else
      Act.wipe new
      Terminal.say mismatchLine
      return none

/-- The body of the confirmation loop: it gives the new password if it was confirmed, no password if
the user declined, and nothing if there is to be another round. -/
def round : Act D H (Option (Option SecretId)) := do
  match ← entry (readSecret newPrompt) with
  | .unreadable =>
    Terminal.say mismatchLine
    return none
  | .ended =>
    Terminal.say unchangedLine
    return some none
  | .typed new =>
    if ← Act.inspect (·.isEmpty new) then
      Act.wipe new
      Terminal.say unchangedLine
      return some none
    else check new

/-- What comes of the loop, given what came of its round. -/
def goOn : Except Failure (Option (Option SecretId)) × World D H →
    Except Failure (Option SecretId) × World D H
  | (.ok none, w) => confirm w.answers w
  | (.ok (some result), w) => (.ok result, w)
  | (.error e, w) => (.error e, w)

theorem confirm_eq_choose (w : World D H) :
    confirm w.answers w =
      choose (w.answers.headD .endOfInput) w.answers.tail (confirm w.answers.tail)
        (fun new => retype new (w.answers.tail.headD .endOfInput) w.answers.tail.tail
          (confirm w.answers.tail.tail)) w := by
  obtain ⟨directory, host, vault, answers, journal⟩ := w
  rcases answers with _ | ⟨first, _ | ⟨second, rest⟩⟩ <;> rfl

theorem retype_eq_goOn (new : SecretId) (w : World D H) :
    retype new (w.answers.headD .endOfInput) w.answers.tail (confirm w.answers.tail) w =
      goOn (check new w) := by
  rcases second : entry (readSecret retypePrompt) w with ⟨e | entered, w₁⟩
  case error =>
    simp only [retype, take_eq, check, Act.bind_eq_andThen, Act.andThen, second]
    rfl
  case ok =>
    have left : w.answers.tail = w₁.answers := by
      simpa [second] using (consumes_readSecret retypePrompt w).answers.symm
    simp only [retype, take_eq, check, Act.bind_eq_andThen, Act.andThen, second]
    rw [left]
    cases entered with
    | unreadable | ended => rfl
    | typed again =>
        simp only [Act.andThen, Act.inspect, Act.wipe]
        split <;> rfl

/-- **The recursion on the answers makes one round and goes on.** -/
theorem confirm_eq_goOn (w : World D H) : confirm w.answers w = goOn (round w) := by
  rw [confirm_eq_choose]
  rcases first : entry (readSecret newPrompt) w with ⟨e | entered, w₁⟩
  case error =>
    simp only [choose, take_eq, round, Act.bind_eq_andThen, Act.andThen, first]
    rfl
  case ok =>
    have left : w.answers.tail = w₁.answers := by
      simpa [first] using (consumes_readSecret newPrompt w).answers.symm
    simp only [choose, take_eq, round, Act.bind_eq_andThen, Act.andThen, first]
    rw [left]
    cases entered with
    | unreadable | ended => rfl
    | typed new =>
        simp only [Act.andThen, Act.inspect]
        split
        · rfl
        · exact retype_eq_goOn new w₁

/-! ## What a round costs -/

/-- The second half of a round is one reading. -/
theorem consumes_check (new : SecretId) (w : World D H) : Consumes 1 w (check new w).2 := by
  have reading := consumes_readSecret retypePrompt w
  rcases second : entry (readSecret retypePrompt) w with ⟨e | entered, w₁⟩ <;>
    rw [second] at reading <;>
    simp only [check, Act.bind_eq_andThen, Act.andThen, second]
  case error => exact reading
  case ok =>
    have after {w' : World D H} (rest : Consumes 0 w₁ w') : Consumes 1 w w' := reading.trans rest
    cases entered with
    | unreadable => exact after (.spoken rfl rfl rfl)
    | ended => exact after (.spoken rfl (List.append_nil _).symm rfl)
    | typed again =>
        simp only [Act.andThen, Act.inspect, Act.wipe]
        split
        · exact after (.spoken rfl (List.append_nil _).symm rfl)
        · exact after (.spoken rfl rfl rfl)

/-- **A round reads once or twice.** If there are no answers left, it reads once and ends the
loop. -/
theorem round_consumes (w : World D H) :
    ∃ count, Consumes count w (round w).2 ∧ 1 ≤ count ∧ count ≤ 2 ∧
      (w.answers = [] → count = 1 ∧ (round w).1 ≠ .ok none) := by
  have reading := consumes_readSecret newPrompt w
  have exhausted := readSecret_of_exhausted (w := w) newPrompt
  rcases first : entry (readSecret newPrompt) w with ⟨e | entered, w₁⟩ <;>
    rw [first] at reading exhausted <;>
    simp only [round, Act.bind_eq_andThen, Act.andThen, first]
  case error => exact ⟨1, reading, by simp⟩
  case ok =>
    have after {w' : World D H} (rest : Consumes 0 w₁ w') : Consumes 1 w w' := reading.trans rest
    cases entered with
    | unreadable =>
        exact ⟨1, after (.spoken rfl rfl rfl), by simp, by simp,
          fun none => by cases exhausted none⟩
    | ended => exact ⟨1, after (.spoken rfl rfl rfl), by simp, by simp, fun _ => ⟨rfl, nofun⟩⟩
    | typed new =>
        have some : w.answers ≠ [] := fun none => by cases exhausted none
        simp only [Act.andThen, Act.inspect]
        split
        · exact ⟨1, after (.spoken rfl rfl rfl), by simp, by simp, fun none => absurd none some⟩
        · exact ⟨2, reading.trans (consumes_check new w₁), by simp, by simp,
            fun none => absurd none some⟩

/-- How often the loop can read at most while there are so many answers to come. -/
def patience (n : Nat) : Nat :=
  if n = 0 then 1 else n + 2

/-- After a round there is only so much patience left. -/
theorem add_patience_le {n count : Nat} (most : count ≤ 2) (least : 1 ≤ count) (some : n ≠ 0) :
    count + patience (n - count) ≤ patience n := by
  unfold patience
  split <;> omega

/-- So there is after the prompt for the old password, which is shown once or not at all. -/
theorem add_patience_le_add {n count : Nat} (most : count ≤ 1) :
    count + patience (n - count) ≤ n + 2 := by
  unfold patience
  split <;> omega

/-- **However the loop ends, it has read no more often than the answers to come allow.** -/
theorem loops_consumes {result : Except Failure (Option SecretId)}
    (loops : Act.Loops round w result w') :
    ∃ count, Consumes count w w' ∧ count ≤ patience w.answers.length := by
  have last {w w' : World D H} (halted : (round w).2 = w') :
      ∃ count, Consumes count w w' ∧ count ≤ patience w.answers.length := by
    obtain ⟨count, consumes, _, most, exhausted⟩ := round_consumes w
    refine ⟨count, halted ▸ consumes, ?_⟩
    unfold patience
    split
    next none => exact Nat.le_of_eq (exhausted (List.length_eq_zero_iff.1 none)).1
    next => omega
  induction loops with
  | @again w w₁ w' result on _ ih =>
      obtain ⟨count, consumes, least, most, exhausted⟩ := round_consumes w
      obtain ⟨further, rest, bounded⟩ := ih
      rw [on] at consumes exhausted
      have some : w.answers.length ≠ 0 := fun none =>
        (exhausted (List.length_eq_zero_iff.1 none)).2 rfl
      have left : w₁.answers.length = w.answers.length - count := by
        rw [consumes.answers, List.length_drop]
      rw [left] at bounded
      have spent := add_patience_le most least some
      exact ⟨count + further, consumes.trans rest, by omega⟩
  | ended halted | failed halted => exact last (congrArg Prod.snd halted)

/-- **The recursion on the answers is the loop without a limit.** A round that does not end the loop
leaves fewer answers. -/
theorem loops_confirm (w : World D H) :
    Act.Loops round w (confirm w.answers w).1 (confirm w.answers w).2 := by
  generalize size : w.answers.length = n
  induction n using Nat.strongRecOn generalizing w with
  | ind n ih =>
      rw [confirm_eq_goOn]
      rcases went : round w with ⟨e | _ | result, w₁⟩
      · exact .failed went
      · obtain ⟨count, consumes, least, most, exhausted⟩ := round_consumes w
        rw [went] at consumes exhausted
        have some : w.answers ≠ [] := fun none => (exhausted none).2 rfl
        have positive := List.length_pos_iff.2 some
        have fewer : w₁.answers.length < n := by
          rw [consumes.answers, List.length_drop]
          omega
        exact .again went (ih _ fewer w₁ rfl)
      · exact .ended went

/-! ## The collection of the passwords -/

/-- The end of the collection, given that of the loop: if the loop has failed, the old password is
wiped. -/
def finish (old : Option SecretId) :
    Except Failure (Option SecretId) → World D H →
      Except Failure (Option SecretId × Option SecretId) × World D H
  | .ok new, w => (.ok (old, new), w)
  | .error e, w => (.error e, wiped old w)

/-- The collection of the passwords with a loop that has no limit: the old password is asked for if
an identity must be proved, and then the loop is entered. -/
inductive Collects (request : Request) (needsAuth : Bool) (w : World D H) :
    Except Failure (Option SecretId × Option SecretId) × World D H → Prop
  | stopped {e : Failure} {w' : World D H} :
    askOld? request needsAuth w = (.error e, w') → Collects request needsAuth w (.error e, w')
  | looped {old : Option SecretId} {result : Except Failure (Option SecretId)}
      {w₁ w' : World D H} :
    askOld? request needsAuth w = (.ok old, w₁) → Act.Loops round w₁ result w' →
    Collects request needsAuth w (finish old result w')

variable {request : Request} {needsAuth : Bool}

theorem Collects.unique {ended ended' : Except Failure (Option SecretId × Option SecretId) ×
      World D H} (collects : Collects request needsAuth w ended)
    (collects' : Collects request needsAuth w ended') : ended = ended' := by
  cases collects with
  | stopped asked =>
      cases collects' with
      | stopped asked' =>
          cases asked.symm.trans asked'
          rfl
      | looped asked' _ => cases asked.symm.trans asked'
  | looped asked loops =>
      cases collects' with
      | stopped asked' => cases asked.symm.trans asked'
      | looped asked' loops' =>
          cases asked.symm.trans asked'
          obtain ⟨rfl, rfl⟩ := loops.unique loops'
          rfl

theorem collects_collect (request : Request) (needsAuth : Bool) (w : World D H) :
    Collects request needsAuth w (collect request needsAuth w) := by
  rw [collect_eq_andThen]
  rcases asked : askOld? request needsAuth w with ⟨e | old, w₁⟩
  · rw [Act.andThen_of_error asked]
    exact .stopped asked
  · rw [Act.andThen_of_ok asked]
    have loops := loops_confirm w₁
    rcases went : confirm w₁.answers w₁ with ⟨e | new, w'⟩ <;> rw [went] at loops
    · have failed : Act.onFailure (fun w => confirm w.answers w) (Act.wipe? old) w₁ =
          (.error e, wiped old w') :=
        (Act.orElse_of_error went).trans (Act.andThen_of_ok (wipe?_eq old w'))
      rw [Act.andThen_of_error failed]
      exact .looped asked loops
    · have ended : Act.onFailure (fun w => confirm w.answers w) (Act.wipe? old) w₁ =
          (.ok new, w') := Act.orElse_of_ok went
      rw [Act.andThen_of_ok ended]
      exact .looped asked loops

/-- The prompt for the old password is one reading, or there is none. -/
theorem consumes_askOld? (request : Request) (needsAuth : Bool) (w : World D H) :
    Consumes needsAuth.toNat w (askOld? request needsAuth w).2 := by
  cases needsAuth with
  | false => exact .spoken rfl (List.append_nil _).symm rfl
  | true =>
      have reading := consumes_readSecret
        (Policy.oldPasswordPrompt request.username request.authname) w
      change Consumes 1 w (askOld request w).2
      rcases first : entry (readSecret (Policy.oldPasswordPrompt request.username
        request.authname)) w with ⟨e | entered, w₁⟩ <;>
        rw [first] at reading <;>
        simp only [askOld, Act.bind_eq_andThen, Act.andThen, first]
      case error => exact reading
      case ok =>
        cases entered with
        | typed | ended => exact reading
        | unreadable =>
            let warning : Log.Entry :=
              ⟨.flow, .warning, "old password could not be decoded, sending none"⟩
            have logged : Consumes 0 w₁ { w₁ with journal := w₁.journal ++ [.logged warning] } :=
              .spoken rfl rfl rfl
            exact reading.trans logged

/-- Nothing is read at the end of the collection. -/
theorem consumes_finish (old : Option SecretId) (result : Except Failure (Option SecretId))
    (w : World D H) : Consumes 0 w (finish old result w).2 := by
  cases result <;> exact .spoken rfl (List.append_nil _).symm rfl

/-- However the collection ends, it has read at most twice more than there were answers to come. -/
theorem Collects.consumes {ended : Except Failure (Option SecretId × Option SecretId) × World D H}
    (collects : Collects request needsAuth w ended) :
    ∃ count, Consumes count w ended.2 ∧ count ≤ w.answers.length + 2 := by
  have asking := consumes_askOld? request needsAuth w
  have once := needsAuth.toNat_le
  cases collects with
  | stopped asked =>
      rw [asked] at asking
      exact ⟨_, asking, by omega⟩
  | @looped old result w₁ w' asked loops =>
      rw [asked] at asking
      obtain ⟨count, reading, bounded⟩ := loops_consumes loops
      rw [asking.answers, List.length_drop] at bounded
      have spent := add_patience_le_add (n := w.answers.length) once
      exact ⟨_, asking.trans (reading.trans (consumes_finish old result w')), by omega⟩

/-! ## The main result -/

/-- Answers that cannot be decoded, and then a text that is typed once. -/
def stubborn (n : Nat) : List Answer :=
  List.replicate n .undecodable ++ [.text "new"]

/-- The dialogue of these answers reads once for each of them and twice after the end of input. -/
theorem length_prompts_stubborn (n : Nat) :
    (Dialogue.of (stubborn n)).prompts.length = n + 3 := by
  induction n with
  | zero => decide
  | succ n ih =>
      have next : Dialogue.of (stubborn (n + 1)) = (Dialogue.of (stubborn n)).after .unreadable :=
        rfl
      rw [next]
      change (newPrompt :: (Dialogue.of (stubborn n)).prompts).length = _
      rw [List.length_cons, ih]

theorem journal_left (label : String) (talk : Conversation) (w : World D H) :
    (talk.left label w).journal = w.journal ++ talk.events label w.vault := by
  unfold Conversation.left
  split <;> rfl

/-- **The passwords are collected without a limit to the attempts, and the collection ends.** What
collects them is what comes of a loop without a limit, which ends in this way and no other. It has
then read at most twice more than there were answers to come; and from two answers on there are
always some with which it reads so often. -/
theorem collect_halts (request : Request) (needsAuth : Bool) (w : World D H) :
    Collects request needsAuth w (collect request needsAuth w) ∧
    (∀ ended, Collects request needsAuth w ended → ended = collect request needsAuth w) ∧
    (w.since (collect request needsAuth w).2).prompts.length ≤ w.answers.length + 2 ∧
    ∀ n, ∃ answers : List Answer, answers.length = n + 2 ∧
      let patient : World D H := { w with answers }
      (patient.since (collect request needsAuth patient).2).prompts.length =
        answers.length + 2 := by
  have collects := collects_collect request needsAuth w
  refine ⟨collects, fun ended other => other.unique collects, ?_, fun n => ?_⟩
  · obtain ⟨count, consumes, bounded⟩ := collects.consumes
    rw [consumes.length_since]
    exact bounded
  · have size : (stubborn (n + 1)).length = n + 2 := by
      simp [stubborn]
    refine ⟨stubborn (n + 1), size, ?_⟩
    intro patient
    rw [collect_eq, World.since_of_journal_eq (journal_left ..), Conversation.prompts_events, size]
    cases needsAuth with
    | false => exact length_prompts_stubborn (n + 1)
    | true =>
        change ([_] ++ (Dialogue.of (stubborn n)).prompts).length = _
        rw [List.length_append, length_prompts_stubborn]
        exact Nat.add_comm ..

end Confirmation

end PasswordChange
