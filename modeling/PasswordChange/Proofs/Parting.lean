import PasswordChange.Proofs.Conversation

/-!
# How a conversation parts with the user

Every prompt of a conversation takes one answer, or finds that there are no more.

* `Conversation.interrupted_iff` says that a conversation is interrupted exactly if an interrupt is
  among the answers that its prompts take.
* `Conversation.said_of_declined` says that a conversation without a new password ends with the line
  that the password is unchanged.
-/

namespace PasswordChange.Confirmation

theorem Attempt.interrupt_not_mem (attempt : Attempt) : Answer.interrupt ∉ attempt.answers := by
  cases attempt <;> simp [Attempt.answers]

theorem Attempt.length_prompts (attempt : Attempt) :
    attempt.prompts.length = attempt.answers.length := by
  cases attempt <;> rfl

/-- An attempt that failed does not decide whether the dialogue is interrupted. -/
theorem Dialogue.interrupt_mem_after (attempt : Attempt) (d : Dialogue) (answers : List Answer) :
    .interrupt ∈ (attempt.answers ++ answers).take (d.after attempt).prompts.length ↔
      .interrupt ∈ answers.take d.prompts.length := by
  have prompts : (d.after attempt).prompts.length =
      attempt.answers.length + d.prompts.length := by
    simp [Dialogue.prompts, Dialogue.after, attempt.length_prompts]
  rw [prompts, List.take_length_add_append, List.mem_append]
  exact or_iff_right attempt.interrupt_not_mem

/-- **A dialogue is interrupted exactly if an interrupt is among the answers to its prompts.** -/
theorem Dialogue.interrupted_iff (answers : List Answer) :
    (Dialogue.of answers).ending.resolution = .interrupted ↔
      .interrupt ∈ answers.take (Dialogue.of answers).prompts.length := by
  induction answers using Dialogue.of.induct with
  | case1 | case2 | case3 => simp [Dialogue.of, Ending.resolution, Dialogue.prompts, Ending.prompts]
  | case4 rest ih =>
      rw [Dialogue.of]
      exact ih.trans (interrupt_mem_after .unreadable _ rest).symm
  | case5 rest =>
      rw [Dialogue.of.eq_def]
      simp [Ending.resolution, Dialogue.prompts, Ending.prompts]
  | case6 first typed =>
      rw [Dialogue.of, if_neg typed]
      simp [Ending.resolution, Dialogue.prompts, Ending.prompts, Attempt.prompts]
  | case7 first typed rest ih =>
      rw [Dialogue.of, if_neg typed]
      exact ih.trans (interrupt_mem_after (.abandoned first) _ rest).symm
  | case8 first typed rest =>
      rw [Dialogue.of, if_neg typed]
      simp [Ending.resolution, Dialogue.prompts, Ending.prompts]
  | case9 first typed rest ih =>
      rw [Dialogue.of, if_neg typed]
      exact ih.trans (interrupt_mem_after (.garbled first) _ rest).symm
  | case10 first rest typed =>
      rw [Dialogue.of, if_neg typed, if_pos rfl]
      simp [Ending.resolution, Dialogue.prompts, Ending.prompts]
  | case11 first typed second rest different ih =>
      rw [Dialogue.of, if_neg typed, if_neg different]
      exact ih.trans (interrupt_mem_after (.mismatched first second) _ rest).symm

namespace Conversation

variable (label : String)

/-- **A conversation is interrupted exactly if an interrupt is among the answers to its
prompts.** -/
theorem interrupted_iff (needsAuth : Bool) (answers : List Answer) :
    (Conversation.of needsAuth answers).resolution = .interrupted ↔
      .interrupt ∈ answers.take ((Conversation.of needsAuth answers).prompts label).length := by
  -- The prompt for the old password takes the first answer.
  have later (opening : Opening) (shown : opening.prompts label = [label]) (answer : Answer)
      (other : Answer.interrupt ≠ answer) (rest : List Answer) :
      (opening.before rest).resolution = .interrupted ↔
        .interrupt ∈ (answer :: rest).take ((opening.before rest).prompts label).length := by
    have prompts : ((opening.before rest).prompts label).length =
        (Dialogue.of rest).prompts.length + 1 := by
      simp [Conversation.prompts, Opening.before, shown, Nat.add_comm]
    rw [prompts, List.take_succ_cons, List.mem_cons, or_iff_right other]
    exact Dialogue.interrupted_iff rest
  cases needsAuth with
  | false => exact Dialogue.interrupted_iff answers
  | true =>
      cases answers with
      | nil => simp [Conversation.of, Opening.before, resolution, Dialogue.of, Ending.resolution]
      | cons answer rest =>
          cases answer with
          | endOfInput => exact later .ended rfl _ (by decide) rest
          | undecodable => exact later .unreadable rfl _ (by decide) rest
          | text password =>
              exact later (.typed password) rfl (.text password) (fun same => by cases same) rest
          | interrupt => simp [Conversation.of, resolution, Conversation.prompts, Opening.prompts]

/-- **A conversation that ends without a new password says last that the old one stays.** -/
theorem said_of_declined {talk : Conversation} (declined : talk.resolution = .declined)
    (v : Vault) :
    (Journal.said (talk.events label v)).getLast? = some unchangedLine := by
  obtain ⟨opening, _ | d, rest⟩ := talk
  · cases declined
  have last (v : Vault) :
      (Journal.said (d.ending.events v)).getLast? = some unchangedLine := by
    cases ended : d.ending with
    | ended | blank => rfl
    | confirmed _ | interrupted | interruptedRetyping _ =>
        change d.ending.resolution = _ at declined
        rw [ended] at declined
        cases declined
  change (Journal.said (opening.events label v ++ (eventsOf d.attempts (opening.vault v) ++
    d.ending.events (vaultAfter d.attempts (opening.vault v))))).getLast? = _
  unfold Journal.said at last ⊢
  rw [List.filterMap_append, List.filterMap_append, List.getLast?_append, List.getLast?_append,
    last]
  rfl

end Conversation

end PasswordChange.Confirmation
