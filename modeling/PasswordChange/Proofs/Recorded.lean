import PasswordChange.Proofs.Tandem

/-!
# Directories that remember their replies

A `Recorded` directory is a directory together with the list of its replies: one `Reply` for every
operation that asks it for something, in the order in which the operations came. Nothing else is
different, so where a directory is coupled with another one, the recorded directory is as well.
-/

namespace PasswordChange

namespace Directory

/-- What a directory replies to an operation that asks it for something. -/
inductive Reply where
  | opened
  /-- There is no such record. -/
  | absent
  | values (values : List (Option String))
  | accepted
  | refused (error : DirectoryError)
  /-- The operation failed, and not by an error of the directory. -/
  | failed
  deriving DecidableEq, Repr

namespace Reply

/-- The reply to an operation, where `read` says what its value means. -/
def ofOutcome {α : Type} (read : α → Reply) : Except Failure α → Reply
  | .ok a => read a
  | .error (.directory e) => refused e
  | .error _ => failed

def ofRecord? : Option HandleId → Reply
  | some _ => opened
  | none => absent

end Reply

/-- A directory and its replies. -/
structure Recorded (D : Type) where
  directory : D
  replies : List Reply := []

namespace Recorded

variable {D α : Type}

/-- An operation that asks for something, with its reply. -/
def ask (read : α → Reply) (operation : D → Step D α) (r : Recorded D) : Step (Recorded D) α :=
  let step := operation r.directory
  ⟨step.outcome, ⟨step.state, r.replies ++ [.ofOutcome read step.outcome]⟩, step.events⟩

/-- An operation that asks for nothing. -/
def pass (operation : D → Step D α) (r : Recorded D) : Step (Recorded D) α :=
  let step := operation r.directory
  ⟨step.outcome, ⟨step.state, r.replies⟩, step.events⟩

instance [Directory D] : Directory (Recorded D) where
  createSession options := ask (fun _ => .opened) (Directory.createSession options)
  openNodeByName session name := ask (fun _ => .opened) (Directory.openNodeByName session name)
  openNodeByType session nodeType :=
    ask (fun _ => .opened) (Directory.openNodeByType session nodeType)
  copyRecord node recordType name :=
    ask Reply.ofRecord? (Directory.copyRecord node recordType name)
  copyValues record attributeName := ask Reply.values (Directory.copyValues record attributeName)
  setCredentials v record recordType authType items :=
    ask (fun _ => .accepted) (Directory.setCredentials v record recordType authType items)
  changePassword v record old new :=
    ask (fun _ => .accepted) (Directory.changePassword v record old new)
  close handle := pass (Directory.close handle)
  display handle r := Directory.display handle r.directory
  undergo deed r := { r with directory := Directory.undergo deed r.directory }

/-- The replies become only more. -/
theorem sessionFrame [Directory D] {R : Recorded D → Recorded D → Prop}
    (grown : ∀ r r' : Recorded D, r.replies <+: r'.replies → R r r')
    (trans : ∀ {r r' r'' : Recorded D}, R r r' → R r' r'' → R r r'') :
    SessionFrame (D := Recorded D) R fun _ => True where
  refl r := grown r r (List.prefix_refl _)
  trans := trans
  undergo _ r := grown r _ (List.prefix_refl _)
  copyValues _ _ r := ⟨grown r _ (List.prefix_append _ _), fun _ _ => trivial⟩
  setCredentials _ _ _ _ _ r := ⟨grown r _ (List.prefix_append _ _), fun _ _ => trivial⟩
  changePassword _ _ _ _ r := ⟨grown r _ (List.prefix_append _ _), fun _ _ => trivial⟩
  spoken _ _ := trivial
  openNodeByName _ _ r := ⟨grown r _ (List.prefix_append _ _), fun _ _ => trivial⟩
  openNodeByType _ _ r := ⟨grown r _ (List.prefix_append _ _), fun _ _ => trivial⟩
  copyRecord _ _ _ r := ⟨grown r _ (List.prefix_append _ _), fun _ _ => trivial⟩
  close _ r := ⟨grown r _ (List.prefix_refl _), fun _ _ => trivial⟩

end Recorded

end Directory

open Directory (Recorded Reply)

variable {D₁ D₂ α : Type}

namespace Comparison

/-- The same comparison, made with a recorded directory. -/
def recorded (cmp : Comparison D₁) : Comparison (Recorded D₁) where
  rename := cmp.rename
  error := cmp.error
  events := cmp.events
  ahead r := cmp.ahead r.directory
  error_refl := cmp.error_refl
  render_eq := cmp.render_eq
  code_iff := cmp.code_iff
  common := cmp.common
  append := cmp.append

variable {cmp : Comparison D₁} {S E : D₁ → D₂ → Prop} {T : α → α → D₁ → D₂ → Prop}
  {operation₁ : D₁ → Step D₁ α} {operation₂ : D₂ → Step D₂ α}

theorem Fails.recorded {e e' : Failure} (fails : cmp.Fails e e') : cmp.recorded.Fails e e' := by
  cases fails with
  | same => exact .same e
  | directory same => exact .directory same
  | daemonLoad load same => exact .daemonLoad load same

/-- What is true of a directory is said of a recorded one. -/
def Within (S : D₁ → D₂ → Prop) (r : Recorded D₁) (d : D₂) : Prop :=
  S r.directory d

theorem Tandem.recorded (tandem : cmp.Tandem S operation₁ operation₂ T E) (read : α → Reply)
    {T' : α → α → Recorded D₁ → D₂ → Prop}
    (within : ∀ a b r d, T a b r.directory d → T' a b r d) :
    cmp.recorded.Tandem (Within S) (Recorded.ask read operation₁) operation₂ T' (Within E) := by
  intro r d related ahead
  have steps := tandem r.directory d related ahead
  unfold Recorded.ask
  generalize operation₁ r.directory = step₁ at steps ⊢
  generalize operation₂ d = step₂ at steps ⊢
  cases steps with
  | ok after same => exact .ok (within _ _ _ _ after) same
  | fail fails after same => exact .fail fails.recorded after same

theorem Closes.recorded [Directory D₁] [Directory D₂] {S' : D₁ → D₂ → Prop} {i j : HandleId}
    (closes : cmp.Closes S i j S') : cmp.recorded.Closes (Within S) i j (Within S') :=
  fun r d related ahead => closes r.directory d related ahead

end Comparison

open Comparison (Within)

namespace Coupling

variable [Directory D₁] [Directory D₂] {cmp : Comparison D₁} {request : Request}

/-- **A coupling is one of the recorded directory as well.** -/
def recorded (pair : Coupling D₁ D₂ cmp request) :
    Coupling (Recorded D₁) D₂ cmp.recorded request where
  idle := Within pair.idle
  session s₁ s₂ := Within (pair.session s₁ s₂)
  entered s₁ s₂ n₁ n₂ := Within (pair.entered s₁ s₂ n₁ n₂)
  node n₁ n₂ := Within (pair.node n₁ n₂)
  record n₁ n₂ r₁ r₂ := Within (pair.record n₁ n₂ r₁ r₂)
  frame :=
    { refl := fun r => pair.frame.refl r.directory
      trans := pair.frame.trans
      undergo := fun deed r => pair.frame.undergo deed r.directory
      copyValues := fun i name r => pair.frame.copyValues i name r.directory
      setCredentials := fun v i type kind items r =>
        pair.frame.setCredentials v i type kind items r.directory
      changePassword := fun v i old new r => pair.frame.changePassword v i old new r.directory
      spoken := fun _ _ => trivial
      openNodeByName := fun i name r => pair.frame.openNodeByName i name r.directory
      openNodeByType := fun i type r => pair.frame.openNodeByType i type r.directory
      copyRecord := fun i type name r => pair.frame.copyRecord i type name r.directory
      close := fun i r => pair.frame.close i r.directory }
  earlier options r := pair.earlier options r.directory
  undergo deed r d related := pair.undergo deed r.directory d related
  createSession options := (pair.createSession options).recorded _ fun _ _ _ _ => id
  openNodeByName s₁ s₂ name := (pair.openNodeByName s₁ s₂ name).recorded _ fun _ _ _ _ => id
  openNodeByType s₁ s₂ := (pair.openNodeByType s₁ s₂).recorded _ fun _ _ _ _ => id
  copyRecord n₁ n₂ := (pair.copyRecord n₁ n₂).recorded _ fun record? record?' _ _ related => by
    rcases record? with _ | r₁ <;> rcases record?' with _ | r₂ <;> exact related
  copyValues n₁ n₂ r₁ r₂ := (pair.copyValues n₁ n₂ r₁ r₂).recorded _ fun _ _ _ _ => id
  setCredentials n₁ n₂ r₁ r₂ readOld readNew :=
    (pair.setCredentials n₁ n₂ r₁ r₂ readOld readNew).recorded _ fun _ _ _ _ => id
  changePassword n₁ n₂ r₁ r₂ readOld readNew :=
    (pair.changePassword n₁ n₂ r₁ r₂ readOld readNew).recorded _ fun _ _ _ _ => id
  closeSession s₁ s₂ := (pair.closeSession s₁ s₂).recorded
  leaveSession s₁ s₂ n₁ n₂ := (pair.leaveSession s₁ s₂ n₁ n₂).recorded
  closeRecord n₁ n₂ r₁ r₂ := (pair.closeRecord n₁ n₂ r₁ r₂).recorded
  closeNode n₁ n₂ := (pair.closeNode n₁ n₂).recorded

end Coupling

end PasswordChange
