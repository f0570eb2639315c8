import PasswordChange.Changer

/-!
# Trusted changes

A change goes without authentication if `Changer.Trusted` allows it: the caller is privileged, and
the node lies in the trusted part of the directory. `Changer.TrustedAt` is the same for a
location, which may name no node at all.
-/

namespace PasswordChange.Changer

variable {c : Changer} {node : String} {location : Location}

/-- The caller is privileged, and the node lies in the trusted part of the directory. -/
def Trusted (c : Changer) (node : String) : Prop :=
  c.privileged = true ∧ node ≠ "" ∧ ∃ rest, node = c.settings.trustedRoot ++ rest

/-- The location names a node in which changes by this caller are trusted. -/
def TrustedAt (c : Changer) (location : Location) : Prop :=
  ∃ node, location = .named node ∧ c.Trusted node

/-- **Exactly the trusted changes go without authentication.** -/
theorem needsAuthentication_eq_false_iff :
    c.needsAuthentication location = false ↔ c.TrustedAt location := by
  unfold needsAuthentication Policy.needsAuthentication Policy.isTrusted TrustedAt Trusted
  rw [Bool.not_eq_false', Bool.and_eq_true, Option.any_eq_true]
  constructor
  · rintro ⟨privileged, node, named, prefixed⟩
    obtain ⟨rfl, nonempty⟩ := Location.name?_eq_some_iff.1 named
    exact ⟨node, rfl, privileged, nonempty, Text.startsWith_iff.1 prefixed⟩
  · rintro ⟨node, rfl, privileged, nonempty, prefixed⟩
    exact ⟨privileged, node, Location.name?_eq_some_iff.2 ⟨rfl, nonempty⟩,
      Text.startsWith_iff.2 prefixed⟩

theorem needsAuthentication_eq_true_iff :
    c.needsAuthentication location = true ↔ ¬ c.TrustedAt location := by
  rw [← needsAuthentication_eq_false_iff, Bool.not_eq_false]

theorem trustedAt_named : c.TrustedAt (.named node) ↔ c.Trusted node := by
  constructor
  · rintro ⟨_, same, trusted⟩
    cases same
    exact trusted
  · intro trusted
    exact ⟨node, rfl, trusted⟩

theorem needsAuthentication_named_eq_false_iff :
    c.needsAuthentication (.named node) = false ↔ c.Trusted node :=
  needsAuthentication_eq_false_iff.trans trustedAt_named

theorem needsAuthentication_named_eq_true_iff :
    c.needsAuthentication (.named node) = true ↔ ¬ c.Trusted node :=
  needsAuthentication_eq_true_iff.trans (not_congr trustedAt_named)

end PasswordChange.Changer
