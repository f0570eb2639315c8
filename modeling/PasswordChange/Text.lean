/-!
# Tests on texts

The two tests on texts that the policy, the settings and the requests need.
-/

namespace PasswordChange.Text

/-- The text begins with `start`; every text begins with the empty text. -/
def startsWith (start s : String) : Bool :=
  start.toList.isPrefixOf s.toList

/-- A text begins with `start` exactly if something can be added to `start` to give the text. -/
theorem startsWith_iff {start s : String} :
    startsWith start s = true ↔ ∃ rest, s = start ++ rest := by
  simp only [startsWith, List.isPrefixOf_iff_prefix]
  constructor
  · rintro ⟨rest, h⟩
    exact ⟨String.ofList rest, String.toList_inj.1 (by simp [← h])⟩
  · rintro ⟨rest, rfl⟩
    exact ⟨rest.toList, by simp⟩

/-- Absent and empty texts count alike as not given. -/
def isBlank : Option String → Bool
  | none => true
  | some s => s.isEmpty

end PasswordChange.Text
