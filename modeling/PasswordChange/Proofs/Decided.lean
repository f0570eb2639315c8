import PasswordChange.Directory.Memory
import PasswordChange.Proofs.Frame

/-!
# What handles are issued for

An operation of a directory in memory that hands out a handle decides on it first. Here is what is
known of the handle if the decision was favourable: it stands for a session on the local path that
was asked for, for nodes that are visible in the session, or for the user who was looked up, in the
node where the search ended.
-/

namespace PasswordChange.Directory.Memory

variable {d : Memory} {session node : HandleId} {h : Handle Ref} {name user : String}

/-- The session that is decided on stands for its local path. -/
theorem decideSession_eq_ok {options : List (String × Value)}
    (decided : d.decideSession options = .ok h) :
    h.kind = .session ∧ h.ref = some (.session (option options localPathOption)) := by
  unfold decideSession at decided
  split at decided
  · cases decided
  · dsimp only at decided
    split at decided <;> split at decided <;> cases decided <;> exact ⟨rfl, rfl⟩

/-- What is visible is there. -/
theorem has_of_visible {restricted : Bool}
    (visible : (d.visibleNodes restricted).contains name = true) : d.nodes.has name = true := by
  apply (Table.has_iff_mem_keys _ _).2
  have member := List.contains_iff_mem.1 visible
  unfold visibleNodes at member
  split at member
  · exact (List.mem_filter.1 member).1
  · exact member

/-- The named node that is decided on is visible in the session. -/
theorem decideNodeByName_eq_ok (decided : d.decideNodeByName session name = .ok h) :
    ∃ restricted, d.isLocalSession session = .ok restricted ∧
      (d.visibleNodes restricted).contains name = true ∧
      h = ⟨.node, .text name, some (.node [name])⟩ := by
  obtain ⟨restricted, isSession, chosen⟩ := Failure.bind_eq_ok_iff.1 decided
  split at chosen
  next visible =>
    cases chosen
    exact ⟨restricted, isSession, visible, rfl⟩
  next => cases chosen

/-- The search that is decided on goes over the searchable nodes that are visible in the session. -/
theorem decideNodeByType_eq_ok {nodeType : String}
    (decided : d.decideNodeByType session nodeType = .ok h) :
    ∃ restricted, d.isLocalSession session = .ok restricted ∧
      h = ⟨.node, .text "/Search",
        some (.node (d.searchOrder.filter (d.visibleNodes restricted).contains))⟩ := by
  unfold decideNodeByType at decided
  split at decided
  · cases decided
  · obtain ⟨restricted, isSession, chosen⟩ := Failure.bind_eq_ok_iff.1 decided
    cases chosen
    exact ⟨restricted, isSession, rfl⟩

/-- The record that is decided on is that of the user in the node where the search ended. -/
theorem decideRecord_eq_ok {recordType : String}
    (decided : d.decideRecord node recordType user = .ok (some h)) :
    ∃ names home, d.nodeNames node = .ok names ∧ d.findUser user names = .ok (some home) ∧
      h = ⟨.record, .text user, some (.record home user)⟩ := by
  unfold decideRecord at decided
  split at decided
  · cases decided
  · split at decided
    · cases decided
    · obtain ⟨names, resolves, search⟩ := Failure.bind_eq_ok_iff.1 decided
      obtain ⟨found, ended, rest⟩ := Failure.bind_eq_ok_iff.1 search
      cases found with
      | none => cases rest
      | some home =>
          cases rest
          exact ⟨names, home, resolves, ended, rfl⟩

end PasswordChange.Directory.Memory
