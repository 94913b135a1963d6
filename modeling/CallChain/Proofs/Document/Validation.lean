import CallChain.Document.Basic
import CallChain.Proofs.Node.Consistency
import CallChain.Proofs.Sequence

/-! The documents that are accepted, and how large an accepted node can be. -/

namespace CallChain

/-- A consistent node has at most one link for each slot and each fixed pin. -/
theorem Node.Consistent.links_length_le {node : Node} (consistent : node.Consistent) :
    node.links.length ≤ node.slots.entries.length + 4 := by
  -- Every link lands on a pin of its own.
  have landing : node.links.map Link.pin ⊆
      FixedPin.all.map Pin.fixed ++ node.slots.entries.map fun slot => Pin.slot slot.id := by
    intro pin member
    obtain ⟨link, placed, rfl⟩ := List.mem_map.mp member
    obtain ⟨type, typed⟩ := consistent.landing link placed
    rw [List.mem_append]
    cases landed : link.pin with
    | fixed pin => exact .inl (List.mem_map_of_mem (by cases pin <;> decide))
    | slot id =>
      rw [landed] at typed
      obtain ⟨slot, found, _⟩ := Option.map_eq_some_iff.mp typed
      obtain ⟨member, same⟩ := Slots.get?_eq_some found
      exact .inr (List.mem_map.mpr ⟨slot, member, congrArg Pin.slot same⟩)
  have lengths := (consistent.pins.subperm landing).length_le
  simp only [List.length_append, List.length_map, FixedPin.all, List.length_cons,
    List.length_nil] at lengths
  omega

namespace Document

variable {document : Document}

/-- The documents that are accepted are those of the current version whose nodes are. -/
theorem validate_eq_ok_iff : document.validate = .ok () ↔
    document.version = currentVersion ∧
      ∀ node ∈ document.nodes, node.slots.nextId ≠ Slots.lastId ∧ node.Consistent := by
  unfold validate
  -- The version is looked at first, and then each node up to the first with a fault.
  by_cases current : document.version = currentVersion
  · simp only [current, ne_eq, not_true_eq_false, if_false, true_and]
    simp only [← Node.fault?_eq_none_iff]
    rw [← List.findSome?_eq_none_iff]
    cases document.nodes.findSome? Node.fault? <;> simp
  · simp [current]

/-- A document that is accepted is handed on as it is. -/
theorem accepted_eq_ok_iff {result : Document} :
    document.accepted = .ok result ↔ document.validate = .ok () ∧ result = document := by
  unfold accepted
  rw [map_eq_ok_iff]
  constructor
  · rintro ⟨_, valid, rfl⟩
    exact ⟨valid, rfl⟩
  · rintro ⟨valid, rfl⟩
    exact ⟨(), valid, rfl⟩

end Document

end CallChain
