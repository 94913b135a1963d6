import CallChain.Node.Edit
import CallChain.Proofs.Sequence

/-! What the operations on a node have checked and done once they succeed. -/

namespace CallChain.Node

variable {node after : Node} {id : SlotId}

/-- Removing a slot takes out the slot that is found, and every link into it. -/
theorem remove_eq_ok {slot : Slot} (done : node.remove id = .ok (after, slot)) :
    node.slots.get? id = some slot ∧
      after = { node with
        slots := { node.slots with entries := node.slots.entries.eraseP fun slot => slot.id == id }
        links := node.links.filter fun link => link.pin != .slot id } := by
  unfold Node.remove Slots.remove? at done
  cases found : node.slots.get? id with
  | none => simp [found] at done
  | some removed =>
    simp only [found, Option.map_some, Except.ok.injEq, Prod.mk.injEq] at done
    obtain ⟨rest, rfl⟩ := done
    exact ⟨rfl, rest.symm⟩

/-- A slot is renamed only to a valid name that is not taken, and keeps all else. -/
theorem rename_eq_ok {newName : String} (done : node.rename id newName = .ok after) :
    Slot.isValidName (Text.trim newName) = true ∧ node.slots.holds id = true ∧
      node.isTaken (Text.trim newName) (some id) = false ∧
      after = { node with
        slots := node.slots.modify id fun slot => { slot with name := Text.trim newName } } := by
  unfold Node.rename at done
  simp only at done
  -- Three checks stand in front of the change, and each of them has passed.
  split at done
  next => cases done
  next valid =>
    split at done
    next => cases done
    next held =>
      split at done
      next => cases done
      next free =>
        cases done
        exact ⟨by simpa using valid, by simpa using held, by simpa using free, rfl⟩

/-- A slot that gets a free form of a name is renamed to one name or another. -/
theorem renameFree_eq_ok {newName used : String}
    (done : node.renameFree id newName = .ok (after, used)) :
    ∃ name, node.rename id name = .ok after := by
  unfold renameFree at done
  split at done
  · cases done
  · obtain ⟨_, renamed, same⟩ := map_eq_ok_iff.mp done
    cases same
    exact ⟨_, renamed⟩

/-- A slot of another type keeps its literal as far as that converts, and the links that fit; a slot
that has the type already stays as it is. -/
theorem retype_eq_ok {newType : ValueType} {warnings : List Warning}
    (done : node.retype id newType = .ok (after, warnings)) :
    ∃ slot, node.slots.get? id = some slot ∧
      (slot.type = newType ∧ after = node ∨
        slot.type ≠ newType ∧ after = { node with
          slots := node.slots.modify id fun other => { other with
            type := newType, default := slot.default.bind fun value => value.coerce? newType }
          links := node.links.filter (stillFits id newType) }) := by
  unfold Node.retype at done
  -- The slot is looked up first, and only another type than its own changes anything.
  split at done
  next => cases done
  next slot found =>
    refine ⟨slot, found, ?_⟩
    split at done
    next same =>
      cases done
      exact .inl ⟨same, rfl⟩
    next other =>
      cases done
      exact .inr ⟨other, rfl⟩

/-- A slot that is found gets no literal of another type, and keeps all else. -/
theorem setDefault_eq_ok {default : Option Value} (done : node.setDefault id default = .ok after) :
    ∃ slot, node.slots.get? id = some slot ∧
      (∀ value, default = some value → value.type = slot.type) ∧
      after = { node with slots := node.slots.modify id fun slot => { slot with default } } := by
  unfold Node.setDefault at done
  split at done
  next => cases done
  next slot found =>
    split at done
    next => cases done
    next matching =>
      cases done
      -- A literal of another type would have been left by the filter.
      refine ⟨slot, found, fun value literal => ?_, rfl⟩
      simpa using Option.filter_eq_none_iff.mp matching value literal

/-- The type of a pin is found just if the node has the pin. -/
theorem requiredType_eq_ok_iff {pin : Pin} {type : ValueType} :
    node.requiredType pin = .ok type ↔ node.pinType? pin = some type := by
  cases pin with
  | fixed pin => simp [requiredType, pinType?]
  | slot id =>
    simp only [requiredType, pinType?]
    cases node.slots.get? id <;> simp

/-- An output is linked to a pin just if it fits the pin, in place of an earlier link, which is
told. -/
theorem connect_eq_ok_iff {link : Link} {previous : Option Link} :
    node.connect link = .ok (after, previous) ↔
      (∃ expected, node.pinType? link.pin = some expected ∧
        expected.accepts link.sourceType = true) ∧
      after = { node with links := (node.disconnect link.pin).1.links ++ [link] } ∧
      previous = node.link? link.pin := by
  -- The pin has to exist before its type can be compared.
  constructor
  · intro done
    obtain ⟨expected, required, done⟩ := bind_eq_ok_iff.mp done
    split at done
    next fit =>
      cases done
      exact ⟨⟨expected, requiredType_eq_ok_iff.mp required, fit⟩, rfl, rfl⟩
    next => cases done
  · rintro ⟨⟨expected, typed, fit⟩, rfl, rfl⟩
    refine bind_eq_ok_iff.mpr ⟨expected, requiredType_eq_ok_iff.mpr typed, ?_⟩
    rw [if_pos fit]
    rfl

/-- An output is linked only to a pin that it fits, in place of an earlier link. -/
theorem connect_eq_ok {link : Link} {previous : Option Link}
    (done : node.connect link = .ok (after, previous)) :
    (∃ expected, node.pinType? link.pin = some expected ∧
      expected.accepts link.sourceType = true) ∧
    after = { node with links := (node.disconnect link.pin).1.links ++ [link] } := by
  obtain ⟨fit, whole, _⟩ := connect_eq_ok_iff.mp done
  exact ⟨fit, whole⟩

end CallChain.Node
