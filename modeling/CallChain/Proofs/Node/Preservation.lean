import CallChain.Proofs.Node.Changes
import CallChain.Proofs.Node.Names
import CallChain.Proofs.Node.Slots
import CallChain.Proofs.Value.Conversion

/-! Editing keeps a node consistent, whether or not its links fit the pins they land on. -/

namespace CallChain.Node

variable {node after : Node}

/-- A new node is consistent: it has no slots and no links. -/
theorem consistent_new (id : String) : (Node.new id).Consistent where
  ids := List.nodup_nil
  names := List.nodup_nil
  slots := by simp [Node.new, Slots.empty]
  pins := List.nodup_nil
  landing := by simp [Node.new]

/-- Dropping links keeps a node consistent. -/
theorem Consistent.unlink (consistent : node.Consistent) {links : List Link}
    (fewer : links.Sublist node.links) : Consistent { node with links } where
  ids := consistent.ids
  names := consistent.names
  slots := consistent.slots
  pins := consistent.pins.sublist (fewer.map Link.pin)
  landing := fun link member => consistent.landing link (fewer.subset member)

/-- The literals of the fixed pins have no part in consistency. -/
theorem Consistent.setFixed (consistent : node.Consistent) (fixed : FixedLiterals) :
    Consistent { node with fixed } where
  ids := consistent.ids
  names := consistent.names
  slots := consistent.slots
  pins := consistent.pins
  landing := consistent.landing

/-- A pin that exists keeps its type when a slot is added. -/
theorem pinType?_add {pin : Pin} {known : ValueType} (typed : node.pinType? pin = some known)
    (proposed : Option String) (type : ValueType) (default : Option Value) :
    (node.add proposed type default).1.pinType? pin = some known := by
  cases pin with
  | fixed pin => exact typed
  | slot id =>
    obtain ⟨slot, found, own⟩ := Option.map_eq_some_iff.mp typed
    exact Option.map_eq_some_iff.mpr ⟨slot, Slots.get?_append found _ _, own⟩

/-- Adding a slot keeps a node consistent, as long as ids are left. -/
theorem Consistent.add (consistent : node.Consistent)
    (room : node.slots.entries.length < 4294967295) (proposed : Option String) (type : ValueType)
    {default : Option Value} (typed : ∀ value, default = some value → value.type = type) :
    (node.add proposed type default).1.Consistent := by
  have below := fun slot member => (consistent.slots slot member).below
  obtain ⟨fresh, under, grows⟩ := Slots.allocate_fresh below room
  obtain ⟨allowed, free⟩ := freeName_free node proposed none
  have unnamed : ∀ slot ∈ node.slots.entries, slot.name ≠ node.freeName proposed none :=
    fun slot member named => by simpa using (isTaken_eq_false_iff.mp free).2 slot member named
  -- The new slot comes last, with a fresh id and a free name.
  have entries : (node.add proposed type default).1.slots.entries = node.slots.entries ++
      [⟨node.slots.allocate.1, node.freeName proposed none, type, default⟩] := rfl
  exact {
    ids := by
      rw [entries, List.map_append, List.nodup_append]
      refine ⟨consistent.ids, List.nodup_singleton _, ?_⟩
      rintro _ member _ last rfl
      obtain ⟨slot, placed, same⟩ := List.mem_map.mp member
      exact fresh slot placed (same.trans (List.mem_singleton.mp last))
    names := by
      rw [entries, List.map_append, List.nodup_append]
      refine ⟨consistent.names, List.nodup_singleton _, ?_⟩
      rintro _ member _ last rfl
      obtain ⟨slot, placed, same⟩ := List.mem_map.mp member
      exact unnamed slot placed (same.trans (List.mem_singleton.mp last))
    slots := by
      intro slot member
      rw [entries, List.mem_append, List.mem_singleton] at member
      rcases member with old | rfl
      · -- The counter only grows, so the ids given out stay below it.
        have sound := consistent.slots slot old
        exact ⟨UInt32.lt_of_lt_of_le sound.below grows, sound.named, sound.typed⟩
      · exact ⟨under, allowed, typed⟩
    pins := consistent.pins
    landing := fun link member =>
      (consistent.landing link member).imp fun _ landed => pinType?_add landed _ _ _ }

/-- The id of a new slot is that of no link, for links only lead to pins of the node. -/
theorem Consistent.link?_allocate (consistent : node.Consistent)
    (room : node.slots.entries.length < 4294967295) :
    node.link? (.slot node.slots.allocate.1) = none := by
  -- A link with that id would lead to a slot with it.
  obtain ⟨fresh, _⟩ := Slots.allocate_fresh
    (fun slot member => (consistent.slots slot member).below) room
  cases linked : node.link? (.slot node.slots.allocate.1) with
  | none => rfl
  | some link =>
    obtain ⟨member, own⟩ := link?_eq_some linked
    obtain ⟨type, typed⟩ := consistent.landing link member
    rw [own, pinType?, Option.map_eq_some_iff] at typed
    obtain ⟨slot, found, _⟩ := typed
    obtain ⟨placed, same⟩ := Slots.get?_eq_some found
    exact absurd same (fresh slot placed)

/-- A pin other than that of the slot taken out keeps its type. -/
theorem pinType?_eraseP {pin : Pin} {id : SlotId} (other : pin ≠ .slot id) (links : List Link) :
    pinType? { node with
      slots := { node.slots with entries := node.slots.entries.eraseP fun slot => slot.id == id }
      links } pin = node.pinType? pin := by
  cases pin with
  | fixed pin => rfl
  | slot kept =>
    have different : kept ≠ id := fun same => other (congrArg Pin.slot same)
    exact congrArg (Option.map Slot.type) (Slots.get?_eraseP different)

/-- No link that stays when a slot is removed ended in the slot. -/
theorem pinType?_remove {id : SlotId} {slot : Slot} (done : node.remove id = .ok (after, slot))
    {link : Link} (kept : link ∈ after.links) :
    link ∈ node.links ∧ after.pinType? link.pin = node.pinType? link.pin := by
  obtain ⟨_, rfl⟩ := remove_eq_ok done
  obtain ⟨old, other⟩ := List.mem_filter.mp kept
  exact ⟨old, pinType?_eraseP (by simpa using other) _⟩

/-- Removing a slot with its links keeps a node consistent. -/
theorem Consistent.remove (consistent : node.Consistent) {id : SlotId} {slot : Slot}
    (done : node.remove id = .ok (after, slot)) : after.Consistent := by
  have landing : ∀ link ∈ after.links, ∃ type, after.pinType? link.pin = some type := by
    intro link member
    obtain ⟨old, same⟩ := pinType?_remove done member
    rw [same]
    exact consistent.landing link old
  obtain ⟨_, rfl⟩ := remove_eq_ok done
  -- Nothing is added to any of the lists, so what is distinct stays distinct.
  have fewer := List.eraseP_sublist (p := fun slot : Slot => slot.id == id)
    (l := node.slots.entries)
  exact {
    ids := consistent.ids.sublist (fewer.map Slot.id)
    names := consistent.names.sublist (fewer.map Slot.name)
    slots := fun other member => consistent.slots other (fewer.subset member)
    pins := consistent.pins.sublist (List.filter_sublist.map Link.pin)
    landing }

/-- Whether a node stays consistent when the slot with an id is changed: the slot keeps its id, it
stays sound, and no other slot has the name it gets. -/
structure Admits (node : Node) (id : SlotId) (change : Slot → Slot) : Prop where
  keeps : ∀ slot, (change slot).id = slot.id
  sound : ∀ slot ∈ node.slots.entries, slot.id = id → (change slot).Sound node.slots.nextId
  free : ∀ slot ∈ node.slots.entries, slot.id = id → ∀ other ∈ node.slots.entries,
    other.id ≠ id → other.name ≠ (change slot).name

/-- Changing a slot keeps the pins that exist. -/
theorem pinType?_modify {id : SlotId} {change : Slot → Slot}
    (keeps : ∀ slot, (change slot).id = slot.id) {links : List Link} {pin : Pin} {type : ValueType}
    (typed : node.pinType? pin = some type) :
    ∃ type, pinType? { node with slots := node.slots.modify id change, links } pin = some type := by
  cases pin with
  | fixed pin => exact ⟨pin.type, rfl⟩
  | slot other =>
    obtain ⟨slot, found, _⟩ := Option.map_eq_some_iff.mp typed
    simp [pinType?, Slots.get?_modify keeps, found]

/-- Changing a slot in a way that the node admits keeps it consistent. -/
theorem Consistent.modify (consistent : node.Consistent) {id : SlotId} {change : Slot → Slot}
    (admits : node.Admits id change) {links : List Link} (fewer : links.Sublist node.links) :
    Consistent { node with slots := node.slots.modify id change, links } := by
  have entries : (node.slots.modify id change).entries =
      node.slots.entries.map fun slot => if slot.id = id then change slot else slot :=
    Slots.modifyFirst_eq_map consistent.ids
  exact {
    ids := by
      rw [entries, List.map_map]
      have same : Slot.id ∘ (fun slot => if slot.id = id then change slot else slot) = Slot.id := by
        funext slot
        simp only [Function.comp_apply]
        split
        · exact admits.keeps slot
        · rfl
      rw [same]
      exact consistent.ids
    names := by
      rw [entries, List.map_map]
      have slots : node.slots.entries.Nodup := List.Nodup.of_map Slot.id consistent.ids
      refine slots.map_on fun first one second two same => ?_
      simp only [Function.comp_apply] at same
      -- Two slots with one name are both changed, and so the same, or both as they were.
      split at same
      next changed =>
        split at same
        next also => exact consistent.slot_eq_of_id one two (changed.trans also.symm)
        next other => exact absurd same.symm (admits.free first one changed second two other)
      next unchanged =>
        split at same
        next changed => exact absurd same (admits.free second two changed first one unchanged)
        next => exact consistent.slot_eq_of_name one two same
    slots := by
      intro slot member
      rw [entries] at member
      obtain ⟨old, placed, rfl⟩ := List.mem_map.mp member
      split
      next changed => exact admits.sound old placed changed
      next => exact consistent.slots old placed
    pins := consistent.pins.sublist (fewer.map Link.pin)
    landing := by
      intro link member
      obtain ⟨type, typed⟩ := consistent.landing link (fewer.subset member)
      exact pinType?_modify admits.keeps typed }

/-- Another slot never has the name of a slot. -/
theorem Consistent.name_ne (consistent : node.Consistent) {first second : Slot}
    (one : first ∈ node.slots.entries) (two : second ∈ node.slots.entries)
    (different : second.id ≠ first.id) : second.name ≠ first.name := by
  intro same
  exact different (congrArg Slot.id (consistent.slot_eq_of_name two one same))

/-- Renaming a slot keeps a node consistent. -/
theorem Consistent.rename (consistent : node.Consistent) {id : SlotId} {newName : String}
    (done : node.rename id newName = .ok after) : after.Consistent := by
  obtain ⟨valid, _, free, rfl⟩ := rename_eq_ok done
  obtain ⟨unreserved, single⟩ := isTaken_eq_false_iff.mp free
  obtain ⟨nonempty, trimmed, printable⟩ := Slot.isValidName_iff.mp valid
  -- The checks that the new name has passed are what a sound slot needs.
  have admits : node.Admits id fun slot => { slot with name := Text.trim newName } := {
    keeps := fun _ => rfl
    sound := by
      intro slot placed _
      have sound := consistent.slots slot placed
      exact ⟨sound.below, ⟨nonempty, trimmed, printable, unreserved⟩, sound.typed⟩
    free := by
      -- Only the slot that is renamed may have the name already.
      intro slot _ _ other placed different named
      exact different (Option.some.inj (single other placed named)) }
  exact consistent.modify admits (List.Sublist.refl _)

/-- A slot that keeps its id and its name may change as long as its literal has its type. -/
theorem Consistent.admits_literal (consistent : node.Consistent) {id : SlotId}
    {change : Slot → Slot} (keeps : ∀ slot, (change slot).id = slot.id)
    (named : ∀ slot, (change slot).name = slot.name)
    (typed : ∀ slot ∈ node.slots.entries, slot.id = id →
      ∀ value, (change slot).default = some value → value.type = (change slot).type) :
    node.Admits id change where
  keeps := keeps
  sound slot member same := by
    have sound := consistent.slots slot member
    refine ⟨?_, ?_, typed slot member same⟩
    · rw [keeps]
      exact sound.below
    · rw [named]
      exact sound.named
  free first one same other member different := by
    rw [named]
    exact consistent.name_ne one member fun equal => different (equal.trans same)

/-- Giving a slot another type keeps a node consistent: what no longer fits is dropped. -/
theorem Consistent.retype (consistent : node.Consistent) {id : SlotId} {newType : ValueType}
    {warnings : List Warning} (done : node.retype id newType = .ok (after, warnings)) :
    after.Consistent := by
  obtain ⟨slot, found, ⟨_, rfl⟩ | ⟨_, rfl⟩⟩ := retype_eq_ok done
  · exact consistent
  · refine consistent.modify ?_ List.filter_sublist
    refine consistent.admits_literal (fun _ => rfl) (fun _ => rfl) ?_
    intro other member same value kept
    -- A literal is kept only as the value it converts to.
    obtain ⟨old, _, converted⟩ := Option.bind_eq_some_iff.mp kept
    exact Value.type_of_coerce? converted

/-- Setting the literal of a slot keeps a node consistent. -/
theorem Consistent.setDefault (consistent : node.Consistent) {id : SlotId} {default : Option Value}
    (done : node.setDefault id default = .ok after) : after.Consistent := by
  obtain ⟨slot, found, typed, rfl⟩ := setDefault_eq_ok done
  obtain ⟨placed, named⟩ := Slots.get?_eq_some found
  refine consistent.modify ?_ (List.Sublist.refl _)
  refine consistent.admits_literal (fun _ => rfl) (fun _ => rfl) ?_
  intro other member same value literal
  -- Only one slot has the id, so its type is the one that was checked.
  obtain rfl := consistent.slot_eq_of_id member placed (same.trans named.symm)
  exact typed value literal

/-- Once the link into a pin is removed, no link is left on it. -/
theorem Consistent.pin_ne_of_mem_eraseP (consistent : node.Consistent) {pin : Pin} {link : Link}
    (member : link ∈ node.links.eraseP fun link => link.pin == pin) : link.pin ≠ pin := by
  intro landed
  have old := List.eraseP_subset member
  obtain ⟨first, before, rest, others, own, split, left⟩ :=
    List.exists_of_eraseP (p := fun link => link.pin == pin) old (by simp [landed])
  have same : link.pin = first.pin := landed.trans (eq_of_beq own).symm
  rw [left, List.mem_append] at member
  -- The first link on the pin is gone, and those before it are on other pins.
  rcases member with early | late
  · exact others link early (by simp [landed])
  · -- A second link on the pin would come after the first one.
    have pins := consistent.pins
    rw [split, List.map_append, List.map_cons, List.nodup_append, List.nodup_cons] at pins
    exact pins.2.1.1 (same ▸ List.mem_map_of_mem late)

/-- Removing a link keeps a node consistent. -/
theorem Consistent.disconnect (consistent : node.Consistent) (pin : Pin) :
    (node.disconnect pin).1.Consistent :=
  consistent.unlink List.eraseP_sublist

/-- Linking an output in place of another keeps a node consistent. -/
theorem Consistent.connect (consistent : node.Consistent) {link : Link} {previous : Option Link}
    (done : node.connect link = .ok (after, previous)) : after.Consistent := by
  obtain ⟨⟨expected, typed, _⟩, rfl⟩ := connect_eq_ok done
  have freed := consistent.disconnect link.pin
  exact {
    ids := consistent.ids
    names := consistent.names
    slots := consistent.slots
    pins := by
      -- The new link is the only one on its pin.
      rw [List.map_append, List.nodup_append]
      refine ⟨freed.pins, List.nodup_singleton _, ?_⟩
      rintro _ member _ last rfl
      obtain ⟨other, old, same⟩ := List.mem_map.mp member
      exact consistent.pin_ne_of_mem_eraseP old (same.trans (List.mem_singleton.mp last))
    landing := by
      intro other member
      rcases List.mem_append.mp member with old | last
      · exact freed.landing other old
      · rw [List.mem_singleton.mp last]
        exact ⟨expected, typed⟩ }

/-- Every change keeps a node consistent, as long as ids are left. -/
theorem Consistent.change (consistent : node.Consistent)
    (room : node.slots.entries.length < 4294967295) (change : node.Change after) :
    after.Consistent := by
  cases change with
  | add proposed type default typed => exact consistent.add room proposed type typed
  | remove id done => exact consistent.remove done
  | rename id name done => exact consistent.rename done
  | retype id type done => exact consistent.retype done
  | setDefault id default done => exact consistent.setDefault done
  | setFixed fixed => exact consistent.setFixed fixed
  | connect link done => exact consistent.connect done
  | disconnect pin => exact consistent.disconnect pin

end CallChain.Node
