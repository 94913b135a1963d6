import CallChain.Proofs.Node.Preservation

/-! Editing keeps a node coherent: consistent, and with links that fit their pins. -/

namespace CallChain.Node

/-- A consistent node whose links fit the pins they land on. -/
structure Coherent (node : Node) : Prop extends node.Consistent where
  fits : ∀ link ∈ node.links, ∃ type, node.pinType? link.pin = some type ∧
    type.accepts link.sourceType = true

/-- A new node is coherent: it has no slots and no links. -/
theorem coherent_new (id : String) : (Node.new id).Coherent :=
  ⟨consistent_new id, by simp [Node.new]⟩

variable {node after : Node}

/-- Dropping links keeps a node coherent. -/
theorem Coherent.unlink (coherent : node.Coherent) {links : List Link}
    (fewer : links.Sublist node.links) : Coherent { node with links } :=
  ⟨coherent.toConsistent.unlink fewer, fun link member => coherent.fits link (fewer.subset member)⟩

/-- The literals of the fixed pins have no part in coherence. -/
theorem Coherent.setFixed (coherent : node.Coherent) (fixed : FixedLiterals) :
    Coherent { node with fixed } :=
  ⟨coherent.toConsistent.setFixed fixed, coherent.fits⟩

/-- Adding a slot keeps a node coherent, as long as ids are left. -/
theorem Coherent.add (coherent : node.Coherent) (room : node.slots.entries.length < 4294967295)
    (proposed : Option String) (type : ValueType) {default : Option Value}
    (typed : ∀ value, default = some value → value.type = type) :
    (node.add proposed type default).1.Coherent := by
  refine ⟨coherent.toConsistent.add room proposed type typed, fun link member => ?_⟩
  -- No link was made, and the pins that there were have kept their types.
  obtain ⟨known, typed, fit⟩ := coherent.fits link member
  exact ⟨known, pinType?_add typed _ _ _, fit⟩

/-- Removing a slot with its links keeps a node coherent. -/
theorem Coherent.remove (coherent : node.Coherent) {id : SlotId} {slot : Slot}
    (done : node.remove id = .ok (after, slot)) : after.Coherent := by
  refine ⟨coherent.toConsistent.remove done, fun link member => ?_⟩
  obtain ⟨old, same⟩ := pinType?_remove done member
  rw [same]
  exact coherent.fits link old

/-- Links that are kept when a slot is changed fit their pins, as long as those into the slot do. -/
theorem Coherent.fits_modify (coherent : node.Coherent) {id : SlotId} {change : Slot → Slot}
    (keeps : ∀ slot, (change slot).id = slot.id) {links : List Link} (fewer : links ⊆ node.links)
    (fits : ∀ slot ∈ node.slots.entries, slot.id = id → ∀ link ∈ links, link.pin = .slot id →
      (change slot).type.accepts link.sourceType = true) :
    ∀ link ∈ links, ∃ type,
      pinType? { node with slots := node.slots.modify id change, links } link.pin = some type ∧
        type.accepts link.sourceType = true := by
  intro link member
  -- A link into the slot fits its new type by assumption, and others fit as before.
  obtain ⟨type, typed, fit⟩ := coherent.fits link (fewer member)
  cases landed : link.pin with
  | fixed pin =>
    rw [landed] at typed
    exact ⟨type, typed, fit⟩
  | slot other =>
    rw [landed] at typed
    obtain ⟨slot, found, own⟩ := Option.map_eq_some_iff.mp typed
    obtain ⟨placed, named⟩ := Slots.get?_eq_some found
    simp only [pinType?, Slots.get?_modify keeps, found, Option.map_some, Option.some.injEq,
      exists_eq_left']
    split
    next changed => exact fits slot placed changed link member (by rw [landed, ← named, changed])
    next => rw [own, fit]

/-- The links into a slot fit the type of the slot. -/
theorem Coherent.fits_slot (coherent : node.Coherent) {slot : Slot}
    (placed : slot ∈ node.slots.entries) {link : Link} (member : link ∈ node.links)
    (landed : link.pin = .slot slot.id) : slot.type.accepts link.sourceType = true := by
  obtain ⟨type, typed, fit⟩ := coherent.fits link member
  rw [landed, pinType?, Slots.get?_eq_some_of_mem coherent.ids placed, Option.map_some] at typed
  rw [Option.some.inj typed, fit]

/-- Links fit their pins when a slot is changed but for its type. -/
theorem Coherent.fits_modify_typed (coherent : node.Coherent) {id : SlotId} {change : Slot → Slot}
    (keeps : ∀ slot, (change slot).id = slot.id) (typed : ∀ slot, (change slot).type = slot.type) :
    ∀ link ∈ node.links, ∃ type,
      pinType? { node with slots := node.slots.modify id change } link.pin = some type ∧
        type.accepts link.sourceType = true := by
  refine coherent.fits_modify keeps (List.Subset.refl _) ?_
  intro slot placed same link member landed
  rw [typed]
  exact coherent.fits_slot placed member (landed.trans (congrArg Pin.slot same.symm))

/-- Renaming a slot keeps a node coherent. -/
theorem Coherent.rename (coherent : node.Coherent) {id : SlotId} {newName : String}
    (done : node.rename id newName = .ok after) : after.Coherent := by
  refine ⟨coherent.toConsistent.rename done, ?_⟩
  obtain ⟨_, _, _, rfl⟩ := rename_eq_ok done
  exact coherent.fits_modify_typed (fun _ => rfl) fun _ => rfl

/-- Giving a slot another type keeps a node coherent: what no longer fits is dropped. -/
theorem Coherent.retype (coherent : node.Coherent) {id : SlotId} {newType : ValueType}
    {warnings : List Warning} (done : node.retype id newType = .ok (after, warnings)) :
    after.Coherent := by
  refine ⟨coherent.toConsistent.retype done, ?_⟩
  obtain ⟨_, _, ⟨_, rfl⟩ | ⟨_, rfl⟩⟩ := retype_eq_ok done
  · exact coherent.fits
  · refine coherent.fits_modify ?keeps List.filter_sublist.subset ?fits
    case keeps => exact fun _ => rfl
    case fits =>
      intro slot _ _ link member landed
      -- The links into the slot were kept only as far as they fit the new type.
      have fit := (List.mem_filter.mp member).2
      simpa [stillFits, landed] using fit

/-- Setting the literal of a slot keeps a node coherent. -/
theorem Coherent.setDefault (coherent : node.Coherent) {id : SlotId} {default : Option Value}
    (done : node.setDefault id default = .ok after) : after.Coherent := by
  refine ⟨coherent.toConsistent.setDefault done, ?_⟩
  obtain ⟨_, _, _, rfl⟩ := setDefault_eq_ok done
  exact coherent.fits_modify_typed (fun _ => rfl) fun _ => rfl

/-- Removing a link keeps a node coherent. -/
theorem Coherent.disconnect (coherent : node.Coherent) (pin : Pin) :
    (node.disconnect pin).1.Coherent :=
  coherent.unlink List.eraseP_sublist

/-- Linking an output in place of another keeps a node coherent. -/
theorem Coherent.connect (coherent : node.Coherent) {link : Link} {previous : Option Link}
    (done : node.connect link = .ok (after, previous)) : after.Coherent := by
  refine ⟨coherent.toConsistent.connect done, ?_⟩
  obtain ⟨⟨expected, typed, fit⟩, rfl⟩ := connect_eq_ok done
  -- The new link was made only because it fits.
  intro other member
  rcases List.mem_append.mp member with old | last
  · exact (coherent.disconnect link.pin).fits other old
  · rw [List.mem_singleton.mp last]
    exact ⟨expected, typed, fit⟩

/-- Every change keeps a node coherent, as long as ids are left. -/
theorem Coherent.change (coherent : node.Coherent)
    (room : node.slots.entries.length < 4294967295) (change : node.Change after) :
    after.Coherent := by
  cases change with
  | add proposed type default typed => exact coherent.add room proposed type typed
  | remove id done => exact coherent.remove done
  | rename id name done => exact coherent.rename done
  | retype id type done => exact coherent.retype done
  | setDefault id default done => exact coherent.setDefault done
  | setFixed fixed => exact coherent.setFixed fixed
  | connect link done => exact coherent.connect done
  | disconnect pin => exact coherent.disconnect pin

end CallChain.Node
