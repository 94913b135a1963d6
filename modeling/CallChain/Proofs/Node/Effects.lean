import CallChain.Proofs.Node.InPlace
import CallChain.Proofs.Node.Names
import CallChain.Proofs.Node.Operations
import Mathlib.Logic.Function.Basic

/-! What each edit does to a node, seen as an ordered list of slots and a link into each pin, and
that it does nothing else. -/

namespace CallChain

namespace Node

/-- A slot was appended under the id allocated for it, and nothing else was touched. -/
structure Appended (before after : Node) (slot : Slot) : Prop where
  allocated : slot.id = before.slots.allocate.1
  whole : after = { before with
    slots := ⟨before.slots.entries ++ [slot], before.slots.allocate.2⟩ }

/-- The slot with an id was taken out together with the links into it, and nothing else was
touched. -/
structure Removed (before after : Node) (id : SlotId) (slot : Slot) : Prop where
  found : before.slots.get? id = some slot
  whole : after = { before with
    slots := { before.slots with entries := before.slots.entries.filter fun slot => slot.id ≠ id }
    links := before.links.filter fun link => link.pin ≠ .slot id }
  wiring : after.link? = Function.update before.link? (.slot id) none

/-- The slot with an id was changed, and nothing else was touched. -/
structure Changed (before after : Node) (id : SlotId) (change : Slot → Slot) : Prop where
  found : ∃ slot, before.slots.get? id = some slot
  whole : after = { before with slots := { before.slots with
    entries := before.slots.entries.map fun slot => if slot.id = id then change slot else slot } }

/-- The slot with an id was given a type. If it had another one before, its literal was converted
or discarded, and a link into it that does not fit was dropped. Nothing else was touched. -/
structure Retyped (before after : Node) (id : SlotId) (type : ValueType) : Prop where
  whole : ∃ slot, before.slots.get? id = some slot ∧ after =
    if slot.type = type then before
    else { before with
      slots := { before.slots with entries := before.slots.entries.map fun other =>
        if other.id = id then
          { other with type, default := slot.default.bind fun value => value.coerce? type }
        else other }
      links := before.links.filter fun link =>
        link.pin ≠ .slot id ∨ type.accepts link.sourceType }
  others : ∀ pin ≠ .slot id, after.link? pin = before.link? pin

/-- A link was made the only one into its pin, and nothing else was touched. -/
structure Connected (before after : Node) (link : Link) (previous : Option Link) : Prop where
  former : previous = before.link? link.pin
  whole : after = { before with
    links := (before.links.filter fun other => other.pin ≠ link.pin) ++ [link] }
  wiring : after.link? = Function.update before.link? link.pin (some link)

/-- The link into a pin was removed if there was one, and nothing else was touched. -/
structure Disconnected (before after : Node) (pin : Pin) (previous : Option Link) : Prop where
  former : previous = before.link? pin
  whole : after = { before with links := before.links.filter fun link => link.pin ≠ pin }
  wiring : after.link? = Function.update before.link? pin none
  nothing : previous = none → after = before

end Node

/-- Among different keys, taking the first element with a key out takes out all elements with it. -/
theorem eraseP_eq_filter {β κ : Type} [DecidableEq κ] {keyOf : β → κ} {elements : List β}
    (distinct : (elements.map keyOf).Nodup) (key : κ) :
    elements.eraseP (fun element => keyOf element == key) =
      elements.filter fun element => keyOf element ≠ key := by
  induction elements with
  | nil => rfl
  | cons first rest ih =>
    rw [List.map_cons, List.nodup_cons] at distinct
    by_cases found : keyOf first = key
    · -- No later element has the key, so the filter drops nothing more.
      have others : rest.filter (fun element => keyOf element ≠ key) = rest :=
        List.filter_eq_self.mpr fun element member => by
          have different : keyOf element ≠ key := fun same =>
            distinct.1 (List.mem_map.mpr ⟨element, member, same.trans found.symm⟩)
          simpa using different
      rw [List.filter_cons, others]
      simp [found]
    · simp [found, ih distinct.2]

namespace Node

variable {node after : Node} {id : SlotId}

/-- Without the links into a pin, every other pin has the link it had. -/
theorem link?_filter (node : Node) (pin : Pin) :
    { node with links := node.links.filter fun link => link.pin ≠ pin }.link? =
      Function.update node.link? pin none := by
  funext other
  unfold link?
  rw [List.find?_filter]
  by_cases same : other = pin
  · subst same
    rw [Function.update_self, List.find?_eq_none]
    simp
  · rw [Function.update_of_ne same]
    -- A link into the other pin is none of those that were dropped.
    congr 1
    funext link
    by_cases into : link.pin = other
    · simp [into, same]
    · simp [into]

/-- A link that is added where its pin has none is the link of the pin. -/
theorem link?_append {link : Link} (free : node.link? link.pin = none) :
    { node with links := node.links ++ [link] }.link? =
      Function.update node.link? link.pin (some link) := by
  funext other
  by_cases same : other = link.pin
  · subst same
    rw [Function.update_self]
    unfold link? at free ⊢
    rw [List.find?_append, free]
    simp
  · rw [Function.update_of_ne same]
    have differs : (link.pin == other) = false := beq_eq_false_iff_ne.mpr (Ne.symm same)
    simp [link?, List.find?_append, differs]

/-- Removing a link frees its pin and leaves the others. -/
theorem disconnected (pins : (node.links.map Link.pin).Nodup) (pin : Pin) :
    node.Disconnected (node.disconnect pin).1 pin (node.disconnect pin).2 := by
  have whole : (node.disconnect pin).1 =
      { node with links := node.links.filter fun link => link.pin ≠ pin } := by
    rw [disconnect, eraseP_eq_filter pins]
  refine ⟨rfl, whole, ?_, fun unlinked => ?_⟩
  · rw [whole, link?_filter]
  · -- No link is into the pin, so none is dropped.
    have absent := List.find?_eq_none.mp unlinked
    rw [whole, List.filter_eq_self.mpr fun link member => by simpa using absent link member]

/-- A link that is made is the only one into its pin. -/
theorem connected (pins : (node.links.map Link.pin).Nodup) {link : Link} {previous : Option Link}
    (done : node.connect link = .ok (after, previous)) : node.Connected after link previous := by
  obtain ⟨_, whole, former⟩ := connect_eq_ok_iff.mp done
  have freed := disconnected pins link.pin
  have free : (node.disconnect link.pin).1.link? link.pin = none := by
    rw [freed.wiring, Function.update_self]
  refine ⟨former, ?_, ?_⟩
  · rw [whole, freed.whole]
  · -- The pin is freed first, and then it gets the link.
    have wired := link?_append free
    rw [freed.wiring, Function.update_idem] at wired
    rw [whole]
    exact wired

/-- A slot that is removed takes the links into it along. -/
theorem removed (ids : (node.slots.entries.map Slot.id).Nodup) {slot : Slot}
    (done : node.remove id = .ok (after, slot)) : node.Removed after id slot := by
  obtain ⟨found, whole⟩ := remove_eq_ok done
  -- The two filters differ only in how they compare pins.
  have links : (node.links.filter fun link => link.pin != .slot id) =
      node.links.filter fun link => link.pin ≠ .slot id := by
    congr 1
    funext link
    by_cases into : link.pin = .slot id <;> simp [into]
  rw [eraseP_eq_filter ids, links] at whole
  refine ⟨found, whole, ?_⟩
  rw [whole]
  exact link?_filter node (.slot id)

/-- Changing the slot with an id is changing that slot only. -/
theorem changed (ids : (node.slots.entries.map Slot.id).Nodup) {slot : Slot}
    (found : node.slots.get? id = some slot) (change : Slot → Slot) :
    node.Changed { node with slots := node.slots.modify id change } id change := by
  refine ⟨⟨slot, found⟩, ?_⟩
  rw [Slots.modify, Slots.modifyFirst_eq_map ids]

/-- A slot that gets a free form of a name has just that name. -/
theorem renamedFree (ids : (node.slots.entries.map Slot.id).Nodup) {newName used : String}
    (done : node.renameFree id newName = .ok (after, used)) :
    used = node.freeName (some newName) (some id) ∧
      node.Changed after id fun slot => { slot with name := used } := by
  unfold renameFree at done
  split at done
  · cases done
  · obtain ⟨_, renamed, same⟩ := map_eq_ok_iff.mp done
    cases same
    obtain ⟨_, held, _, rfl⟩ := rename_eq_ok renamed
    obtain ⟨_, found⟩ := Option.isSome_iff_exists.mp held
    -- A free name has no blanks around it that could be trimmed off.
    have trimmed := (freeName_free node (some newName) (some id)).1.trimmed
    rw [trimmed]
    exact ⟨rfl, changed ids found _⟩

/-- A slot of another type keeps what fits. -/
theorem retyped (ids : (node.slots.entries.map Slot.id).Nodup) {type : ValueType}
    {warnings : List Warning} (done : node.retype id type = .ok (after, warnings)) :
    node.Retyped after id type := by
  obtain ⟨slot, found, result⟩ := retype_eq_ok done
  -- What is kept is said in terms of propositions here and of truth values there.
  have kept : node.links.filter (stillFits id type) = node.links.filter fun link =>
      link.pin ≠ .slot id ∨ type.accepts link.sourceType := by
    congr 1
    funext link
    by_cases into : link.pin = .slot id <;> simp [stillFits, into]
  rcases result with ⟨same, rfl⟩ | ⟨other, whole⟩
  · exact ⟨⟨slot, found, by rw [if_pos same]⟩, fun _ _ => rfl⟩
  · rw [Slots.modify, Slots.modifyFirst_eq_map ids, kept] at whole
    refine ⟨⟨slot, found, by rw [if_neg other, whole]⟩, fun pin apart => ?_⟩
    -- A link into another pin was not looked at.
    rw [whole, link?, List.find?_filter, link?]
    congr 1
    funext link
    by_cases into : link.pin = pin
    · simp [into, apart]
    · simp [into]

/-- A slot is removed if it exists. -/
theorem remove_succeeds_iff :
    (∃ result, node.remove id = .ok result) ↔ ∃ slot, node.slots.get? id = some slot := by
  unfold Node.remove Slots.remove?
  cases node.slots.get? id <;> simp

/-- A slot is renamed if it exists and the name is valid and free. -/
theorem rename_succeeds_iff {newName : String} :
    (∃ after, node.rename id newName = .ok after) ↔
      Slot.isValidName (Text.trim newName) = true ∧
        (∃ slot, node.slots.get? id = some slot) ∧
        node.isTaken (Text.trim newName) (some id) = false := by
  constructor
  · rintro ⟨after, done⟩
    obtain ⟨valid, held, free, _⟩ := rename_eq_ok done
    exact ⟨valid, Option.isSome_iff_exists.mp held, free⟩
  · rintro ⟨valid, ⟨slot, found⟩, free⟩
    simp [rename, valid, Slots.holds, found, free]

/-- A slot is renamed to a free form of a name if it exists and the name is valid. -/
theorem renameFree_succeeds_iff {newName : String} :
    (∃ result, node.renameFree id newName = .ok result) ↔
      Slot.isValidName (Text.trim newName) = true ∧ ∃ slot, node.slots.get? id = some slot := by
  -- The name that is used is valid and free, whatever it was made from.
  obtain ⟨allowed, free⟩ := freeName_free node (some newName) (some id)
  have valid := (Slot.nameAllowed_iff.mp allowed).1
  have trimmed := allowed.trimmed
  unfold renameFree
  cases Slot.isValidName (Text.trim newName) with
  | false => simp
  | true =>
    simp only [Bool.not_true, Bool.false_eq_true, if_false, true_and, map_succeeds_iff,
      rename_succeeds_iff, trimmed, valid, free, and_true]

/-- A slot gets another type if it exists. -/
theorem retype_succeeds_iff {type : ValueType} :
    (∃ result, node.retype id type = .ok result) ↔ ∃ slot, node.slots.get? id = some slot := by
  unfold retype
  -- Nothing but a missing slot is refused: what does not fit is dropped.
  cases node.slots.get? id with
  | none => simp
  | some slot => by_cases same : slot.type = type <;> simp [same]

/-- A literal is set if the slot exists and is of its type. -/
theorem setDefault_succeeds_iff {default : Option Value} :
    (∃ after, node.setDefault id default = .ok after) ↔
      ∃ slot, node.slots.get? id = some slot ∧
        ∀ value, default = some value → value.type = slot.type := by
  constructor
  · rintro ⟨after, done⟩
    obtain ⟨slot, found, typed, _⟩ := setDefault_eq_ok done
    exact ⟨slot, found, typed⟩
  · rintro ⟨slot, found, typed⟩
    -- The check looks for a literal of another type, and there is none.
    have matching : default.filter (fun value => value.type != slot.type) = none :=
      Option.filter_eq_none_iff.mpr fun value literal => by simpa using typed value literal
    simp [setDefault, found, matching]

/-- A link is made if its pin exists and takes the type of its source. -/
theorem connect_succeeds_iff {link : Link} :
    (∃ result, node.connect link = .ok result) ↔
      ∃ type, node.pinType? link.pin = some type ∧ type.accepts link.sourceType = true := by
  constructor
  · rintro ⟨⟨after, previous⟩, done⟩
    exact (connect_eq_ok_iff.mp done).1
  · intro fits
    exact ⟨⟨_, _⟩, connect_eq_ok_iff.mpr ⟨fits, rfl, rfl⟩⟩

end Node

namespace Node

variable {before after : Node}

/-- What every effect keeps: the id of the node, and that a pin has one link at most. -/
def Kept (before after : Node) : Prop :=
  after.id = before.id ∧ (after.links.map Link.pin).Nodup

/-- Whether the slots stand in the same places, as their ids tell. -/
def InPlaces (before after : Node) : Prop :=
  after.slots.entries.map Slot.id = before.slots.entries.map Slot.id

/-- Dropping links leaves no pin with more links than it had. -/
theorem pins_nodup_filter (pins : (before.links.map Link.pin).Nodup) (wanted : Link → Bool) :
    ((before.links.filter wanted).map Link.pin).Nodup :=
  pins.sublist (List.filter_sublist.map Link.pin)

/-- A slot that is appended leaves the links alone. -/
theorem Appended.kept {slot : Slot} (pins : (before.links.map Link.pin).Nodup)
    (effect : before.Appended after slot) : before.Kept after := by
  rw [effect.whole]
  exact ⟨rfl, pins⟩

/-- A slot that is removed takes links along and brings none. -/
theorem Removed.kept {id : SlotId} {slot : Slot} (pins : (before.links.map Link.pin).Nodup)
    (effect : before.Removed after id slot) : before.Kept after := by
  rw [effect.whole]
  exact ⟨rfl, pins_nodup_filter pins _⟩

/-- A slot that is changed leaves the links alone. -/
theorem Changed.kept {id : SlotId} {change : Slot → Slot}
    (pins : (before.links.map Link.pin).Nodup) (effect : before.Changed after id change) :
    before.Kept after := by
  rw [effect.whole]
  exact ⟨rfl, pins⟩

/-- A slot that is changed, but for its id, stays where it was. -/
theorem Changed.inPlaces {id : SlotId} {change : Slot → Slot}
    (effect : before.Changed after id change) (keeps : ∀ slot, (change slot).id = slot.id) :
    before.InPlaces after := by
  -- The ids are the same before and after, so the lists of them are.
  have same : (Slot.id ∘ fun slot => if slot.id = id then change slot else slot) = Slot.id := by
    funext slot
    by_cases here : slot.id = id <;> simp [here, keeps]
  rw [effect.whole, InPlaces, List.map_map, same]

/-- A slot of another type may lose links and gains none. -/
theorem Retyped.kept {id : SlotId} {type : ValueType} (pins : (before.links.map Link.pin).Nodup)
    (effect : before.Retyped after id type) : before.Kept after := by
  obtain ⟨slot, _, whole⟩ := effect.whole
  rw [whole]
  split
  · exact ⟨rfl, pins⟩
  · exact ⟨rfl, pins_nodup_filter pins _⟩

/-- A slot of another type stays where it was. -/
theorem Retyped.inPlaces {id : SlotId} {type : ValueType} (effect : before.Retyped after id type) :
    before.InPlaces after := by
  obtain ⟨slot, _, whole⟩ := effect.whole
  rw [whole]
  split
  · rfl
  · rw [InPlaces, List.map_map]
    congr 1
    funext other
    by_cases here : other.id = id <;> simp [here]

/-- A link that is made is the only one into its pin, and the other pins have what they had. -/
theorem Connected.kept {link : Link} {previous : Option Link}
    (pins : (before.links.map Link.pin).Nodup) (effect : before.Connected after link previous) :
    before.Kept after := by
  rw [effect.whole]
  refine ⟨rfl, ?_⟩
  rw [List.map_append, List.map_singleton, List.nodup_append]
  refine ⟨pins_nodup_filter pins _, List.nodup_singleton _, ?_⟩
  -- The links into the pin were dropped, so none that is left has the pin.
  rintro pin kept other new rfl
  obtain ⟨former, member, here⟩ := List.mem_map.mp kept
  have apart : former.pin ≠ link.pin := by simpa using (List.mem_filter.mp member).2
  exact apart (here.trans (List.mem_singleton.mp new))

/-- A link leaves the slots alone. -/
theorem Connected.inPlaces {link : Link} {previous : Option Link}
    (effect : before.Connected after link previous) : before.InPlaces after := by
  rw [effect.whole]
  rfl

/-- A pin that is freed brings no link. -/
theorem Disconnected.kept {pin : Pin} {previous : Option Link}
    (pins : (before.links.map Link.pin).Nodup) (effect : before.Disconnected after pin previous) :
    before.Kept after := by
  rw [effect.whole]
  exact ⟨rfl, pins_nodup_filter pins _⟩

/-- A pin that is freed leaves the slots alone. -/
theorem Disconnected.inPlaces {pin : Pin} {previous : Option Link}
    (effect : before.Disconnected after pin previous) : before.InPlaces after := by
  rw [effect.whole]
  rfl

end Node

end CallChain
