import CallChain.Node.Edit
import CallChain.Node.Validation
import Mathlib.Data.List.Nodup
import Mathlib.Data.List.Perm.Subperm

/-! What it takes for a node not to contradict itself, which the check after loading decides. -/

namespace CallChain

/-- The search for a repeat fails when nothing occurs twice or was seen before. -/
theorem repeatedAfter?_eq_none_iff {α : Type} [DecidableEq α] {seen elements : List α} :
    repeatedAfter? seen elements = none ↔
      elements.Nodup ∧ ∀ element ∈ elements, element ∉ seen := by
  induction elements generalizing seen with
  | nil => simp [repeatedAfter?]
  | cons first rest ih =>
    by_cases known : first ∈ seen
    · simp [repeatedAfter?, known]
    · -- From here on the first element counts as seen as well.
      simp only [repeatedAfter?, known, if_false, ih, List.nodup_cons, List.mem_cons, not_or]
      constructor
      · rintro ⟨distinct, unseen⟩
        refine ⟨⟨fun again => (unseen first again).1 rfl, distinct⟩, ?_⟩
        rintro element (rfl | later)
        · exact known
        · exact (unseen element later).2
      · rintro ⟨⟨fresh, distinct⟩, unseen⟩
        refine ⟨distinct, fun element later => ⟨?_, unseen element (.inr later)⟩⟩
        rintro rfl
        exact fresh later

/-- A list has no repeated element exactly when its elements are distinct. -/
theorem firstRepeated?_eq_none_iff {α : Type} [DecidableEq α] {elements : List α} :
    firstRepeated? elements = none ↔ elements.Nodup := by
  simp [firstRepeated?, repeatedAfter?_eq_none_iff]

/-- The search for a repeat stops at the first element that was seen before or has come already. -/
theorem repeatedAfter?_eq_some_iff {α : Type} [DecidableEq α] {seen elements : List α}
    {element : α} :
    repeatedAfter? seen elements = some element ↔
      ∃ before after, elements = before ++ element :: after ∧ before.Nodup ∧
        (∀ earlier ∈ before, earlier ∉ seen) ∧ (element ∈ seen ∨ element ∈ before) := by
  induction elements generalizing seen with
  | nil => simp [repeatedAfter?]
  | cons first rest ih =>
    by_cases known : first ∈ seen
    · -- The search stops right here, so nothing can come before what it has found.
      simp only [repeatedAfter?, known, if_true, Option.some.injEq]
      constructor
      · intro same
        subst same
        exact ⟨[], rest, rfl, List.nodup_nil, by simp, .inl known⟩
      · rintro ⟨before, after, split, distinct, unseen, repeated⟩
        cases before with
        | nil => exact (List.cons.inj split).1
        | cons head before =>
          have same : first = head := (List.cons.inj split).1
          subst same
          exact absurd known (unseen first (by simp))
    · -- From here on the first element counts as seen as well.
      simp only [repeatedAfter?, known, if_false, ih]
      constructor
      · rintro ⟨before, after, split, distinct, unseen, repeated⟩
        have fresh : first ∉ before := fun later => unseen first later (by simp)
        refine ⟨first :: before, after, by simp [split], List.nodup_cons.mpr ⟨fresh, distinct⟩,
          ?_, ?_⟩
        · intro earlier member
          rcases List.mem_cons.mp member with same | later
          · exact same ▸ known
          · exact fun again => unseen earlier later (by simp [again])
        · rcases repeated with old | later
          · rcases List.mem_cons.mp old with same | old
            · exact .inr (by simp [same])
            · exact .inl old
          · exact .inr (by simp [later])
      · rintro ⟨before, after, split, distinct, unseen, repeated⟩
        cases before with
        | nil =>
          -- The first element was not seen, so it is not the one that repeats.
          have same : first = element := (List.cons.inj split).1
          subst same
          simp [known] at repeated
        | cons head before =>
          obtain ⟨same, rest⟩ := List.cons.inj split
          subst same
          obtain ⟨fresh, distinct⟩ := List.nodup_cons.mp distinct
          refine ⟨before, after, rest, distinct, ?_, ?_⟩
          · intro earlier later again
            rcases List.mem_cons.mp again with same | old
            · exact fresh (same ▸ later)
            · exact unseen earlier (by simp [later]) old
          · rcases repeated with old | later
            · exact .inl (by simp [old])
            · rcases List.mem_cons.mp later with same | later
              · exact .inl (by simp [same])
              · exact .inr later

/-- The repeated element that is found is the one whose second occurrence comes first: all that
come before it are different, and it is one of them. -/
theorem firstRepeated?_eq_some_iff {α : Type} [DecidableEq α] {elements : List α} {element : α} :
    firstRepeated? elements = some element ↔
      ∃ before after, elements = before ++ element :: after ∧ before.Nodup ∧
        element ∈ before := by
  simp [firstRepeated?, repeatedAfter?_eq_some_iff]

/-- Of more candidates than elements, all of them different, one is not among the elements. -/
theorem exists_absent {α : Type} {candidates : Nat} (candidate : Nat → α)
    (different : ∀ first < candidates, ∀ second < candidates,
      candidate first = candidate second → first = second)
    (elements : List α) (enough : elements.length < candidates) :
    ∃ offset < candidates, candidate offset ∉ elements := by
  by_contra none
  -- Otherwise all candidates would be elements, and there are too few of these.
  have distinct : ((List.range candidates).map candidate).Nodup :=
    List.nodup_range.map_on fun first one second two =>
      different first (List.mem_range.mp one) second (List.mem_range.mp two)
  have covered : (List.range candidates).map candidate ⊆ elements := by
    intro element member
    obtain ⟨offset, bound, rfl⟩ := List.mem_map.mp member
    by_contra free
    exact none ⟨offset, List.mem_range.mp bound, free⟩
  have lengths := (distinct.subperm covered).length_le
  simp only [List.length_map, List.length_range] at lengths
  omega

/-- Slot ids with the same number are the same. -/
theorem SlotId.number_injective : Function.Injective fun id : SlotId => id.raw.toNat := by
  rintro ⟨first⟩ ⟨second⟩ same
  exact congrArg SlotId.mk (UInt32.toNat_inj.mp same)

namespace Slots

variable {table : Slots}

/-- A slot that was found by an id is in the table and has the id. -/
theorem get?_eq_some {id : SlotId} {slot : Slot} (found : table.get? id = some slot) :
    slot ∈ table.entries ∧ slot.id = id :=
  ⟨List.mem_of_find?_eq_some found, by simpa using List.find?_some found⟩

/-- A slot is the one that its id finds, as long as no other slot has that id. -/
theorem get?_eq_some_of_mem (distinct : (table.entries.map Slot.id).Nodup) {slot : Slot}
    (member : slot ∈ table.entries) : table.get? slot.id = some slot := by
  cases found : table.get? slot.id with
  | none =>
    -- The search would have come across the slot itself.
    have absent := List.find?_eq_none.mp found slot member
    simp at absent
  | some other =>
    obtain ⟨placed, same⟩ := get?_eq_some found
    rw [List.inj_on_of_nodup_map distinct placed member same]

end Slots

namespace Slot

/-- A name that a slot can have. -/
structure NameAllowed (name : String) : Prop where
  nonempty : name ≠ ""
  trimmed : Text.trim name = name
  printable : ∀ c ∈ name.toList, Text.isControl c = false
  unreserved : name ∉ reservedNames

/-- A slot that does not contradict itself or the counter of its table. -/
structure Sound (slot : Slot) (nextId : UInt32) : Prop where
  below : slot.id.raw < nextId
  named : NameAllowed slot.name
  typed : ∀ value, slot.default = some value → value.type = slot.type

/-- Names are valid when they are trimmed, printable and not empty. -/
theorem isValidName_iff {name : String} :
    isValidName name ↔
      name ≠ "" ∧ Text.trim name = name ∧ ∀ c ∈ name.toList, Text.isControl c = false := by
  simp [isValidName, and_assoc]

/-- A name is allowed when it is valid and does not belong to a pin of the node itself. -/
theorem nameAllowed_iff {name : String} :
    NameAllowed name ↔ isValidName name = true ∧ isReserved name = false := by
  rw [isValidName_iff]
  constructor
  · rintro ⟨nonempty, trimmed, printable, unreserved⟩
    exact ⟨⟨nonempty, trimmed, printable⟩, by simpa [isReserved] using unreserved⟩
  · rintro ⟨⟨nonempty, trimmed, printable⟩, unreserved⟩
    exact ⟨nonempty, trimmed, printable, by simpa [isReserved] using unreserved⟩

end Slot

namespace Node

/-- A node that does not contradict itself. -/
structure Consistent (node : Node) : Prop where
  ids : (node.slots.entries.map Slot.id).Nodup
  names : (node.slots.entries.map Slot.name).Nodup
  slots : ∀ slot ∈ node.slots.entries, slot.Sound node.slots.nextId
  pins : (node.links.map Link.pin).Nodup
  landing : ∀ link ∈ node.links, ∃ type, node.pinType? link.pin = some type

variable {node : Node} {first second : Slot}

/-- A link that was found by a pin is a link of the node on that pin. -/
theorem link?_eq_some {pin : Pin} {link : Link} (found : node.link? pin = some link) :
    link ∈ node.links ∧ link.pin = pin :=
  ⟨List.mem_of_find?_eq_some found, by simpa using List.find?_some found⟩

/-- No two slots of a consistent node have one id. -/
theorem Consistent.slot_eq_of_id (consistent : node.Consistent)
    (one : first ∈ node.slots.entries) (two : second ∈ node.slots.entries)
    (same : first.id = second.id) : first = second :=
  List.inj_on_of_nodup_map consistent.ids one two same

/-- No two slots of a consistent node have one name. -/
theorem Consistent.slot_eq_of_name (consistent : node.Consistent)
    (one : first ∈ node.slots.entries) (two : second ∈ node.slots.entries)
    (same : first.name = second.name) : first = second :=
  List.inj_on_of_nodup_map consistent.names one two same

/-- A consistent node has no more slots than ids were given out. -/
theorem Consistent.length_le (consistent : node.Consistent) :
    node.slots.entries.length ≤ node.slots.nextId.toNat := by
  -- The numbers of the ids are distinct, and all of them are below the counter.
  have numbers := consistent.ids.map SlotId.number_injective
  have below : (node.slots.entries.map Slot.id).map (fun id => id.raw.toNat) ⊆
      List.range node.slots.nextId.toNat := by
    intro number member
    simp only [List.map_map, List.mem_map, Function.comp_apply] at member
    obtain ⟨slot, placed, rfl⟩ := member
    exact List.mem_range.mpr (UInt32.lt_iff_toNat_lt.mp (consistent.slots slot placed).below)
  simpa using (numbers.subperm below).length_le

/-- A slot passes its check when it is sound. -/
theorem slotFault?_eq_none_iff {node : Node} {slot : Slot} :
    node.slotFault? slot = none ↔ slot.Sound node.slots.nextId := by
  unfold slotFault?
  split
  next beyond =>
    simp only [reduceCtorEq, false_iff]
    exact fun sound => UInt32.not_lt.mpr beyond sound.below
  next below =>
    split
    next refused =>
      simp only [reduceCtorEq, false_iff]
      intro sound
      obtain ⟨valid, free⟩ := Slot.nameAllowed_iff.mp sound.named
      simp [valid, free] at refused
    next accepted =>
      have named : Slot.NameAllowed slot.name :=
        Slot.nameAllowed_iff.mpr (by simpa using accepted)
      -- What is left is the literal of the slot.
      split
      next value found =>
        obtain ⟨literal, other⟩ := Option.filter_eq_some_iff.mp found
        simp only [reduceCtorEq, false_iff]
        exact fun sound => bne_iff_ne.mp other (sound.typed value literal)
      next absent =>
        refine iff_of_true rfl ⟨UInt32.not_le.mp below, named, fun value literal => ?_⟩
        simpa [literal] using Option.filter_eq_none_iff.mp absent value literal

/-- A link passes its check when it lands on a pin of the node. -/
theorem linkFault?_eq_none_iff {node : Node} {link : Link} :
    node.linkFault? link = none ↔ ∃ type, node.pinType? link.pin = some type := by
  unfold linkFault?
  cases node.pinType? link.pin <;> simp

/-- A node has no fault exactly when it is consistent and its counter has not run out. -/
theorem fault?_eq_none_iff {node : Node} :
    node.fault? = none ↔ node.slots.nextId ≠ Slots.lastId ∧ node.Consistent := by
  unfold fault? Slots.lastId
  by_cases exhausted : node.slots.nextId = 4294967295
  · simp [exhausted]
  · -- The checks have no say in each other, so each one has to find nothing.
    simp only [exhausted, if_false, Option.orElse_eq_orElse, Option.orElse_eq_or, Option.or_eq_none_iff,
      Option.map_eq_none_iff, firstRepeated?_eq_none_iff, List.findSome?_eq_none_iff,
      slotFault?_eq_none_iff, linkFault?_eq_none_iff, ne_eq, not_false_eq_true, true_and]
    constructor
    · rintro ⟨ids, names, slots, pins, landing⟩
      exact ⟨ids, names, slots, pins, landing⟩
    · rintro ⟨ids, names, slots, pins, landing⟩
      exact ⟨ids, names, slots, pins, landing⟩

/-- The nodes that are accepted after loading are the consistent ones that can still grow. -/
theorem validate_eq_ok_iff {node : Node} :
    node.validate = .ok () ↔ node.slots.nextId ≠ Slots.lastId ∧ node.Consistent := by
  rw [← fault?_eq_none_iff, validate]
  cases node.fault? <;> simp

end Node

end CallChain
