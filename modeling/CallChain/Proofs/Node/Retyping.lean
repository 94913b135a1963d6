import CallChain.Proofs.Node.InPlace
import CallChain.Proofs.Value.Conversion

/-! Changing the type of a slot: what fits the new type is kept, and the warnings tell exactly what
is not. -/

namespace CallChain

namespace Slots

variable {table : Slots} {id : SlotId}

/-- Changing the slot with an id leaves it in its place between the others. -/
theorem exists_split_of_get? {slot : Slot} (found : table.get? id = some slot) :
    ∃ front back, table.entries = front ++ slot :: back ∧
      ∀ change, table.modify id change =
        { table with entries := front ++ change slot :: back } := by
  obtain ⟨named, front, back, split, passed⟩ := List.find?_eq_some_iff_append.mp found
  have own : slot.id = id := eq_of_beq named
  refine ⟨front, back, split, ?_⟩
  intro change
  rw [modify, split]
  -- The search for the slot passes everything in front of it, none of which has the id.
  have reached : modifyFirst change id (front ++ slot :: back) = front ++ change slot :: back := by
    clear split
    induction front with
    | nil => simp [modifyFirst, own]
    | cons first rest ih =>
      have other : first.id ≠ id := by simpa using passed first (by simp)
      have later := ih fun slot member => passed slot (by simp [member])
      simp [modifyFirst, other, later]
  rw [reached]

end Slots

namespace Node

/-- A slot of a node was given another type. It stays in its place with its id and its name, and
keeps its literal as far as that converts. A link is dropped if it goes into the slot and the new
type does not take what it brings, and all other links stay in order. The warnings tell first
whether the literal is gone, and then each link that was dropped, in order. -/
structure Recast (before after : Node) (slot : Slot) (type : ValueType)
    (warnings : List Warning) : Prop where
  slots : ∃ front back, before.slots.entries = front ++ slot :: back ∧
    after.slots = { before.slots with entries := front ++
      { slot with type, default := slot.default.bind fun value => value.coerce? type } :: back }
  fixed : after.id = before.id ∧ after.fixed = before.fixed
  links : after.links = before.links.filter fun link =>
    link.pin = .slot slot.id → type.accepts link.sourceType
  told : ∃ discarded dropped,
    warnings = discarded ++ dropped.map (fun link =>
      .linkDropped slot.name link.source link.sourceType type) ∧
    (discarded = [.defaultDiscarded slot.name type] ∧
        (∃ value, slot.default = some value ∧ type.accepts value.type = false) ∨
      discarded = [] ∧ ∀ value, slot.default = some value → type.accepts value.type = true) ∧
    dropped = before.links.filter (fun link =>
      link.pin = .slot slot.id ∧ type.accepts link.sourceType = false) ∧
    (after.links ++ dropped).Perm before.links

variable {node : Node} {slot : Slot} {type : ValueType}

/-- The warning about the literal is given just if there is one that does not convert. -/
theorem discarded_cases (slot : Slot) (type : ValueType) :
    let default := slot.default.bind fun value => value.coerce? type
    let discarded := if slot.default.isSome && default.isNone then
      [Warning.defaultDiscarded slot.name type] else []
    discarded = [.defaultDiscarded slot.name type] ∧
        (∃ value, slot.default = some value ∧ type.accepts value.type = false) ∨
      discarded = [] ∧ ∀ value, slot.default = some value → type.accepts value.type = true := by
  intro default discarded
  cases literal : slot.default with
  | none =>
    -- Without a literal there is nothing to be lost.
    exact .inr ⟨by simp [discarded, literal], by simp⟩
  | some value =>
    have converts : default.isSome = type.accepts value.type := by
      simp only [default, literal, Option.bind_some]
      exact Value.coerce?_isSome value type
    cases fits : type.accepts value.type with
    | true =>
      rw [fits, Option.isSome_iff_ne_none] at converts
      refine .inr ⟨by simp [discarded, converts], ?_⟩
      intro other same
      obtain rfl := Option.some.inj same
      exact fits
    | false =>
      rw [fits, Option.isSome_eq_false_iff] at converts
      exact .inl ⟨by simp [discarded, literal, converts], value, rfl, fits⟩

/-- A link that does not fit any more goes into the slot and brings what the new type does not
take. -/
theorem stillFits_eq_false_iff {id : SlotId} {link : Link} :
    stillFits id type link = false ↔
      link.pin = .slot id ∧ type.accepts link.sourceType = false := by
  simp [stillFits]

/-- A slot that is found and has another type is given the new one, and what does not fit that is
dropped and told. -/
theorem retype_recasts {id : SlotId} (found : node.slots.get? id = some slot)
    (other : slot.type ≠ type) :
    ∃ warnings after, node.retype id type = .ok (after, warnings) ∧
      node.Recast after slot type warnings := by
  have own : slot.id = id := (Slots.get?_eq_some found).2
  subst own
  obtain ⟨front, back, split, changes⟩ := Slots.exists_split_of_get? found
  rw [retype, found]
  simp only [other, if_false]
  refine ⟨_, _, rfl, ?_⟩
  -- What is kept is what is not dropped.
  have kept : node.links.filter (stillFits slot.id type) = node.links.filter fun link =>
      link.pin = .slot slot.id → type.accepts link.sourceType := by
    congr 1
    funext link
    by_cases into : link.pin = .slot slot.id <;> simp [stillFits, into]
  have dropped : (node.links.filter fun link => !stillFits slot.id type link) =
      node.links.filter fun link =>
        link.pin = .slot slot.id ∧ type.accepts link.sourceType = false := by
    congr 1
    funext link
    rw [Bool.eq_iff_iff, Bool.not_eq_true', stillFits_eq_false_iff, decide_eq_true_eq]
  exact {
    slots := ⟨front, back, split, changes _⟩
    fixed := ⟨rfl, rfl⟩
    links := kept
    told := ⟨_, _, rfl, discarded_cases slot type, dropped, List.filter_append_perm _ _⟩ }

/-- On a node with different slot ids, giving a slot the type it has changes nothing and tells
nothing. Giving it another type keeps just what fits, and the warnings tell just what does not. An
id that no slot has is refused, and nothing is changed. -/
theorem retype_keeps_what_fits (node : Node) (ids : (node.slots.entries.map Slot.id).Nodup)
    (id : SlotId) (type : ValueType) :
    ((∀ slot ∈ node.slots.entries, slot.id ≠ id) →
      (Editing.retype id type).run node = .error (.slotNotFound id) node) ∧
    ∀ slot ∈ node.slots.entries, slot.id = id →
      (slot.type = type → (Editing.retype id type).run node = .ok [] node) ∧
      (slot.type ≠ type → ∃ warnings after,
        (Editing.retype id type).run node = .ok warnings after ∧
          node.Recast after slot type warnings) := by
  rw [Editing.run_retype]
  refine ⟨?_, ?_⟩
  · intro unknown
    have missing : node.slots.get? id = none :=
      List.find?_eq_none.mpr fun slot member => by simpa using unknown slot member
    rw [retype, missing]
    rfl
  · intro slot member own
    have found : node.slots.get? id = some slot := own ▸ Slots.get?_eq_some_of_mem ids member
    refine ⟨?_, ?_⟩
    · intro same
      rw [retype, found]
      simp only [same, if_true]
      rfl
    · intro other
      obtain ⟨warnings, after, done, recast⟩ := retype_recasts found other
      exact ⟨warnings, after, by rw [done]; rfl, recast⟩

/-- A node made by hand, with two links into its first slot and one into its second. -/
def meter : Node where
  id := "meter"
  fixed := ⟨some "UI", some "Meter", some 0⟩
  slots := ⟨[⟨⟨3⟩, "Level", .string, some (.string "low")⟩, ⟨⟨1⟩, "Unit", .text, none⟩], 4⟩
  links := [⟨.slot ⟨3⟩, ⟨"label", "text"⟩, .string, .shared⟩,
    ⟨.slot ⟨1⟩, ⟨"label", "unit"⟩, .text, .shared⟩,
    ⟨.slot ⟨3⟩, ⟨"sensor", "count"⟩, .integer, .exclusive⟩]

/-- The level of the meter becomes a float: its literal and the link from the label go, and the link
from the sensor stays. -/
theorem retype_keeps_what_fits_meter :
    (meter.slots.entries.map Slot.id).Nodup ∧
    ∃ slot ∈ meter.slots.entries, slot.id = ⟨3⟩ ∧ slot.type ≠ .float ∧ ∃ warnings after,
      (Editing.retype ⟨3⟩ .float).run meter = .ok warnings after ∧
      warnings = [.defaultDiscarded "Level" .float,
        .linkDropped "Level" ⟨"label", "text"⟩ .string .float] ∧
      after.links = meter.links.drop 1 ∧ meter.Recast after slot .float warnings := by
  have ids : (meter.slots.entries.map Slot.id).Nodup := by decide
  let level : Slot := ⟨⟨3⟩, "Level", .string, some (.string "low")⟩
  have member : level ∈ meter.slots.entries := by simp [level, meter]
  obtain ⟨_, known⟩ := retype_keeps_what_fits meter ids ⟨3⟩ .float
  obtain ⟨warnings, after, done, recast⟩ := (known level member rfl).2 (by decide)
  refine ⟨ids, level, member, rfl, by decide, warnings, after, done, ?_, ?_, recast⟩
  · cases done
    rfl
  · cases done
    rfl

end Node

end CallChain
