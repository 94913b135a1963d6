import CallChain.Proofs.Lowering.Wiring
import CallChain.Proofs.Node.Consistency

/-! The check after loading: it accepts just the nodes that keep to everything a schema promises,
and of any other node it reports what is wrong with it first. -/

namespace CallChain

/-- The element whose second occurrence comes first: the elements before it are all different, and
it is one of them. -/
def RepeatsFirst {α : Type} (elements : List α) (element : α) : Prop :=
  -- The element after the split is its second occurrence.
  ∃ before after, elements = before ++ element :: after ∧ before.Nodup ∧ element ∈ before

/-- What is wrong first with a slot of a table that gives out `nextId` next. -/
inductive Slot.FirstFault (slot : Slot) (node : String) (nextId : UInt32) : NodeFault → Prop where
  | beyond (beyond : ¬ slot.id.raw < nextId) :
      FirstFault slot node nextId (.corrupt node (.idBeyondNext slot.id nextId))
  | misnamed (below : slot.id.raw < nextId) (refused : ¬ NameAllowed slot.name) :
      FirstFault slot node nextId (.corrupt node (.nameNotAllowed slot.name))
  | mistyped {value : Value} (below : slot.id.raw < nextId) (named : NameAllowed slot.name)
      (literal : slot.default = some value) (other : value.type ≠ slot.type) :
      FirstFault slot node nextId (.defaultTypeMismatch slot.name slot.type value.type)

namespace Node

/-- What is wrong first with a node: nothing that is looked at before is wrong. -/
inductive FirstFault (node : Node) : NodeFault → Prop where
  | exhausted (spent : node.slots.nextId = Slots.lastId) :
      FirstFault node (.corrupt node.id .idsExhausted)
  | repeatedId {id : SlotId} (growing : node.slots.nextId ≠ Slots.lastId)
      (repeats : RepeatsFirst (node.slots.entries.map Slot.id) id) :
      FirstFault node (.corrupt node.id (.repeatedId id))
  | repeatedName {name : String} (growing : node.slots.nextId ≠ Slots.lastId)
      (ids : (node.slots.entries.map Slot.id).Nodup)
      (repeats : RepeatsFirst (node.slots.entries.map Slot.name) name) :
      FirstFault node (.corrupt node.id (.repeatedName name))
  /-- The slots are gone through in the order of the table. -/
  | slot {before after : List Slot} {slot : Slot} {fault : NodeFault}
      (growing : node.slots.nextId ≠ Slots.lastId)
      (ids : (node.slots.entries.map Slot.id).Nodup)
      (names : (node.slots.entries.map Slot.name).Nodup)
      (split : node.slots.entries = before ++ slot :: after)
      (sound : ∀ earlier ∈ before, earlier.Sound node.slots.nextId)
      (wrong : slot.FirstFault node.id node.slots.nextId fault) : FirstFault node fault
  | repeatedPin {pin : Pin} (growing : node.slots.nextId ≠ Slots.lastId)
      (ids : (node.slots.entries.map Slot.id).Nodup)
      (names : (node.slots.entries.map Slot.name).Nodup)
      (slots : ∀ slot ∈ node.slots.entries, slot.Sound node.slots.nextId)
      (repeats : RepeatsFirst (node.links.map Link.pin) pin) :
      FirstFault node (.corrupt node.id (.repeatedPin pin))
  /-- The links are gone through in the order in which they were made. -/
  | stray {before after : List Link} {link : Link} (growing : node.slots.nextId ≠ Slots.lastId)
      (ids : (node.slots.entries.map Slot.id).Nodup)
      (names : (node.slots.entries.map Slot.name).Nodup)
      (slots : ∀ slot ∈ node.slots.entries, slot.Sound node.slots.nextId)
      (pins : (node.links.map Link.pin).Nodup) (split : node.links = before ++ link :: after)
      (landed : ∀ earlier ∈ before, node.HasPin earlier.pin) (missing : ¬ node.HasPin link.pin) :
      FirstFault node (.corrupt node.id (.danglingLink link.source link.pin))

variable {node : Node} {slot : Slot} {link : Link} {fault : NodeFault}

/-- A pin has a type just if it is one of the pins of the node. -/
theorem exists_pinType?_iff {pin : Pin} :
    (∃ type, node.pinType? pin = some type) ↔ node.HasPin pin := by
  rw [← Option.isSome_iff_exists]
  constructor
  · intro typed
    cases pin with
    | fixed fixed =>
      -- Every node has the fixed pins.
      exact .inl ⟨fixed, rfl⟩
    | slot id =>
      -- The type of a slot pin is that of the slot which its id finds.
      obtain ⟨type, found⟩ := Option.isSome_iff_exists.mp typed
      obtain ⟨slot, held, _⟩ := Option.map_eq_some_iff.mp found
      obtain ⟨member, same⟩ := Slots.get?_eq_some held
      exact .inr ⟨slot, member, congrArg Pin.slot same.symm⟩
  · exact HasPin.pinType?_isSome

/-- The check of a slot reports what is wrong with it first. -/
theorem slotFault?_eq_some_iff :
    node.slotFault? slot = some fault ↔ slot.FirstFault node.id node.slots.nextId fault := by
  unfold slotFault?
  -- The id is looked at first, then the name, and the literal last.
  by_cases below : slot.id.raw < node.slots.nextId
  · rw [if_neg (UInt32.not_le.mpr below)]
    by_cases named : Slot.NameAllowed slot.name
    · obtain ⟨valid, free⟩ := Slot.nameAllowed_iff.mp named
      rw [if_neg (by simp [valid, free])]
      constructor
      · intro found
        split at found
        · -- A literal of another type is all that can be wrong with the slot.
          next value mistyped =>
          obtain ⟨literal, other⟩ := Option.filter_eq_some_iff.mp mistyped
          cases found
          exact .mistyped below named literal (bne_iff_ne.mp other)
        · cases found
      · intro wrong
        cases wrong with
        | beyond beyond => exact absurd below beyond
        | misnamed _ refused => exact absurd named refused
        | @mistyped value _ _ literal other =>
          have picked : slot.default.filter (fun value => value.type != slot.type) = some value :=
            Option.filter_eq_some_iff.mpr ⟨literal, bne_iff_ne.mpr other⟩
          rw [picked]
    · have refused : (!Slot.isValidName slot.name || Slot.isReserved slot.name) = true := by
        by_contra accepted
        exact named (Slot.nameAllowed_iff.mpr (by simpa using accepted))
      rw [if_pos refused]
      constructor
      · intro found
        cases found
        exact .misnamed below named
      · intro wrong
        cases wrong with
        | beyond beyond => exact absurd below beyond
        | misnamed => rfl
        | mistyped _ accepted => exact absurd accepted named
  · rw [if_pos (UInt32.not_lt.mp below)]
    constructor
    · intro found
      cases found
      exact .beyond below
    · intro wrong
      cases wrong with
      | beyond => rfl
      | misnamed below' | mistyped below' => exact absurd below' below

/-- The check of a link reports that it lands nowhere. -/
theorem linkFault?_eq_some_iff : node.linkFault? link = some fault ↔
    ¬ node.HasPin link.pin ∧ fault = .corrupt node.id (.danglingLink link.source link.pin) := by
  rw [← exists_pinType?_iff]
  unfold linkFault?
  cases node.pinType? link.pin <;> simp [eq_comm]

/-- The fault that is found in a node is what is wrong with it first. -/
theorem fault?_eq_some_iff : node.fault? = some fault ↔ node.FirstFault fault := by
  unfold fault?
  by_cases spent : node.slots.nextId = Slots.lastId
  · -- A counter that has run out is reported before anything else is looked at.
    have counted : node.slots.nextId = 4294967295 := spent
    rw [if_pos counted]
    constructor
    · intro found
      cases found
      exact .exhausted spent
    · intro wrong
      cases wrong with
      | exhausted => rfl
      | repeatedId growing | repeatedName growing | slot growing | repeatedPin growing
        | stray growing => exact absurd spent growing
  · have uncounted : ¬ node.slots.nextId = 4294967295 := spent
    -- A check has its say just if all those before it have found nothing.
    simp only [uncounted, if_false, Option.orElse_eq_orElse, Option.orElse_eq_or,
      Option.or_eq_some_iff, Option.map_eq_some_iff, Option.map_eq_none_iff,
      firstRepeated?_eq_none_iff, firstRepeated?_eq_some_iff, List.findSome?_eq_none_iff,
      List.findSome?_eq_some_iff, slotFault?_eq_none_iff, slotFault?_eq_some_iff,
      linkFault?_eq_none_iff, linkFault?_eq_some_iff, exists_pinType?_iff]
    constructor
    · intro found
      rcases found with ⟨id, repeats, rfl⟩ | ⟨ids, ⟨name, repeats, rfl⟩ | ⟨names, rest⟩⟩
      · exact .repeatedId spent repeats
      · exact .repeatedName spent ids repeats
      -- Ids and names are different, so the slots are looked at one by one, and then the links.
      rcases rest with ⟨before, slot, after, split, wrong, sound⟩ | ⟨slots, rest⟩
      · exact .slot spent ids names split sound wrong
      rcases rest with ⟨pin, repeats, rfl⟩ |
        ⟨pins, before, link, after, split, ⟨missing, rfl⟩, landed⟩
      · exact .repeatedPin spent ids names slots repeats
      · exact .stray spent ids names slots pins split landed missing
    · intro wrong
      cases wrong with
      | exhausted counted => exact absurd counted spent
      | repeatedId _ repeats => exact .inl ⟨_, repeats, rfl⟩
      | repeatedName _ ids repeats => exact .inr ⟨ids, .inl ⟨_, repeats, rfl⟩⟩
      | slot _ ids names split sound wrong =>
        exact .inr ⟨ids, .inr ⟨names, .inl ⟨_, _, _, split, wrong, sound⟩⟩⟩
      | repeatedPin _ ids names slots repeats =>
        exact .inr ⟨ids, .inr ⟨names, .inr ⟨slots, .inl ⟨_, repeats, rfl⟩⟩⟩⟩
      | stray _ ids names slots pins split landed missing =>
        exact .inr ⟨ids, .inr ⟨names, .inr ⟨slots, .inr
          ⟨pins, _, _, _, split, ⟨missing, rfl⟩, landed⟩⟩⟩⟩

/-- A node is accepted after loading just if its counter has not run out and it is consistent: its
slots have different ids below the counter, different names that are allowed and literals of their
types, and its links have different pins, each of which the node has. A node that is not accepted is
refused for what is wrong with it first. -/
theorem validate_reports_first_fault (node : Node) :
    (node.validate = .ok () ↔ node.slots.nextId ≠ Slots.lastId ∧ node.Consistent) ∧
      (∀ pin, (∃ type, node.pinType? pin = some type) ↔ node.HasPin pin) ∧
      ∀ fault, node.validate = .error fault ↔ node.FirstFault fault := by
  refine ⟨validate_eq_ok_iff, fun pin => exists_pinType?_iff, ?_⟩
  intro fault
  rw [← fault?_eq_some_iff, validate]
  cases node.fault? <;> simp

end Node

end CallChain
