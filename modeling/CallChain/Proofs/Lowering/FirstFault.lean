import CallChain.Proofs.Lowering.Wiring
import CallChain.Proofs.Node.Consistency
import Mathlib.Data.List.Find

/-! The first fault: a node is lowered unless something is wrong with it, and of all that is wrong
with it, what comes first in the order of its pins is reported. -/

namespace CallChain.Node

/-- The fault of a pin of the given name and type whose link does not fit. -/
def misfit? (node : Node) (pin : Pin) (name : String) (type : ValueType) : Option LoweringFault :=
  match node.link? pin with
  | none => none
  | some link =>
    if type.accepts link.sourceType then none
    else some (.incompatible node.id name type link.sourceType)

/-- The fault of a pin that needs a link that fits, or else a literal. -/
def requiredFault? (node : Node) (pin : FixedPin) : Option LoweringFault :=
  match node.link? (.fixed pin), node.fixed.literal? pin with
  | none, none => some (.missingInput node.id pin)
  | _, _ => node.misfit? (.fixed pin) pin.name pin.type

/-- The fault of the context when its link cannot be shared, for two steps read the context. -/
def fanOut? (node : Node) : Option LoweringFault :=
  match node.link? (.fixed .context) with
  | none => none
  | some link =>
    if link.mode = .exclusive then
      some (.exclusiveFanOut node.id (.fixed .context) link.source)
    else none

/-- All that is wrong with a node, in the order in which it is looked for: the context, the pins
that have to be there, the slots, and the sharing of the link of the context. -/
def loweringFaults (node : Node) : List LoweringFault :=
  (node.misfit? (.fixed .context) FixedPin.context.name FixedPin.context.type).toList
    ++ [FixedPin.path, .itemId, .priority].filterMap node.requiredFault?
    ++ (node.slots.entries.filterMap fun slot =>
      node.misfit? (.slot slot.id) slot.name slot.type)
    ++ node.fanOut?.toList

/-- What a node needs to be lowered. -/
structure Lowerable (node : Node) : Prop where
  /-- The pins that have to be there are linked or have a literal. -/
  given : ∀ pin ∈ [FixedPin.path, .itemId, .priority],
    (node.link? (.fixed pin)).isSome ∨ (node.fixed.literal? pin).isSome
  /-- The link of a fixed pin fits, if there is one. -/
  fixed : ∀ pin : FixedPin, ∀ link, node.link? (.fixed pin) = some link →
    pin.type.accepts link.sourceType = true
  /-- The link of a slot fits, if there is one. -/
  slots : ∀ slot ∈ node.slots.entries, ∀ link, node.link? (.slot slot.id) = some link →
    slot.type.accepts link.sourceType = true
  /-- The link of the context can be shared, if there is one. -/
  shared : ∀ link, node.link? (.fixed .context) = some link → link.mode ≠ .exclusive

/-- The node without the links that land on no pin of it. -/
def withoutStrays (node : Node) : Node :=
  { node with links := node.links.filter fun link => (node.pinType? link.pin).isSome }

variable {node : Node}

/-- A pin has no misfit just if its link, should there be one, fits. -/
theorem misfit?_eq_none_iff {pin : Pin} {name : String} {type : ValueType} :
    node.misfit? pin name type = none ↔
      ∀ link, node.link? pin = some link → type.accepts link.sourceType = true := by
  unfold misfit?
  cases node.link? pin <;> simp

/-- A pin that has to be there has no fault just if it is linked or has a literal, and its link
fits. -/
theorem requiredFault?_eq_none_iff {pin : FixedPin} :
    node.requiredFault? pin = none ↔
      ((node.link? (.fixed pin)).isSome ∨ (node.fixed.literal? pin).isSome) ∧
        ∀ link, node.link? (.fixed pin) = some link → pin.type.accepts link.sourceType = true := by
  have fits : node.misfit? (.fixed pin) pin.name pin.type = none ↔ _ := misfit?_eq_none_iff
  rw [← fits]
  unfold requiredFault?
  -- Either a link or a literal will do, but a link has to fit even where there is a literal.
  cases linked : node.link? (.fixed pin) with
  | none => cases node.fixed.literal? pin <;> simp
  | some link => simp

/-- The link of the context can be shared just if no fault is found in it. -/
theorem fanOut?_eq_none_iff : node.fanOut? = none ↔
    ∀ link, node.link? (.fixed .context) = some link → link.mode ≠ .exclusive := by
  unfold fanOut?
  cases node.link? (.fixed .context) <;> simp

/-- A node is lowerable just if nothing is wrong with it. -/
theorem lowerable_iff : node.Lowerable ↔ node.loweringFaults = [] := by
  simp only [loweringFaults, List.append_eq_nil_iff, Option.toList_eq_nil_iff,
    List.filterMap_eq_nil_iff, misfit?_eq_none_iff, requiredFault?_eq_none_iff, fanOut?_eq_none_iff]
  constructor
  · rintro ⟨given, fixed, slots, shared⟩
    exact ⟨⟨⟨fixed .context, fun pin needed => ⟨given pin needed, fixed pin⟩⟩, slots⟩, shared⟩
  · rintro ⟨⟨⟨context, required⟩, slots⟩, shared⟩
    refine ⟨fun pin needed => (required pin needed).1, fun pin => ?_, slots, shared⟩
    -- Every fixed pin but the context has to be there.
    cases pin with
    | context => exact context
    | path | itemId | priority => exact (required _ (by simp)).2

/-- A link to a pin of the node fails just if it does not fit. -/
theorem faultOf?_linkedFeed {pin : Pin} {type : ValueType} (typed : node.pinType? pin = some type) :
    faultOf? (node.linkedFeed pin) = node.misfit? pin (node.pinName pin) type := by
  unfold linkedFeed misfit?
  cases node.link? pin with
  | none => rfl
  | some link =>
    simp only [typed]
    split <;> rfl

/-- The context fails at its link. -/
theorem faultOf?_contextFeed :
    faultOf? node.contextFeed =
      node.misfit? (.fixed .context) FixedPin.context.name FixedPin.context.type := by
  rw [contextFeed, faultOf?_bind fun _ => faultOf?_pure _, Option.or_none]
  exact faultOf?_linkedFeed rfl

/-- A pin that has to be there fails at its link, or without one at its literal. -/
theorem faultOf?_requiredFeed {pin : FixedPin} :
    faultOf? (node.requiredFeed pin) = node.requiredFault? pin := by
  unfold requiredFeed requiredFault? misfit? linkedFeed
  -- The literal is only looked at when there is no link.
  cases node.link? (.fixed pin) with
  | none => cases node.fixed.literal? pin <;> rfl
  | some link =>
    simp only [pinType?]
    split <;> rfl

/-- A slot of a node with distinct ids fails at its link. -/
theorem faultOf?_slotFeed (distinct : (node.slots.entries.map Slot.id).Nodup) {slot : Slot}
    (member : slot ∈ node.slots.entries) :
    faultOf? (node.slotFeed slot) = node.misfit? (.slot slot.id) slot.name slot.type := by
  -- With distinct ids, the pin of a slot has the type and the name of just this slot.
  have found := Slots.get?_eq_some_of_mem distinct member
  have typed : node.pinType? (.slot slot.id) = some slot.type := by
    rw [pinType?, found, Option.map_some]
  have named : node.pinName (.slot slot.id) = slot.name := by
    rw [pinName, found, Option.map_some, Option.getD_some]
  rw [slotFeed, faultOf?_bind fun _ => faultOf?_pure _, Option.or_none, faultOf?_linkedFeed typed,
    named]

/-- The pins that are read, the first reading of the context apart. -/
def laterPins (node : Node) : List Pin :=
  [.fixed .path, .fixed .itemId, .fixed .priority, .fixed .context]
    ++ node.slots.entries.map fun slot => .slot slot.id

/-- The context is read first, and then every pin of the node. -/
theorem map_pin_pinUses : node.pinUses.map PinUse.pin = .fixed .context :: node.laterPins := by
  have slots : (node.slots.entries.mapIdx fun position slot =>
      (⟨.slot slot.id, Plan.propertyId position, .value⟩ : PinUse)).map PinUse.pin =
        node.slots.entries.map fun slot => .slot slot.id := by
    refine List.ext_getElem? fun position => ?_
    simp only [List.getElem?_map, List.getElem?_mapIdx, Option.map_map]
    rfl
  rw [pinUses, List.map_append, slots]
  rfl

/-- No pin is read twice after that. -/
theorem nodup_laterPins (distinct : (node.slots.entries.map Slot.id).Nodup) :
    node.laterPins.Nodup := by
  have slots : (node.slots.entries.map fun slot => Pin.slot slot.id).Nodup := by
    have pinned := distinct.map (f := Pin.slot) fun _ _ same => Pin.slot.inj same
    rwa [List.map_map] at pinned
  rw [laterPins, List.nodup_append]
  exact ⟨by decide, slots, by simp⟩

/-- The readings of a pin are counted among the pins that are read. -/
theorem length_uses (pin : Pin) :
    (node.pinUses.filter fun use => use.pin == pin).length =
      node.laterPins.count pin + if .fixed .context = pin then 1 else 0 := by
  -- Each reading is of one pin, so readings can be counted by their pins.
  have counted : (node.pinUses.map PinUse.pin).count pin =
      (node.pinUses.filter fun use => use.pin == pin).length := by
    rw [List.count, List.countP_map, List.countP_eq_length_filter]
    rfl
  rw [← counted, map_pin_pinUses, List.count_cons]
  simp only [beq_iff_eq]

/-- The link of the context fails just if it is exclusive, for the context is read twice. -/
theorem faultOf?_redirectsOf_context :
    faultOf? (node.redirectsOf (.fixed .context)) = node.fanOut? := by
  have again : 0 < node.laterPins.count (.fixed .context) :=
    List.count_pos_iff.mpr (by simp [laterPins])
  have twice : 1 < (node.pinUses.filter fun use => use.pin == .fixed .context).length := by
    rw [length_uses, if_pos rfl]
    omega
  unfold redirectsOf fanOut?
  cases node.link? (.fixed .context) with
  | none => rfl
  | some link =>
    simp only [twice, and_true]
    split <;> rfl

/-- The link of any other pin is never spread, so it does not fail. -/
theorem faultOf?_redirectsOf (distinct : (node.slots.entries.map Slot.id).Nodup) {pin : Pin}
    (other : pin ≠ .fixed .context) : faultOf? (node.redirectsOf pin) = none := by
  have once : ¬ 1 < (node.pinUses.filter fun use => use.pin == pin).length := by
    have few := List.nodup_iff_count_le_one.mp (nodup_laterPins distinct) pin
    rw [length_uses, if_neg other.symm]
    omega
  unfold redirectsOf
  cases node.link? pin with
  | none => rfl
  | some link =>
    simp only [once, and_false, if_false]
    rfl

/-- The links of a node with distinct ids fail just at that of the context. -/
theorem faultOf?_redirects (distinct : (node.slots.entries.map Slot.id).Nodup) :
    faultOf? node.redirects = node.fanOut? := by
  -- After the context, which comes first, no pin is left whose link is spread.
  have others : (node.laterPins.filter fun pin => !pin == .fixed .context).eraseDups.filterMap
      (fun pin => faultOf? (node.redirectsOf pin)) = [] := by
    rw [List.filterMap_eq_nil_iff]
    intro pin member
    have other : pin ≠ .fixed .context := by
      simpa using (List.mem_filter.mp (List.mem_eraseDups.mp member)).2
    exact faultOf?_redirectsOf distinct other
  rw [redirects, faultOf?_bind fun _ => faultOf?_pure _, Option.or_none, faultOf?_mapM,
    map_pin_pinUses, List.eraseDups_cons, List.filterMap_cons, others, faultOf?_redirectsOf_context]
  cases node.fanOut? <;> rfl

/-- The fault of lowering a node with distinct ids is the first of all that is wrong with it. -/
theorem faultOf?_lower (distinct : (node.slots.entries.map Slot.id).Nodup) :
    faultOf? node.lower = node.loweringFaults.head? := by
  -- No stage asks what the ones before it have given, so their faults can be looked at apart.
  have stages : faultOf? node.lower = (faultOf? node.contextFeed).or
      ((faultOf? (node.requiredFeed .path)).or ((faultOf? (node.requiredFeed .itemId)).or
        ((faultOf? (node.requiredFeed .priority)).or
          ((faultOf? (node.slots.entries.mapM node.slotFeed)).or
            ((faultOf? node.redirects).or none))))) :=
    faultOf?_bind fun _ => faultOf?_bind fun _ => faultOf?_bind fun _ => faultOf?_bind fun _ =>
      faultOf?_bind fun _ => faultOf?_bind fun _ => faultOf?_pure _
  have slots : (node.slots.entries.filterMap fun slot => faultOf? (node.slotFeed slot)) =
      node.slots.entries.filterMap fun slot => node.misfit? (.slot slot.id) slot.name slot.type :=
    List.filterMap_congr fun slot member => faultOf?_slotFeed distinct member
  have required : ([FixedPin.path, .itemId, .priority].filterMap node.requiredFault?).head? =
      (node.requiredFault? .path).or
        ((node.requiredFault? .itemId).or (node.requiredFault? .priority)) := by
    cases path : node.requiredFault? .path <;> cases itemId : node.requiredFault? .itemId <;>
      cases priority : node.requiredFault? .priority <;> simp [path, itemId, priority]
  rw [stages, faultOf?_contextFeed, faultOf?_mapM, slots, faultOf?_redirects distinct]
  simp only [faultOf?_requiredFeed, loweringFaults, List.head?_append, Option.head?_toList,
    required, Option.or_assoc, Option.or_none]

/-- Links that land on no pin of a node are nothing to the pins it has. -/
theorem link?_withoutStrays {pin : Pin} (present : (node.pinType? pin).isSome) :
    node.withoutStrays.link? pin = node.link? pin := by
  rw [link?, link?, withoutStrays, List.find?_filter]
  refine List.find?_congr fun link _ => ?_
  -- A link that was left out did not land on the pin in question.
  by_cases landed : link.pin = pin
  · simp [landed, present]
  · simp [landed]

/-- Links that land on no pin of a node make no difference to lowering. -/
theorem lower_withoutStrays (node : Node) : node.withoutStrays.lower = node.lower :=
  SameWiring.lower_eq_of_id
    ⟨rfl, rfl, fun _ has => link?_withoutStrays has.pinType?_isSome⟩ rfl

/-- A node with distinct ids is lowered just if it is lowerable. If it is not, the fault that is
reported is the first of all that is wrong with it, in the order of its pins; this is never that
its plan is malformed. Links that land on no pin of the node make no difference. -/
theorem lower_reports_first_fault (distinct : (node.slots.entries.map Slot.id).Nodup) :
    ((∃ plan, node.lower = .ok plan) ↔ node.Lowerable) ∧
      (∀ fault, node.lower = .error fault ↔ node.loweringFaults.head? = some fault) ∧
      node.withoutStrays.lower = node.lower ∧
      ∀ id cause, node.lower ≠ .error (.invalidPlan id cause) := by
  have first := faultOf?_lower distinct
  refine ⟨?_, fun fault => ?_, lower_withoutStrays node, lower_ne_invalidPlan node⟩
  · rw [← faultOf?_eq_none_iff, first, List.head?_eq_none_iff, lowerable_iff]
  · rw [← faultOf?_eq_some_iff, first]

/-- A node with much that is wrong: its item is not named, its priority and its slot are linked to
texts, the link of its context cannot be shared, and one link lands nowhere. -/
def troubled : Node where
  id := "popup"
  fixed := ⟨some "UI", none, some 0⟩
  slots := ⟨[⟨⟨0⟩, "Title", .string, none⟩, ⟨⟨3⟩, "Width", .float, none⟩], 4⟩
  links := [⟨.fixed .context, ⟨"world", "self"⟩, .object, .exclusive⟩,
    ⟨.fixed .priority, ⟨"box", "label"⟩, .string, .shared⟩,
    ⟨.slot ⟨3⟩, ⟨"box", "label"⟩, .string, .shared⟩,
    ⟨.slot ⟨2⟩, ⟨"box", "gone"⟩, .object, .exclusive⟩]

/-- Of the four faults of the node, the missing name of its item is reported. -/
theorem lower_reports_first_fault_troubled :
    (troubled.slots.entries.map Slot.id).Nodup ∧ troubled.loweringFaults.length = 4 ∧
      troubled.lower = .error (.missingInput "popup" .itemId) ∧ ¬ troubled.Lowerable := by
  have distinct : (troubled.slots.entries.map Slot.id).Nodup := by decide
  have four : troubled.loweringFaults.length = 4 := by decide +kernel
  obtain ⟨lowers, reports, _⟩ := lower_reports_first_fault distinct
  have reported : troubled.lower = .error (.missingInput "popup" .itemId) :=
    (reports _).mpr (by decide +kernel)
  refine ⟨distinct, four, reported, fun lowerable => ?_⟩
  obtain ⟨plan, lowered⟩ := lowers.mpr lowerable
  rw [reported] at lowered
  cases lowered

end CallChain.Node
