import CallChain.Proofs.Lowering.Steps

/-! The inputs of the steps made for a node: each takes an earlier output or reads a pin, and each
reading of a pin is an input of just the step it names. -/

namespace CallChain

/-- A feed that depends on no link and on no other step. -/
def Feed.IsConstant : Feed → Prop
  | literal _ | ambient => True
  | linked _ | step _ _ => False

/-- A feed is an output that an earlier step of the plan gives. -/
def Plan.GivenBefore (plan : Plan) (reader : Step) (feed : Feed) : Prop :=
  ∃ producer, feed = .step producer.id producer.call.output ∧
    plan.step? producer.id = some producer ∧ producer.id.raw < reader.id.raw

namespace Node

variable {node : Node} {feeds : Feeds} {plan : Plan}

/-- What a pin takes: the output linked to it, and a constant when there is no link. -/
def Takes (node : Node) (pin : Pin) (feed : Feed) : Prop :=
  match node.link? pin with
  | some link => feed = .linked link.source
  | none => feed.IsConstant

/-- What serves a pin is what it takes, unless the pin falls back to something that varies. -/
theorem Serves.takes {pin : Pin} {fallback : Option Feed} {feed : Feed}
    (serves : node.Serves pin fallback feed)
    (constant : ∀ other, fallback = some other → other.IsConstant) : node.Takes pin feed := by
  unfold Serves at serves
  unfold Takes
  -- A link is taken as it is; it is the fallback that has to be looked at.
  cases linked : node.link? pin with
  | some link =>
    simp only [linked] at serves
    exact serves.1
  | none =>
    simp only [linked] at serves
    exact constant feed serves

/-- The context pin takes its link or the context of whoever runs the plan. -/
theorem takes_context {feed : Feed} (serves : node.Serves (.fixed .context) (some .ambient) feed) :
    node.Takes (.fixed .context) feed :=
  serves.takes (by rintro _ ⟨⟩; trivial)

/-- A required pin takes its link or its literal. -/
theorem takes_required {pin : FixedPin} {feed : Feed}
    (serves : node.Serves (.fixed pin) ((node.fixed.literal? pin).map .literal) feed) :
    node.Takes (.fixed pin) feed := by
  refine serves.takes fun other falls => ?_
  obtain ⟨value, _, rfl⟩ := Option.map_eq_some_iff.mp falls
  trivial

/-- The pin of a slot takes its link or a literal. -/
theorem takes_slot {slot : Slot} {feed : Feed} (serves : node.ServesSlot slot feed) :
    node.Takes (.slot slot.id) feed :=
  serves.takes (by rintro _ ⟨⟩; trivial)

/-- The feed at the position of a slot serves the slot. -/
theorem Lowers.serves_slot (lowers : node.Lowers feeds plan) {position : Nat} {slot : Slot}
    {value : Feed} (placed : node.slots.entries[position]? = some slot)
    (valued : feeds.values[position]? = some value) : node.ServesSlot slot value := by
  have paired : (node.slots.entries.zip feeds.values)[position]? = some (slot, value) :=
    List.getElem?_zip_eq_some.mpr ⟨placed, valued⟩
  exact (List.forall₂_iff_zip.mp lowers.values).2 (List.mem_of_getElem? paired)

/-- Where there is a slot, there is a feed for it. -/
theorem Lowers.exists_value (lowers : node.Lowers feeds plan) {position : Nat}
    (inside : position < node.slots.entries.length) :
    ∃ value, feeds.values[position]? = some value := by
  rw [lowers.values.length_eq] at inside
  exact ⟨_, List.getElem?_eq_getElem inside⟩

/-- The steps of a plan are the two calls every node needs, and one for each slot. -/
theorem Lowers.mem_steps_iff (lowers : node.Lowers feeds plan) {step : Step} :
    step ∈ plan.steps ↔ step = Plan.locateStep feeds.context ∨
      step = Plan.createStep feeds.path feeds.itemId feeds.priority feeds.context ∨
      ∃ position slot value, node.slots.entries[position]? = some slot ∧
        feeds.values[position]? = some value ∧ step = Plan.propertyStep position slot value := by
  rw [lowers.steps, Plan.stepsOf, List.mem_cons, List.mem_cons, Plan.mem_propertySteps_iff]
  simp only [List.getElem?_zip_eq_some, Nat.zero_add, and_assoc]

/-- Every input of a step takes what an earlier step gives, or else reads a pin of the node. -/
theorem Lowers.input_origin (lowers : node.Lowers feeds plan)
    (small : node.slots.entries.length ≤ 4294967294) {step : Step} (member : step ∈ plan.steps)
    {entry : FedInput} (read : entry ∈ step.inputs) :
    plan.GivenBefore step entry.feed ∨ ∃ use ∈ node.pinUses, use.step = step.id ∧
      use.input = entry.input ∧ node.Takes use.pin entry.feed := by
  have chain := lowers.isChain small
  rcases lowers.mem_steps_iff.mp member with rfl | rfl | ⟨position, slot, value, placed, valued, rfl⟩
  · -- The first call reads nothing but the context.
    obtain rfl := List.mem_singleton.mp read
    exact .inr ⟨⟨.fixed .context, Plan.locateId, .context⟩, by simp [pinUses], rfl, rfl,
      takes_context lowers.context⟩
  · simp only [Plan.createStep, List.mem_cons, List.not_mem_nil, or_false] at read
    rcases read with rfl | rfl | rfl | rfl | rfl
    · -- The manager comes from the call before it.
      have located := chain.numbered.step?_eq (show plan.steps = [] ++ _ from lowers.steps)
      exact .inl ⟨_, rfl, located, show Plan.locateId.raw < Plan.createId.raw by decide⟩
    · exact .inr ⟨⟨.fixed .path, Plan.createId, .path⟩, by simp [pinUses], rfl, rfl,
        takes_required lowers.path⟩
    · exact .inr ⟨⟨.fixed .itemId, Plan.createId, .itemId⟩, by simp [pinUses], rfl, rfl,
        takes_required lowers.itemId⟩
    · exact .inr ⟨⟨.fixed .priority, Plan.createId, .priority⟩, by simp [pinUses], rfl, rfl,
        takes_required lowers.priority⟩
    · exact .inr ⟨⟨.fixed .context, Plan.createId, .context⟩, by simp [pinUses], rfl, rfl,
        takes_context lowers.context⟩
  · have inside := (List.getElem?_eq_some_iff.mp placed).1
    simp only [Plan.propertyStep, List.mem_cons, List.not_mem_nil, or_false] at read
    rcases read with rfl | rfl
    · -- The object comes from the call that asked for the item.
      have created := chain.numbered.step?_eq (show plan.steps = [_] ++ _ from lowers.steps)
      exact .inl ⟨_, rfl, created, Plan.createId_lt_propertyId (by omega)⟩
    · have serves := lowers.serves_slot placed valued
      refine .inr ⟨⟨.slot slot.id, Plan.propertyId position, .value⟩, ?_, rfl, rfl,
        takes_slot serves⟩
      obtain ⟨bound, here⟩ := List.getElem?_eq_some_iff.mp placed
      exact List.mem_append_right _ (List.mem_mapIdx.mpr ⟨position, bound, by rw [here]⟩)

/-- Every reading of a pin is an input of the step it names, which takes what the pin takes. -/
theorem Lowers.use_fed (lowers : node.Lowers feeds plan) {use : PinUse}
    (read : use ∈ node.pinUses) :
    ∃ step ∈ plan.steps, step.id = use.step ∧ ∃ feed, step.feed? use.input = some feed ∧
      node.Takes use.pin feed := by
  have locate := lowers.mem_steps_iff.mpr (.inl rfl)
  have create := lowers.mem_steps_iff.mpr (.inr (.inl rfl))
  rcases List.mem_append.mp read with fixed | slotted
  · -- The five readings of fixed pins are inputs of the first two steps.
    simp only [List.mem_cons, List.not_mem_nil, or_false] at fixed
    rcases fixed with rfl | rfl | rfl | rfl | rfl
    · exact ⟨_, locate, rfl, _, rfl, takes_context lowers.context⟩
    · exact ⟨_, create, rfl, _, rfl, takes_required lowers.path⟩
    · exact ⟨_, create, rfl, _, rfl, takes_required lowers.itemId⟩
    · exact ⟨_, create, rfl, _, rfl, takes_required lowers.priority⟩
    · exact ⟨_, create, rfl, _, rfl, takes_context lowers.context⟩
  · -- The property step of the slot stands at the position of the slot.
    obtain ⟨position, bound, rfl⟩ := List.mem_mapIdx.mp slotted
    obtain ⟨value, valued⟩ := lowers.exists_value bound
    have placed := List.getElem?_eq_getElem bound
    have set := lowers.mem_steps_iff.mpr (.inr (.inr ⟨position, _, value, placed, valued, rfl⟩))
    exact ⟨_, set, rfl, _, rfl, takes_slot (lowers.serves_slot placed valued)⟩

end Node

end CallChain
