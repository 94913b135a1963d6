import CallChain.Proofs.Lowering.Handover
import CallChain.Proofs.Plan.Edits

/-! What the slots of a node are fed with, and the plan that is made of these feeds. -/

namespace CallChain

/-- The steps that come before those of the slots. -/
def Plan.headSteps (feeds : Feeds) : List Step :=
  [locateStep feeds.context, createStep feeds.path feeds.itemId feeds.priority feeds.context]

namespace Node

variable {node after : Node} {feeds : Feeds} {plan edited : Plan} {pin : Pin} {slot : Slot}

/-- What a slot is fed with: the output linked to it, or else its literal, or else the zero of its
type. -/
def feedOf (node : Node) (slot : Slot) : Feed :=
  match node.link? (.slot slot.id) with
  | some link => .linked link.source
  | none => .literal (slot.default.getD (.zero slot.type))

/-- A slot with what it is fed with. -/
def fed (node : Node) (slot : Slot) : Slot × Feed := (slot, node.feedOf slot)

/-- The slots of a node with what they are fed with. -/
def fedSlots (node : Node) : List (Slot × Feed) :=
  node.slots.entries.map node.fed

/-- The link of a pin fits the pin, if there is one. -/
def Fits (node : Node) (pin : Pin) : Prop :=
  ∀ link, node.link? pin = some link →
    ∃ expected, node.pinType? pin = some expected ∧ expected.accepts link.sourceType

@[simp] theorem fed_fst (node : Node) (slot : Slot) : (node.fed slot).1 = slot := rfl

@[simp] theorem fed_snd (node : Node) (slot : Slot) : (node.fed slot).2 = node.feedOf slot := rfl

/-- A slot without a link is fed with a literal. -/
theorem feedOf_unlinked (slot : Slot) (unlinked : node.link? (.slot slot.id) = none) :
    node.feedOf slot = .literal (slot.default.getD (.zero slot.type)) := by
  rw [feedOf, unlinked]

/-- A slot with a link is fed with the output it is linked to. -/
theorem feedOf_linked (slot : Slot) {link : Link}
    (linked : node.link? (.slot slot.id) = some link) : node.feedOf slot = .linked link.source := by
  rw [feedOf, linked]

/-- Every slot is fed. -/
@[simp] theorem length_fedSlots (node : Node) :
    node.fedSlots.length = node.slots.entries.length :=
  List.length_map _

/-- The slots that are fed are those of the node. -/
theorem fedSlots_eq_zip (node : Node) :
    node.fedSlots = node.slots.entries.zip (node.slots.entries.map node.feedOf) :=
  List.map_prod_left_eq_zip

/-- What serves a slot is what it is fed with, as long as its link fits. -/
theorem servesSlot_iff {feed : Feed} :
    node.ServesSlot slot feed ↔ feed = node.feedOf slot ∧ node.Fits (.slot slot.id) := by
  unfold ServesSlot Serves feedOf Fits
  -- Without a link there is nothing that would have to fit.
  cases node.link? (.slot slot.id) with
  | none =>
    simp only [Option.some.injEq, reduceCtorEq, IsEmpty.forall_iff, implies_true, and_true]
    exact eq_comm
  | some link => simp

/-- What serves a pin serves it in every node where the pin has the same link and type. -/
theorem Serves.congr {fallback : Option Feed} {feed : Feed}
    (serves : node.Serves pin fallback feed) (linked : after.link? pin = node.link? pin)
    (typed : after.pinType? pin = node.pinType? pin) : after.Serves pin fallback feed := by
  unfold Serves at serves ⊢
  rw [linked, typed]
  exact serves

/-- The slots of a node that is lowered are fed one by one. -/
theorem Lowers.values_eq (lowers : node.Lowers feeds plan) :
    feeds.values = node.slots.entries.map node.feedOf := by
  have each := lowers.values.imp fun _ _ serves => (servesSlot_iff.mp serves).1
  rw [← List.forall₂_eq_eq_eq, List.forall₂_map_right_iff]
  exact each.flip.imp fun _ _ same => same

/-- The links of the slots of a node that is lowered fit. -/
theorem Lowers.fits (lowers : node.Lowers feeds plan) (member : slot ∈ node.slots.entries) :
    node.Fits (.slot slot.id) := by
  obtain ⟨position, inside, here⟩ := List.mem_iff_getElem.mp member
  obtain ⟨value, valued⟩ := lowers.exists_value inside
  have placed : node.slots.entries[position]? = some slot :=
    List.getElem?_eq_some_iff.mpr ⟨inside, here⟩
  exact (servesSlot_iff.mp (lowers.serves_slot placed valued)).2

/-- The steps of a plan are the two that every node needs, and one for each slot. -/
theorem Lowers.steps_eq (lowers : node.Lowers feeds plan) :
    plan.steps = Plan.headSteps feeds ++ Plan.propertySteps 0 node.fedSlots := by
  rw [lowers.steps, Plan.stepsOf, lowers.values_eq, fedSlots_eq_zip]
  rfl

/-- There are two steps more than slots. -/
theorem Lowers.length_steps (lowers : node.Lowers feeds plan) :
    plan.steps.length = node.slots.entries.length + 2 := by
  rw [lowers.steps_eq, List.length_append, Plan.propertySteps_length, length_fedSlots, Nat.add_comm]
  rfl

/-- The plan of a node has no control and no redirects but what its steps need. -/
theorem Lowers.regular (lowers : node.Lowers feeds plan) : plan.Regular where
  control := lowers.control
  redirects := by
    rw [lowers.intakes_eq]
    exact (redirects_eq_ok_iff.mp lowers.redirects).2

/-- A node has the plan that belongs to it. -/
theorem Lowers.lower_eq_ok (lowers : node.Lowers feeds plan) : node.lower = .ok plan := by
  have values : node.slots.entries.mapM node.slotFeed = .ok feeds.values :=
    mapM_eq_ok_iff.mpr (lowers.values.imp fun _ _ serves => slotFeed_eq_ok_iff.mpr serves)
  have whole : plan = ⟨node.id, Plan.stepsOf node.slots.entries feeds,
      Plan.chainEdges (Plan.stepsOf node.slots.entries feeds), plan.redirects, Plan.handle⟩ := by
    rw [← lowers.steps, ← lowers.control, ← lowers.output, ← lowers.nodeId]
  -- Every stage of lowering gives what belongs to the plan.
  unfold lower
  rw [contextFeed_eq_ok_iff.mpr lowers.context, requiredFeed_eq_ok_iff.mpr lowers.path,
    requiredFeed_eq_ok_iff.mpr lowers.itemId, requiredFeed_eq_ok_iff.mpr lowers.priority, values,
    lowers.redirects, whole]
  simp only [Plan.stepsOf, ← Plan.mapIdx_propertyStep, Nat.zero_add]
  rfl

/-- A node is lowered to a plan with the head steps of another node's plan, as long as its fixed
pins are as they are there, the links of its slots fit, and no link is read more often. -/
theorem Lowers.lower_eq_of_regular (lowers : node.Lowers feeds plan)
    (nodeId : edited.nodeId = after.id) (output : edited.output = plan.output)
    (steps : edited.steps = Plan.headSteps feeds ++ Plan.propertySteps 0 after.fedSlots)
    (regular : edited.Regular) (literals : after.fixed = node.fixed)
    (wired : ∀ fixed, after.link? (.fixed fixed) = node.link? (.fixed fixed))
    (fits : ∀ slot ∈ after.slots.entries, after.Fits (.slot slot.id))
    (kept : ∀ pin link, after.link? pin = some link → node.link? pin = some link)
    (fewer : ∀ pin, (Intake.onPin pin edited.intakes).length ≤
      (Intake.onPin pin plan.intakes).length) :
    after.lower = .ok edited := by
  have context := lowers.context.congr (wired .context) rfl
  have path := lowers.path.congr (wired .path) rfl
  have itemId := lowers.itemId.congr (wired .itemId) rfl
  have priority := lowers.priority.congr (wired .priority) rfl
  rw [← literals] at path itemId priority
  have values : List.Forall₂ after.ServesSlot after.slots.entries
      (after.slots.entries.map after.feedOf) :=
    List.forall₂_map_right_iff.mpr (List.forall₂_same.mpr fun slot member =>
      servesSlot_iff.mpr ⟨rfl, fits slot member⟩)
  have made : edited.steps = Plan.stepsOf after.slots.entries
      { feeds with values := after.slots.entries.map after.feedOf } := by
    rw [steps, fedSlots_eq_zip]
    rfl
  -- What is read over links are the intakes of the node.
  have read : edited.intakes = after.intakes := by
    rw [Plan.intakes, made]
    exact intakes_stepsOf (takes_context context) (takes_required path) (takes_required itemId)
      (takes_required priority) values
  -- A link that would be spread against its mode would have been there as well.
  have exclusive : after.KeepsExclusive := by
    intro pin link linked alone
    have few := (redirects_eq_ok_iff.mp lowers.redirects).1 pin link (kept pin link linked) alone
    rw [← lowers.intakes_eq] at few
    rw [← read]
    exact (fewer pin).trans few
  have belongs :
      after.Lowers { feeds with values := after.slots.entries.map after.feedOf } edited :=
    { nodeId, steps := made, control := regular.control
      redirects := redirects_eq_ok_iff.mpr ⟨exclusive, read ▸ regular.redirects⟩
      output := output.trans lowers.output, context, path, itemId, priority, values }
  exact belongs.lower_eq_ok

end Node

end CallChain
