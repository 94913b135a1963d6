import CallChain.Proofs.Plan.Chain
import CallChain.Proofs.Sequence

/-! The steps a node is lowered to, what feeds their inputs, and the chain they form. -/

namespace CallChain

/-- What the inputs of the steps made for a node are fed with. -/
structure Feeds where
  context : Feed
  path : Feed
  itemId : Feed
  priority : Feed
  /-- The values of the slots, in slot order. -/
  values : List Feed

namespace Plan

@[simp] theorem locateStep_id (context : Feed) : (locateStep context).id = locateId := rfl

@[simp] theorem locateStep_call (context : Feed) : (locateStep context).call = .locate := rfl

@[simp] theorem createStep_id (path itemId priority context : Feed) :
    (createStep path itemId priority context).id = createId := rfl

@[simp] theorem createStep_call (path itemId priority context : Feed) :
    (createStep path itemId priority context).call = .createOrShow := rfl

@[simp] theorem propertyStep_id (position : Nat) (slot : Slot) (value : Feed) :
    (propertyStep position slot value).id = propertyId position := rfl

@[simp] theorem propertyStep_call (position : Nat) (slot : Slot) (value : Feed) :
    (propertyStep position slot value).call = .setProperty slot.name slot.type := rfl

/-- The steps that set the properties of slots, numbered from a position on. -/
def propertySteps : (position : Nat) → List (Slot × Feed) → List Step
  | _, [] => []
  | position, (slot, value) :: rest =>
    propertyStep position slot value :: propertySteps (position + 1) rest

/-- Property steps are made one by one for the slots at their positions. -/
theorem mapIdx_propertyStep (position : Nat) (pairs : List (Slot × Feed)) :
    (pairs.mapIdx fun offset (slot, value) => propertyStep (position + offset) slot value)
      = propertySteps position pairs := by
  induction pairs generalizing position with
  | nil => rfl
  | cons pair rest ih =>
    rw [List.mapIdx_cons, propertySteps, ← ih (position + 1)]
    -- The rest is counted from one position further on.
    simp only [Nat.add_zero, Nat.add_assoc, Nat.add_comm 1]

/-- There is one property step for each slot. -/
@[simp] theorem propertySteps_length (position : Nat) (pairs : List (Slot × Feed)) :
    (propertySteps position pairs).length = pairs.length := by
  induction pairs generalizing position with
  | nil => rfl
  | cons pair rest ih => simp [propertySteps, ih]

/-- The property step at a position is the one made for the slot there. -/
theorem propertySteps_getElem? (position offset : Nat) (pairs : List (Slot × Feed)) :
    (propertySteps position pairs)[offset]? =
      pairs[offset]?.map fun pair => propertyStep (position + offset) pair.1 pair.2 := by
  rw [← mapIdx_propertyStep, List.getElem?_mapIdx]

/-- The id of a property step counts the two steps before all of them. -/
theorem propertyId_toNat {position : Nat} (small : position < 4294967294) :
    (propertyId position).raw.toNat = position + 2 := by
  -- Ids wrap only past the last one.
  have unwrapped : position + 2 < UInt32.size := by change position + 2 < 4294967296; omega
  exact UInt32.toNat_ofNat_of_lt' unwrapped

/-- Property steps come after the call that asks for the item. -/
theorem createId_lt_propertyId {position : Nat} (small : position < 4294967294) :
    createId.raw < (propertyId position).raw := by
  have number := propertyId_toNat small
  have one : createId.raw.toNat = 1 := rfl
  rw [UInt32.lt_iff_toNat_lt, number, one]
  omega

/-- A property step is never the call that asks for the item. -/
theorem propertyId_ne_createId {position : Nat} (small : position < 4294967294) :
    propertyId position ≠ createId := by
  intro same
  have later := createId_lt_propertyId small
  rw [same] at later
  exact UInt32.lt_irrefl _ later

/-- The property steps are just those made for the slots at their positions. -/
theorem mem_propertySteps_iff {position : Nat} {pairs : List (Slot × Feed)} {step : Step} :
    step ∈ propertySteps position pairs ↔ ∃ offset slot value,
      pairs[offset]? = some (slot, value) ∧ step = propertyStep (position + offset) slot value := by
  rw [List.mem_iff_getElem?]
  simp only [propertySteps_getElem?, Option.map_eq_some_iff, Prod.exists]
  constructor
  · rintro ⟨offset, slot, value, placed, rfl⟩
    exact ⟨offset, slot, value, placed, rfl⟩
  · rintro ⟨offset, slot, value, placed, rfl⟩
    exact ⟨offset, slot, value, placed, rfl⟩

/-- Every property step comes after the call that asks for the item. -/
theorem create_lt_of_mem_propertySteps {position : Nat} {pairs : List (Slot × Feed)} {step : Step}
    (small : position + pairs.length ≤ 4294967294) (member : step ∈ propertySteps position pairs) :
    createId.raw < step.id.raw := by
  obtain ⟨offset, slot, value, placed, rfl⟩ := mem_propertySteps_iff.mp member
  have inside := (List.getElem?_eq_some_iff.mp placed).1
  exact createId_lt_propertyId (by omega)

/-- The steps of a node whose inputs are fed in the given way. -/
def stepsOf (slots : List Slot) (feeds : Feeds) : List Step :=
  locateStep feeds.context ::
    createStep feeds.path feeds.itemId feeds.priority feeds.context ::
    propertySteps 0 (slots.zip feeds.values)

/-- As long as ids do not run out, the steps of a node are numbered. -/
theorem numbered_stepsOf {slots : List Slot} (small : slots.length ≤ 4294967294) (feeds : Feeds) :
    Numbered (stepsOf slots feeds) := by
  intro position step located
  match position with
  | 0 =>
    simp only [stepsOf, List.getElem?_cons_zero, Option.some.injEq] at located
    subst located
    rfl
  | 1 =>
    simp only [stepsOf, List.getElem?_cons_succ, List.getElem?_cons_zero,
      Option.some.injEq] at located
    subst located
    rfl
  | position + 2 =>
    simp only [stepsOf, List.getElem?_cons_succ, propertySteps_getElem?,
      Option.map_eq_some_iff] at located
    obtain ⟨pair, placed, rfl⟩ := located
    -- A slot stands at this position, so the position is below the number of slots.
    have inside : position < (slots.zip feeds.values).length :=
      (List.getElem?_eq_some_iff.mp placed).1
    rw [List.length_zip] at inside
    have small : position < 4294967294 := by omega
    simpa using propertyId_toNat small

end Plan

namespace Node

/-- A feed serves a pin: it is the output linked to the pin if that fits the pin, and else what
the pin falls back to. -/
def Serves (node : Node) (pin : Pin) (fallback : Option Feed) (feed : Feed) : Prop :=
  match node.link? pin with
  | some link => feed = .linked link.source ∧
      ∃ expected, node.pinType? pin = some expected ∧ expected.accepts link.sourceType
  | none => fallback = some feed

/-- A feed serves a slot: without a link it is the literal of the slot, or else the zero of its
type. -/
def ServesSlot (node : Node) (slot : Slot) (feed : Feed) : Prop :=
  node.Serves (.slot slot.id) (some (.literal (slot.default.getD (.zero slot.type)))) feed

/-- Reading the link of a pin succeeds when there is none or it fits. -/
theorem linkedFeed_eq_ok_iff {node : Node} {pin : Pin} {found : Option Feed} :
    node.linkedFeed pin = .ok found ↔
      match node.link? pin with
      | some link => found = some (.linked link.source) ∧
          ∃ expected, node.pinType? pin = some expected ∧ expected.accepts link.sourceType
      | none => found = none := by
  unfold linkedFeed
  -- With a link, the type of the pin decides whether it is read.
  cases node.link? pin with
  | none =>
    simp only [Except.ok.injEq]
    exact eq_comm
  | some link =>
    cases node.pinType? pin with
    | none => simp
    | some expected =>
      by_cases fits : expected.accepts link.sourceType
      · simp only [fits, if_true, Except.ok.injEq, Option.some.injEq, exists_eq_left', and_true]
        exact eq_comm
      · simp [fits]

/-- A pin that always has something to fall back to is served by what is read for it. -/
theorem linkedFeed_getD_iff {node : Node} {pin : Pin} {fallback feed : Feed} :
    (do return (← node.linkedFeed pin).getD fallback : Except LoweringFault Feed) = .ok feed ↔
      node.Serves pin (some fallback) feed := by
  rw [bind_eq_ok_iff]
  simp only [linkedFeed_eq_ok_iff, pure_eq_ok_iff, Serves]
  -- What is found does not fail any more, so the two sides agree on each kind of pin.
  cases node.link? pin with
  | none => simp
  | some link =>
    constructor
    · rintro ⟨_, ⟨rfl, fits⟩, rfl⟩
      exact ⟨rfl, fits⟩
    · rintro ⟨rfl, fits⟩
      exact ⟨_, ⟨rfl, fits⟩, rfl⟩

/-- The context is a linked output or that of whoever runs the plan. -/
theorem contextFeed_eq_ok_iff {node : Node} {feed : Feed} :
    node.contextFeed = .ok feed ↔ node.Serves (.fixed .context) (some .ambient) feed :=
  linkedFeed_getD_iff

/-- A required input is a linked output or its literal. -/
theorem requiredFeed_eq_ok_iff {node : Node} {pin : FixedPin} {feed : Feed} :
    node.requiredFeed pin = .ok feed ↔
      node.Serves (.fixed pin) ((node.fixed.literal? pin).map .literal) feed := by
  unfold requiredFeed
  rw [bind_eq_ok_iff]
  simp only [linkedFeed_eq_ok_iff, Serves]
  cases node.link? (.fixed pin) with
  | none =>
    -- Without a link it is the literal that decides.
    cases node.fixed.literal? pin with
    | none => simp [throw, throwThe, MonadExceptOf.throw]
    | some value => simp [pure_eq_ok_iff]
  | some link =>
    constructor
    · rintro ⟨_, ⟨rfl, fits⟩, chosen⟩
      rw [pure_eq_ok_iff] at chosen
      exact ⟨chosen.symm, fits⟩
    · rintro ⟨rfl, fits⟩
      exact ⟨_, ⟨rfl, fits⟩, rfl⟩

/-- The value of a slot is a linked output, its literal, or the zero of its type. -/
theorem slotFeed_eq_ok_iff {node : Node} {slot : Slot} {feed : Feed} :
    node.slotFeed slot = .ok feed ↔ node.ServesSlot slot feed :=
  linkedFeed_getD_iff

/-- How a node and its plan belong together. -/
structure Lowers (node : Node) (feeds : Feeds) (plan : Plan) : Prop where
  nodeId : plan.nodeId = node.id
  steps : plan.steps = Plan.stepsOf node.slots.entries feeds
  control : plan.control = Plan.chainEdges plan.steps
  redirects : node.redirects = .ok plan.redirects
  output : plan.output = Plan.handle
  context : node.Serves (.fixed .context) (some .ambient) feeds.context
  path : node.Serves (.fixed .path) ((node.fixed.literal? .path).map .literal) feeds.path
  itemId : node.Serves (.fixed .itemId) ((node.fixed.literal? .itemId).map .literal) feeds.itemId
  priority :
    node.Serves (.fixed .priority) ((node.fixed.literal? .priority).map .literal) feeds.priority
  values : List.Forall₂ node.ServesSlot node.slots.entries feeds.values

/-- A node that is lowered has feeds for all inputs of its plan. -/
theorem lower_eq_ok {node : Node} {plan : Plan} (lowered : node.lower = .ok plan) :
    ∃ feeds, node.Lowers feeds plan := by
  unfold lower at lowered
  -- Lowering succeeds only as a whole, so each of its stages has succeeded.
  obtain ⟨context, contextFed, lowered⟩ := bind_eq_ok_iff.mp lowered
  obtain ⟨path, pathFed, lowered⟩ := bind_eq_ok_iff.mp lowered
  obtain ⟨itemId, itemIdFed, lowered⟩ := bind_eq_ok_iff.mp lowered
  obtain ⟨priority, priorityFed, lowered⟩ := bind_eq_ok_iff.mp lowered
  obtain ⟨values, valuesFed, lowered⟩ := bind_eq_ok_iff.mp lowered
  obtain ⟨redirects, redirected, lowered⟩ := bind_eq_ok_iff.mp lowered
  rw [pure_eq_ok_iff] at lowered
  subst lowered
  refine ⟨⟨context, path, itemId, priority, values⟩, {
    nodeId := rfl
    steps := ?_
    control := rfl
    redirects := redirected
    output := rfl
    context := contextFeed_eq_ok_iff.mp contextFed
    path := requiredFeed_eq_ok_iff.mp pathFed
    itemId := requiredFeed_eq_ok_iff.mp itemIdFed
    priority := requiredFeed_eq_ok_iff.mp priorityFed
    values := ?_ }⟩
  · simp only [Plan.stepsOf, ← Plan.mapIdx_propertyStep, Nat.zero_add]
  · exact (mapM_eq_ok_iff.mp valuesFed).imp fun _ _ fed => slotFeed_eq_ok_iff.mp fed

/-- The plan of a node is a chain as long as ids do not run out. -/
theorem Lowers.isChain {node : Node} {feeds : Feeds} {plan : Plan} (lowers : node.Lowers feeds plan)
    (small : node.slots.entries.length ≤ 4294967294) : plan.IsChain where
  numbered := lowers.steps ▸ Plan.numbered_stepsOf small feeds
  control := lowers.control

end Node

end CallChain
