import CallChain.Plan.Verification

/-! Lowering: the plan a node expands into. -/

namespace CallChain

/-- Why a node has no plan. -/
inductive LoweringFault where
  | missingInput (node : String) (pin : FixedPin)
  | incompatible (node pin : String) (expected found : ValueType)
  | exclusiveFanOut (node : String) (pin : Pin) (source : Source)
  | invalidPlan (node : String) (fault : PlanFault)
deriving DecidableEq, Repr

namespace LoweringFault

/-- The fault in words. -/
def message : LoweringFault → String
  | missingInput node pin =>
    s!"Node '{node}': required input '{pin.name}' has neither a connection nor a default"
  | incompatible node pin expected found =>
    s!"Node '{node}': input '{pin}' expects {expected.name}, "
      ++ s!"but is connected to a {found.name} source"
  | exclusiveFanOut node pin source =>
    s!"Node '{node}': exclusive link {source.display} on {pin.display} "
      ++ "cannot fan out to several steps"
  | invalidPlan node fault => s!"Node '{node}' produced a malformed plan: {fault.message}"

end LoweringFault

/-- One reading of a pin by a step of the plan. -/
structure PinUse where
  pin : Pin
  step : StepId
  input : Input
deriving DecidableEq, Repr

namespace Plan

/-- The step that obtains the manager. -/
def locateId : StepId := ⟨0⟩

/-- The step that asks for the item. -/
def createId : StepId := ⟨1⟩

/-- The handle the node gives, and the object its property steps work on. -/
def handle : Feed := .step createId .handle

/-- The id of the step for the slot at a position. -/
def propertyId (position : Nat) : StepId := .ofNat (position + 2)

/-- The edges out of a step: a guarded pair after the item is asked for, else a single one. -/
def edgesFrom (step : Step) (next : Goal) : List Edge :=
  if step.id = createId then [⟨step.id, next, .ifValid⟩, ⟨step.id, .exit, .ifInvalid⟩]
  else [⟨step.id, next, .always⟩]

/-- Where a chain goes on. -/
def goalOf : List Step → Goal
  | [] => .exit
  | step :: _ => .step step.id

/-- The edges of steps that run one after the other. -/
def chainEdges : List Step → List Edge
  | [] => []
  | step :: rest => edgesFrom step (goalOf rest) ++ chainEdges rest

end Plan

namespace Node

/-- The pins the steps read, in the order the plan is made. -/
def pinUses (node : Node) : List PinUse :=
  [⟨.fixed .context, Plan.locateId, .context⟩, ⟨.fixed .path, Plan.createId, .path⟩,
    ⟨.fixed .itemId, Plan.createId, .itemId⟩, ⟨.fixed .priority, Plan.createId, .priority⟩,
    ⟨.fixed .context, Plan.createId, .context⟩]
    ++ node.slots.entries.mapIdx fun position slot =>
      ⟨.slot slot.id, Plan.propertyId position, .value⟩

/-- The output linked to a pin, if there is a link, which has to fit the pin's type. -/
def linkedFeed (node : Node) (pin : Pin) : Except LoweringFault (Option Feed) :=
  match node.link? pin with
  | none => .ok none
  | some link =>
    match node.pinType? pin with
    | none => .error (.invalidPlan node.id (.unknownPin pin))
    | some expected =>
      if expected.accepts link.sourceType then .ok (some (.linked link.source))
      else .error (.incompatible node.id (node.pinName pin) expected link.sourceType)

/-- The context: a linked output, or else the context of whoever runs the plan. -/
def contextFeed (node : Node) : Except LoweringFault Feed := do
  let linked ← node.linkedFeed (.fixed .context)
  return linked.getD .ambient

/-- A fixed input that has to be there: a linked output, or else its literal. -/
def requiredFeed (node : Node) (pin : FixedPin) : Except LoweringFault Feed := do
  match ← node.linkedFeed (.fixed pin), node.fixed.literal? pin with
  | some feed, _ => return feed
  | none, some value => return .literal value
  | none, none => throw (.missingInput node.id pin)

/-- The value of a slot: a linked output, or else its literal, or else the zero of its type. -/
def slotFeed (node : Node) (slot : Slot) : Except LoweringFault Feed := do
  let linked ← node.linkedFeed (.slot slot.id)
  return linked.getD (.literal (slot.default.getD (.zero slot.type)))

/-- The redirects of the link into a pin: the last step that reads the pin takes the link over,
and those before it get copies. -/
def redirectsOf (node : Node) (pin : Pin) : Except LoweringFault (List Redirect) :=
  match node.link? pin with
  | none => .ok []
  | some link =>
    let uses := node.pinUses.filter fun use => use.pin == pin
    if link.mode = .exclusive ∧ 1 < uses.length then
      .error (.exclusiveFanOut node.id pin link.source)
    else
      .ok (uses.mapIdx fun index use =>
        let action := if index + 1 = uses.length then .moved else .copied
        ⟨pin, link.source, action, use.step, use.input⟩)

/-- The redirects of all links the plan uses, by pin in the order the pins are first read. -/
def redirects (node : Node) : Except LoweringFault (List Redirect) := do
  let pins := (node.pinUses.map PinUse.pin).eraseDups
  return (← pins.mapM node.redirectsOf).flatten

end Node

namespace Plan

/-- The call that obtains the manager. -/
def locateStep (context : Feed) : Step :=
  ⟨locateId, .locate, [⟨.context, context⟩], none⟩

/-- The call that asks for the item. -/
def createStep (path itemId priority context : Feed) : Step :=
  ⟨createId, .createOrShow,
    [⟨.manager, .step locateId .manager⟩, ⟨.path, path⟩, ⟨.itemId, itemId⟩,
      ⟨.priority, priority⟩, ⟨.context, context⟩], none⟩

/-- The call that sets the property of a slot. -/
def propertyStep (position : Nat) (slot : Slot) (value : Feed) : Step :=
  ⟨propertyId position, .setProperty slot.name slot.type,
    [⟨.target, handle⟩, ⟨.value, value⟩], some slot.id⟩

end Plan

namespace Node

/-- The plan of a node, which depends on nothing but the node.

The manager is obtained, the item is asked for, and each slot sets a property, in slot order.
An invalid handle leads straight out of the chain. -/
def lower (node : Node) : Except LoweringFault Plan := do
  let context ← node.contextFeed
  let path ← node.requiredFeed .path
  let itemId ← node.requiredFeed .itemId
  let priority ← node.requiredFeed .priority
  let values ← node.slots.entries.mapM node.slotFeed
  let properties := (node.slots.entries.zip values).mapIdx fun position (slot, value) =>
    Plan.propertyStep position slot value
  let steps := Plan.locateStep context :: Plan.createStep path itemId priority context :: properties
  let redirects ← node.redirects
  return ⟨node.id, steps, Plan.chainEdges steps, redirects, Plan.handle⟩

/-- The plan of a node, checked unless the check is turned off. -/
def lowerChecked (verify : Bool) (node : Node) : Except LoweringFault Plan := do
  let plan ← node.lower
  if verify then
    match plan.verify with
    | .error fault => throw (.invalidPlan node.id fault)
    | .ok () => return plan
  else return plan

end Node

end CallChain
