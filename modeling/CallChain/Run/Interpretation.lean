import CallChain.Lowering
import CallChain.Run.Chain

/-! Carrying a node out directly, pin by pin and slot by slot, without making a plan of it.

Faults and records still name the steps a plan would have: they are what a reader knows. -/

namespace CallChain

/-- What has been done so far for a node. -/
structure Progress (α : Type) where
  manager : Manager α
  trace : List TraceEntry
  unresolved : List Miss
  notices : List Notice

namespace Progress

variable {α : Type}

/-- What has been done after the attempt to set the property of a slot, which has left this manager
behind: the trace says whether the property was set, and a miss is noted with its reason. -/
def tried (progress : Progress α) (nodeId : String) (diagnostics : Bool) (object : Handle)
    (position : Nat) (slot : Slot) (manager : Manager α) (objectType : Option String)
    (result : Except MissCause Unit) : Progress α :=
  let step := Plan.propertyId position
  match result with
  | .ok () => { progress with manager, trace := progress.trace ++ [.bound step slot.name true] }
  | .error reason =>
    let miss : Miss := ⟨step, slot.name, objectType, reason⟩
    { manager
      trace := progress.trace ++ [.bound step slot.name false]
      unresolved := progress.unresolved ++ if diagnostics then [miss] else []
      notices := progress.notices ++ [reason.notice nodeId slot.name object] }

variable [Bindable α]

/-- Sets the property of a slot on an object, or notes that it could not be set. The object is that
of the item at the place its handle stands for. It is offered the value under the name and type of
the slot, and what has become of it is put back in its place. -/
def bindSlot (progress : Progress α) (nodeId : String) (diagnostics : Bool) (object : Handle)
    (position : Nat) (slot : Slot) (value : Value) : Progress α :=
  let attempt := progress.tried nodeId diagnostics object position slot
  let manager := progress.manager
  match Manager.positionOf? object with
  | none => attempt manager none (.error .objectUnavailable)
  | some place =>
    match manager.items[place]? with
    | none => attempt manager none (.error .objectUnavailable)
    | some item =>
      let (filled, result) := Bindable.tryBind item.object slot.name value slot.type
      -- The key and the priority of the item are left alone.
      let items := manager.items.set place { item with object := filled }
      attempt { manager with items } (some (Bindable.typeName item.object))
        (result.mapError .binding)

end Progress

namespace Node

/-- The value of a pin: what is supplied over its link, or else what the pin falls back to. -/
def pinValue (node : Node) (supply : Supply) (reader : StepId) (input : Input) (pin : Pin)
    (fallback : Option Value) : Except RunFault Value :=
  match node.link? pin, fallback with
  | some link, _ =>
    match supply.get? link.source with
    | some value => .ok value
    | none => .error (.missingSupply reader link.source)
  | none, some value => .ok value
  | none, none => .error (.malformed (.noInput reader input))

/-- The data of a pin, converted to the type its reader takes. -/
def pinData (node : Node) (supply : Supply) (reader : StepId) (input : Input) (pin : Pin)
    (fallback : Option Value) (type : ValueType) : Except RunFault type.Carrier := do
  let value ← node.pinValue supply reader input pin fallback
  match value.carrier? type with
  | some data => return data
  | none => throw (.inputMismatch reader input type value)

/-- The context: what is linked to the pin, or else the context of whoever carries the node out. -/
def contextData (node : Node) (supply : Supply) (context : Handle) (reader : StepId) :
    Except RunFault Handle :=
  node.pinData supply reader .context (.fixed .context) (some (.object context)) .object

/-- What the node asks the manager for. -/
def itemRequest (node : Node) (supply : Supply) (context : Handle) :
    Except RunFault ItemRequest := do
  let literal := node.fixed.literal?
  let reader := Plan.createId
  let path ← node.pinData supply reader .path (.fixed .path) (literal .path) .string
  let itemId ← node.pinData supply reader .itemId (.fixed .itemId) (literal .itemId) .string
  let priority ←
    node.pinData supply reader .priority (.fixed .priority) (literal .priority) .integer
  let context ← node.contextData supply context reader
  return ⟨path, itemId, priority, context⟩

/-- The value of a slot: what is linked to it, or else its literal, or else the zero of its type,
converted to the type of the slot. -/
def slotValue (node : Node) (supply : Supply) (position : Nat) (slot : Slot) :
    Except RunFault Value := do
  let reader := Plan.propertyId position
  let fallback := slot.default.getD (.zero slot.type)
  let value ← node.pinValue supply reader .value (.slot slot.id) (some fallback)
  match value.coerce? slot.type with
  | some converted => return converted
  | none => throw (.inputMismatch reader .value slot.type value)

variable {α : Type} [Bindable α]

/-- Sets the properties of slots in order, up to the first slot that has no value. -/
def bindSlots (node : Node) (supply : Supply) (diagnostics : Bool) (object : Handle) :
    (position : Nat) → List Slot → Progress α → Progress α × Except RunFault Unit
  | _, [], progress => (progress, .ok ())
  | position, slot :: rest, progress =>
    match node.slotValue supply position slot with
    | .error fault => (progress, .error fault)
    | .ok value =>
      let bound := progress.bindSlot node.id diagnostics object position slot value
      node.bindSlots supply diagnostics object (position + 1) rest bound

/-- Sets the properties of all slots on the object that was given. An invalid handle is no object,
and so it ends everything before any slot is looked at. -/
def configure (node : Node) (supply : Supply) (diagnostics : Bool) (object : Handle)
    (progress : Progress α) : RunResult α :=
  if object.isValid then
    let (progress, ended) :=
      node.bindSlots supply diagnostics object 0 node.slots.entries progress
    let report : RunReport := ⟨object, ⟨node.id, progress.trace⟩, progress.unresolved⟩
    ⟨ended.map fun _ => report, progress.manager, progress.notices⟩
  else
    let skipped := TraceEntry.shortCircuited Plan.createId (node.slots.entries.map Slot.name)
    let report : RunReport := ⟨object, ⟨node.id, progress.trace ++ [skipped]⟩, progress.unresolved⟩
    ⟨.ok report, progress.manager, progress.notices⟩

/-- Carries a node out: finds the manager, asks it for the item, and sets the properties of all
slots on the object it gives. -/
def interpret (node : Node) (supply : Supply) (context : Handle) (diagnostics : Bool)
    (manager : Manager α) : RunResult α :=
  match node.contextData supply context Plan.locateId with
  | .error fault => ⟨.error fault, manager, []⟩
  | .ok located =>
    let (manager, self) := manager.locate located
    match node.itemRequest supply context with
    | .error fault => ⟨.error fault, manager, []⟩
    | .ok request =>
      let notices := manager.showNotices self request
      let (manager, object) := manager.createOrShow self request
      let trace := [.located Plan.locateId self,
        .created Plan.createId request.path request.itemId object]
      node.configure supply diagnostics object ⟨manager, trace, [], notices⟩

end Node

end CallChain
