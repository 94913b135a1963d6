import CallChain.Node.Fault
import CallChain.Node.Names

/-! The only ways a node changes. A refused edit leaves no changed node behind. -/

namespace CallChain

namespace Slots

/-- Whether a slot has the id. -/
def holds (table : Slots) (id : SlotId) : Bool :=
  (table.get? id).isSome

/-- The least id from `candidate` on that no slot has, out of at most `candidates` ones. -/
def freeFrom? (table : Slots) : (candidates candidate : Nat) → Option SlotId
  | 0, _ => none
  | candidates + 1, candidate =>
    let id : SlotId := ⟨UInt32.ofNat candidate⟩
    if table.holds id then table.freeFrom? candidates (candidate + 1) else some id

/-- The greatest id, at which no further one can be counted up. -/
def lastId : UInt32 := 4294967295

/-- The least id that no slot has; the last one of all is only taken when the others are. -/
def leastFree (table : Slots) : SlotId :=
  (table.freeFrom? (min (table.entries.length + 1) lastId.toNat) 0).getD ⟨lastId⟩

/-- The id for a new slot, and the counter after it has been given out.

Once the counter has reached its end, ids of removed slots are given out again. -/
def allocate (table : Slots) : SlotId × UInt32 :=
  if table.nextId = lastId then (table.leastFree, lastId) else (⟨table.nextId⟩, table.nextId + 1)

/-- Appends a slot under a new id. -/
def push (table : Slots) (name : String) (type : ValueType) (default : Option Value) :
    Slots × SlotId :=
  let (id, nextId) := table.allocate
  (⟨table.entries ++ [⟨id, name, type, default⟩], nextId⟩, id)

/-- Takes the first slot with an id out, if there is one. -/
def remove? (table : Slots) (id : SlotId) : Option (Slots × Slot) :=
  (table.get? id).map fun slot =>
    ({ table with entries := table.entries.eraseP fun slot => slot.id == id }, slot)

/-- Changes the first slot with an id. -/
def modifyFirst (change : Slot → Slot) (id : SlotId) : List Slot → List Slot
  | [] => []
  | slot :: rest => if slot.id = id then change slot :: rest else slot :: modifyFirst change id rest

/-- Changes the first slot with an id. -/
def modify (table : Slots) (id : SlotId) (change : Slot → Slot) : Slots :=
  { table with entries := modifyFirst change id table.entries }

end Slots

namespace Node

/-- Appends a slot; a missing or taken name is replaced by a free one. -/
def add (node : Node) (proposed : Option String) (type : ValueType)
    (default : Option Value) : Node × SlotId :=
  let (slots, id) := node.slots.push (node.freeName proposed none) type default
  ({ node with slots }, id)

/-- Removes a slot together with every link into it. -/
def remove (node : Node) (id : SlotId) : Except NodeFault (Node × Slot) :=
  match node.slots.remove? id with
  | none => .error (.slotNotFound id)
  | some (slots, slot) =>
    .ok ({ node with slots, links := node.links.filter fun link => link.pin != .slot id }, slot)

/-- Gives a slot another name, which has to be free. -/
def rename (node : Node) (id : SlotId) (newName : String) : Except NodeFault Node :=
  let name := Text.trim newName
  if !Slot.isValidName name then .error (.invalidName name)
  else if !node.slots.holds id then .error (.slotNotFound id)
  else if node.isTaken name (some id) then
    .error (.duplicateName name ((node.slots.named? name).map Slot.id))
  else .ok { node with slots := node.slots.modify id fun slot => { slot with name } }

/-- Gives a slot another name, numbered if it is taken, and tells the name used. -/
def renameFree (node : Node) (id : SlotId) (newName : String) : Except NodeFault (Node × String) :=
  if !Slot.isValidName (Text.trim newName) then .error (.invalidName newName)
  else
    let name := node.freeName (some newName) (some id)
    (node.rename id name).map (·, name)

/-- Whether a link still fits once slot `id` has type `newType`. -/
def stillFits (id : SlotId) (newType : ValueType) (link : Link) : Bool :=
  link.pin != .slot id || newType.accepts link.sourceType

/-- Gives a slot another type, and tells which default and links had to go. -/
def retype (node : Node) (id : SlotId) (newType : ValueType) :
    Except NodeFault (Node × List Warning) :=
  match node.slots.get? id with
  | none => .error (.slotNotFound id)
  | some slot =>
    if slot.type = newType then .ok (node, [])
    else
      let default := slot.default.bind fun value => value.coerce? newType
      let discarded :=
        if slot.default.isSome && default.isNone then [Warning.defaultDiscarded slot.name newType]
        else []
      let dropped := (node.links.filter fun link => !stillFits id newType link).map fun link =>
        Warning.linkDropped slot.name link.source link.sourceType newType
      let retyped := { node with
        slots := node.slots.modify id fun slot => { slot with type := newType, default }
        links := node.links.filter (stillFits id newType) }
      .ok (retyped, discarded ++ dropped)

/-- Sets or clears the literal of a slot, which has to be of the slot's type. -/
def setDefault (node : Node) (id : SlotId) (default : Option Value) : Except NodeFault Node :=
  match node.slots.get? id with
  | none => .error (.slotNotFound id)
  | some slot =>
    match default.filter fun value => value.type != slot.type with
    | some value => .error (.defaultTypeMismatch slot.name slot.type value.type)
    | none => .ok { node with slots := node.slots.modify id fun slot => { slot with default } }

/-- Sets or clears the path. -/
def setPath (node : Node) (path : Option String) : Node :=
  { node with fixed := { node.fixed with path } }

/-- Sets or clears the item id. -/
def setItemId (node : Node) (itemId : Option String) : Node :=
  { node with fixed := { node.fixed with itemId } }

/-- Sets or clears the priority. -/
def setPriority (node : Node) (priority : Option Int64) : Node :=
  { node with fixed := { node.fixed with priority } }

/-- Removes the first link into a pin, and tells which it was. -/
def disconnect (node : Node) (pin : Pin) : Node × Option Link :=
  ({ node with links := node.links.eraseP fun link => link.pin == pin }, node.link? pin)

/-- The type of a pin that has to exist. -/
def requiredType (node : Node) : Pin → Except NodeFault ValueType
  | .fixed pin => .ok pin.type
  | .slot id =>
    match node.slots.get? id with
    | none => .error (.slotNotFound id)
    | some slot => .ok slot.type

/-- Links an output to a pin in place of an earlier link, which it returns. -/
def connect (node : Node) (link : Link) : Except NodeFault (Node × Option Link) := do
  let expected ← node.requiredType link.pin
  if expected.accepts link.sourceType then
    let (freed, previous) := node.disconnect link.pin
    return ({ freed with links := freed.links ++ [link] }, previous)
  else throw (.incompatibleLink (node.pinName link.pin) expected link.sourceType)

/-- Links an output of the right type to a fixed pin. -/
def connectFixed (node : Node) (pin : FixedPin) (source : Source) (mode : Sharing) :
    Except NodeFault (Node × Option Link) :=
  node.connect ⟨.fixed pin, source, pin.type, mode⟩

end Node

end CallChain
