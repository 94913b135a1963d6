import CallChain.Node.Session

/-! Edits as they are carried out on a node in place, one change after the other. What was changed
before a fault stays changed, so a fault has to come before any change. -/

namespace CallChain

/-- Work on a node in place that may stop with a fault. -/
abbrev Editing := EStateM NodeFault Node

namespace Editing

/-- The slot with an id, which has to exist. -/
def slotOf (id : SlotId) : Editing Slot := do
  match (← get).slots.get? id with
  | some slot => return slot
  | none => throw (.slotNotFound id)

/-- Changes the slot with an id, which has to exist. -/
def changeSlot (id : SlotId) (change : Slot → Slot) : Editing Unit := do
  let _ ← slotOf id
  modify fun node => { node with slots := node.slots.modify id change }

/-- Drops all links but those that are wanted. -/
def retainLinks (wanted : Link → Bool) : Editing Unit :=
  modify fun node => { node with links := node.links.filter wanted }

/-- Gives out the id for a new slot. -/
def takeId : Editing SlotId := do
  let (id, nextId) := (← get).slots.allocate
  modify fun node => { node with slots := { node.slots with nextId } }
  return id

/-- Appends a slot; a missing or taken name is replaced by a free one. -/
def add (proposed : Option String) (type : ValueType) (default : Option Value) :
    Editing SlotId := do
  let name := (← get).freeName proposed none
  let id ← takeId
  modify fun node =>
    let entries := node.slots.entries ++ [⟨id, name, type, default⟩]
    { node with slots := { node.slots with entries } }
  return id

/-- Takes the slot with an id out, and then every link into it. -/
def remove (id : SlotId) : Editing Slot := do
  match (← get).slots.remove? id with
  | none => throw (.slotNotFound id)
  | some (slots, removed) =>
    modify fun node => { node with slots }
    retainLinks fun link => link.pin != .slot id
    return removed

/-- Gives a slot another name, which has to be free. -/
def rename (id : SlotId) (newName : String) : Editing Unit := do
  let name := Text.trim newName
  if !Slot.isValidName name then throw (.invalidName name)
  let _ ← slotOf id
  let node ← get
  if node.isTaken name (some id) then
    throw (.duplicateName name ((node.slots.named? name).map Slot.id))
  changeSlot id fun slot => { slot with name }

/-- Gives a slot another name, numbered if it is taken, and tells the name used. -/
def renameFree (id : SlotId) (newName : String) : Editing String := do
  if !Slot.isValidName (Text.trim newName) then throw (.invalidName newName)
  let name := (← get).freeName (some newName) (some id)
  rename id name
  return name

/-- Converts the literal of a slot, and tells if it had to be discarded. -/
def convertDefault (id : SlotId) (newType : ValueType) : Editing (List Warning) := do
  let slot ← slotOf id
  match slot.default with
  | none => return []
  | some value =>
    let default := value.coerce? newType
    changeSlot id fun slot => { slot with default }
    return if default.isNone then [.defaultDiscarded slot.name newType] else []

/-- Gives a slot another type, and tells which default and links had to go. -/
def retype (id : SlotId) (newType : ValueType) : Editing (List Warning) := do
  let slot ← slotOf id
  if slot.type = newType then return []
  changeSlot id fun slot => { slot with type := newType }
  let discarded ← convertDefault id newType
  let misfits := (← get).links.filter fun link => !Node.stillFits id newType link
  retainLinks (Node.stillFits id newType)
  return discarded ++ misfits.map fun link =>
    .linkDropped slot.name link.source link.sourceType newType

/-- Sets or clears the literal of a slot, which has to be of the slot's type. -/
def setDefault (id : SlotId) (default : Option Value) : Editing Unit := do
  let slot ← slotOf id
  match default.filter fun value => value.type != slot.type with
  | some value => throw (.defaultTypeMismatch slot.name slot.type value.type)
  | none => changeSlot id fun slot => { slot with default }

/-- Changes the literals of the fixed pins. -/
def setFixed (change : FixedLiterals → FixedLiterals) : Editing Unit :=
  modify fun node => { node with fixed := change node.fixed }

/-- Removes the first link into a pin, and tells which it was. -/
def disconnect (pin : Pin) : Editing (Option Link) := do
  match (← get).link? pin with
  | none => return none
  | some link =>
    modify fun node => { node with links := node.links.eraseP fun link => link.pin == pin }
    return some link

/-- The type of a pin, which has to exist. -/
def typeOf : Pin → Editing ValueType
  | .fixed pin => return pin.type
  | .slot id => return (← slotOf id).type

/-- Links an output to a pin: the pin is freed first, and then the link is added. -/
def connect (link : Link) : Editing (Option Link) := do
  let expected ← typeOf link.pin
  if !expected.accepts link.sourceType then
    throw (.incompatibleLink ((← get).pinName link.pin) expected link.sourceType)
  let previous ← disconnect link.pin
  modify fun node => { node with links := node.links ++ [link] }
  return previous

/-- Links an output of the right type to a fixed pin. -/
def connectFixed (pin : FixedPin) (source : Source) (mode : Sharing) : Editing (Option Link) :=
  connect ⟨.fixed pin, source, pin.type, mode⟩

end Editing

namespace MenuAction

/-- Carries a menu action out in place. -/
def inPlace : MenuAction → Editing Outcome
  | add name type => return ⟨← Editing.add name type none, []⟩
  | remove slot => do
    let _ ← Editing.remove slot
    return ⟨slot, []⟩
  | rename slot name autoSuffix => do
    if autoSuffix then
      let _ ← Editing.renameFree slot name
    else Editing.rename slot name
    return ⟨slot, []⟩
  | retype slot type => return ⟨slot, ← Editing.retype slot type⟩

end MenuAction

namespace NodeEdit

/-- Carries an edit out in place. -/
def inPlace : NodeEdit → Editing Answer
  | add name type => return .slot (← Editing.add name type none)
  | addDefault name default => return .slot (← Editing.add name default.type (some default))
  | remove slot => return .removed (← Editing.remove slot)
  | rename slot name => do
    Editing.rename slot name
    return .done
  | renameFree slot name => return .name (← Editing.renameFree slot name)
  | retype slot type => return .warnings (← Editing.retype slot type)
  | setDefault slot default => do
    Editing.setDefault slot default
    return .done
  | setPath path => do
    Editing.setFixed fun fixed => { fixed with path }
    return .done
  | setItemId itemId => do
    Editing.setFixed fun fixed => { fixed with itemId }
    return .done
  | setPriority priority => do
    Editing.setFixed fun fixed => { fixed with priority }
    return .done
  | connect link => return .link (← Editing.connect link)
  | connectFixed pin source mode => return .link (← Editing.connectFixed pin source mode)
  | disconnect pin => return .link (← Editing.disconnect pin)
  | menu action => return .outcome (← action.inPlace)

/-- Carries an edit out in place and logs it: the answer, the node as it is left behind, and the
log records. A refused edit logs nothing. -/
def carryOut (edit : NodeEdit) (node : Node) : Except NodeFault Answer × Node × List Notice :=
  match edit.inPlace.run node with
  | .ok answer after => (.ok answer, after, node.editNotices after edit answer)
  | .error fault after => (.error fault, after, [])

end NodeEdit

end CallChain
