import CallChain.Node.Fault
import CallChain.Node.Names

/-! The check a node has to pass after it is loaded. -/

namespace CallChain

/-- The first element that equals an earlier one, of those seen before or in the list. -/
def repeatedAfter? {α : Type} [DecidableEq α] : (seen rest : List α) → Option α
  | _, [] => none
  | seen, x :: rest => if x ∈ seen then some x else repeatedAfter? (x :: seen) rest

/-- The element whose second occurrence comes first. -/
def firstRepeated? {α : Type} [DecidableEq α] (elements : List α) : Option α :=
  repeatedAfter? [] elements

namespace Node

/-- What is wrong with one slot of a table that gives out `nextId` next. -/
def slotFault? (node : Node) (slot : Slot) : Option NodeFault :=
  if node.slots.nextId ≤ slot.id.raw then
    some (.corrupt node.id (.idBeyondNext slot.id node.slots.nextId))
  else if !Slot.isValidName slot.name || Slot.isReserved slot.name then
    some (.corrupt node.id (.nameNotAllowed slot.name))
  else
    match slot.default.filter fun value => value.type != slot.type with
    | some value => some (.defaultTypeMismatch slot.name slot.type value.type)
    | none => none

/-- What is wrong with the pin of a link. -/
def linkFault? (node : Node) (link : Link) : Option NodeFault :=
  if (node.pinType? link.pin).isNone then
    some (.corrupt node.id (.danglingLink link.source link.pin))
  else none

/-- The first fault of a node: the id counter, ids, names, each slot, and the links last. -/
def fault? (node : Node) : Option NodeFault :=
  let slots := node.slots.entries
  if node.slots.nextId = 4294967295 then some (.corrupt node.id .idsExhausted)
  else
    ((firstRepeated? (slots.map Slot.id)).map fun id => .corrupt node.id (.repeatedId id))
    <|> ((firstRepeated? (slots.map Slot.name)).map fun name =>
      .corrupt node.id (.repeatedName name))
    <|> slots.findSome? node.slotFault?
    <|> ((firstRepeated? (node.links.map Link.pin)).map fun pin =>
      .corrupt node.id (.repeatedPin pin))
    <|> node.links.findSome? node.linkFault?

/-- Accepts exactly the nodes without a fault. -/
def validate (node : Node) : Except NodeFault Unit :=
  match node.fault? with
  | some fault => .error fault
  | none => .ok ()

end Node

end CallChain
