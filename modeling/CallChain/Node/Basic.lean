import CallChain.Value

/-! Nodes as authors save them: fixed pins, an ordered table of parameter slots, and links. -/

namespace CallChain

/-- The identity of a parameter slot, which a change of name leaves alone. -/
structure SlotId where
  raw : UInt32
deriving DecidableEq, Repr, Inhabited

namespace SlotId

/-- A slot id as shown to authors. -/
def display (id : SlotId) : String :=
  s!"slot#{id.raw.toNat}"

end SlotId

/-- A named and typed parameter of a node. -/
structure Slot where
  id : SlotId
  name : String
  type : ValueType
  /-- The literal used when nothing is connected. -/
  default : Option Value
deriving DecidableEq, Repr

/-- The parameter slots of a node in the order they were added, which lowering keeps. -/
structure Slots where
  entries : List Slot
  /-- The id for the next slot. -/
  nextId : UInt32
deriving DecidableEq, Repr

/-- The input pins every node has. -/
inductive FixedPin where
  | context
  | path
  | itemId
  | priority
deriving DecidableEq, Repr, Inhabited

namespace FixedPin

/-- The fixed pins in the order they are shown. -/
def all : List FixedPin :=
  [context, path, itemId, priority]

/-- The name shown to authors and stored in documents. -/
def name : FixedPin → String
  | context => "Context"
  | path => "Path"
  | itemId => "ItemId"
  | priority => "Priority"

/-- The type of value the pin takes. -/
def type : FixedPin → ValueType
  | context => .object
  | path | itemId => .string
  | priority => .integer

/-- Whether the running graph supplies the pin when nothing is connected. -/
def isImplicit (pin : FixedPin) : Bool :=
  pin == context

/-- The pin of exactly this name. -/
def ofName? (text : String) : Option FixedPin :=
  all.find? fun pin => pin.name == text

end FixedPin

/-- An input pin of a node. Links are kept by pin, never by the name of a slot. -/
inductive Pin where
  | fixed (pin : FixedPin)
  | slot (id : SlotId)
deriving DecidableEq, Repr

namespace Pin

/-- A pin as shown to authors. -/
def display : Pin → String
  | fixed pin => pin.name
  | slot id => id.display

end Pin

/-- An output pin of another node. -/
structure Source where
  node : String
  pin : String
deriving DecidableEq, Repr, Inhabited

namespace Source

/-- A source as shown to authors. -/
def display (source : Source) : String :=
  source.node ++ "." ++ source.pin

end Source

/-- How far a link may be spread when its node is expanded. -/
inductive Sharing where
  /-- Every consuming step may get a copy. -/
  | shared
  /-- Exactly one step may consume the link. -/
  | exclusive
deriving DecidableEq, Repr, Inhabited

namespace Sharing

/-- The name stored in documents. -/
def name : Sharing → String
  | shared => "Shared"
  | exclusive => "Exclusive"

/-- The mode of exactly this name. -/
def ofName? (text : String) : Option Sharing :=
  [shared, exclusive].find? fun mode => mode.name == text

end Sharing

/-- A connection from an output of another node into an input pin. -/
structure Link where
  pin : Pin
  source : Source
  sourceType : ValueType
  mode : Sharing
deriving DecidableEq, Repr

/-- The literals of the fixed pins; the context pin has none. -/
structure FixedLiterals where
  path : Option String
  itemId : Option String
  priority : Option Int64
deriving DecidableEq, Repr

namespace FixedLiterals

/-- The literal of a fixed pin, if it has one. -/
def literal? (defaults : FixedLiterals) : FixedPin → Option Value
  | .context => none
  | .path => defaults.path.map Value.string
  | .itemId => defaults.itemId.map Value.string
  | .priority => defaults.priority.map Value.integer

end FixedLiterals

namespace Slots

/-- The table of a new node. -/
def empty : Slots := ⟨[], 0⟩

/-- The first slot with an id. -/
def get? (table : Slots) (id : SlotId) : Option Slot :=
  table.entries.find? fun slot => slot.id == id

/-- The position of the first slot with an id. -/
def position? (table : Slots) (id : SlotId) : Option Nat :=
  table.entries.findIdx? fun slot => slot.id == id

/-- The first slot with a name. -/
def named? (table : Slots) (name : String) : Option Slot :=
  table.entries.find? fun slot => slot.name == name

/-- Equality up to the numeric equality of float defaults. -/
def agrees (first second : Slots) : Bool :=
  first.nextId == second.nextId && first.entries.isEqv second.entries fun a b =>
    a.id == b.id && a.name == b.name && a.type == b.type &&
      match a.default, b.default with
      | none, none => true
      | some x, some y => x.agrees y
      | _, _ => false

end Slots

/-- A node that creates or shows one item and sets properties on it. -/
structure Node where
  id : String
  fixed : FixedLiterals
  slots : Slots
  links : List Link
deriving DecidableEq, Repr

namespace Node

/-- A node without slots and links, whose priority is zero. -/
def new (id : String) : Node :=
  { id, fixed := ⟨none, none, some 0⟩, slots := .empty, links := [] }

/-- The first link into a pin. -/
def link? (node : Node) (pin : Pin) : Option Link :=
  node.links.find? fun link => link.pin == pin

/-- The name of a pin as authors know it. -/
def pinName (node : Node) : Pin → String
  | .fixed pin => pin.name
  | .slot id => ((node.slots.get? id).map Slot.name).getD id.display

/-- The type of a pin, if the node has it. -/
def pinType? (node : Node) : Pin → Option ValueType
  | .fixed pin => some pin.type
  | .slot id => (node.slots.get? id).map Slot.type

/-- Equality up to the numeric equality of float defaults. -/
def agrees (first second : Node) : Bool :=
  first.id == second.id && first.fixed == second.fixed && first.slots.agrees second.slots
    && first.links == second.links

end Node

end CallChain
