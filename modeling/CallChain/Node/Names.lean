import CallChain.Node.Basic

/-! Names of slots: which are allowed, which are taken, and how a free one is found. -/

namespace CallChain

namespace Slot

/-- The names that belong to the node's own pins. -/
def reservedNames : List String :=
  ["Context", "Path", "ItemId", "Priority", "Handle"]

/-- Whether a name belongs to one of the node's own pins. -/
def isReserved (name : String) : Bool :=
  reservedNames.contains name

/-- Whether a name is not empty, has no blanks around it and no control characters in it. -/
def isValidName (name : String) : Bool :=
  !name.isEmpty && Text.trim name == name && !name.toList.any Text.isControl

/-- The name proposed for a slot when its author gives none. -/
def fallbackName : String := "Param"

end Slot

namespace Node

/-- Whether a pin or a slot other than `except` has the name. -/
def isTaken (node : Node) (name : String) (except : Option SlotId) : Bool :=
  Slot.isReserved name
    || node.slots.entries.any fun slot => slot.name == name && some slot.id != except

/-- A base name with a number after it. -/
def numbered (base : String) (number : Nat) : String :=
  s!"{base}_{number}"

/-- The first free numbered name from `number` on, out of at most `candidates` ones.

The numbers know no bound. A signed counter of 32 bits, which is one ahead of the number it gives,
comes to the same name in a table of up to 2147483645 slots: the first free number in it is at most
2147483646. -/
def firstFree? (node : Node) (base : String) (except : Option SlotId) :
    (candidates number : Nat) → Option String
  | 0, _ => none
  | candidates + 1, number =>
    let name := numbered base number
    if node.isTaken name except then firstFree? node base except candidates (number + 1)
    else some name

/-- The name to start from: the trimmed proposal if it is valid. -/
def baseName (proposed : Option String) : String :=
  ((proposed.map Text.trim).filter Slot.isValidName).getD Slot.fallbackName

/-- The proposed name if it is free, and otherwise the first free numbered form of it.

The name of the slot `renamed` does not count as taken. -/
def freeName (node : Node) (proposed : Option String) (renamed : Option SlotId) : String :=
  let base := baseName proposed
  if node.isTaken base renamed then
    -- No reserved name is numbered, so one more candidate than there are slots is enough.
    (node.firstFree? base renamed (node.slots.entries.length + 1) 1).getD base
  else base

end Node

end CallChain
