import CallChain.Node.Basic

/-! What can go wrong with a node while it is edited or checked. -/

namespace CallChain

/-- A way in which a stored node contradicts itself. -/
inductive Inconsistency where
  | idsExhausted
  | repeatedId (id : SlotId)
  | repeatedName (name : String)
  | idBeyondNext (id : SlotId) (nextId : UInt32)
  | nameNotAllowed (name : String)
  | repeatedPin (pin : Pin)
  | danglingLink (source : Source) (pin : Pin)
deriving DecidableEq, Repr

namespace Inconsistency

/-- The inconsistency in words. -/
def message : Inconsistency → String
  | idsExhausted => "slot id allocator is exhausted"
  | repeatedId id => s!"{id.display} is declared twice"
  | repeatedName name => s!"slot name '{name}' is declared twice"
  | idBeyondNext id nextId => s!"{id.display} is beyond the id allocator ({nextId.toNat})"
  | nameNotAllowed name => s!"slot name '{name}' is not allowed"
  | repeatedPin pin => s!"pin {pin.display} has more than one connection"
  | danglingLink source pin => s!"link from {source.display} targets missing pin {pin.display}"

end Inconsistency

/-- Why an edit is refused or a node is not well formed. -/
inductive NodeFault where
  /-- The name belongs to a slot, or to a fixed pin when there is no such slot. -/
  | duplicateName (name : String) (holder : Option SlotId)
  | slotNotFound (id : SlotId)
  | invalidName (name : String)
  | defaultTypeMismatch (slot : String) (expected found : ValueType)
  | incompatibleLink (pin : String) (expected found : ValueType)
  | corrupt (node : String) (cause : Inconsistency)
deriving DecidableEq, Repr

namespace NodeFault

/-- The fault in words. -/
def message : NodeFault → String
  | duplicateName name holder =>
    let existing := (holder.map SlotId.display).getD "fixed pin"
    s!"A slot named '{name}' already exists (slot {existing})"
  | slotNotFound id => s!"Slot {id.display} does not exist on this node"
  | invalidName name => s!"'{name}' is not a valid slot name"
  | defaultTypeMismatch slot expected found =>
    s!"Default for '{slot}' must be {expected.name}, but a {found.name} literal was given"
  | incompatibleLink pin expected found =>
    s!"Pin '{pin}' of type {expected.name} cannot accept a {found.name} connection"
  | corrupt node cause => s!"Node '{node}' is inconsistent: {cause.message}"

end NodeFault

/-- What a change of type had to drop. -/
inductive Warning where
  | linkDropped (slot : String) (source : Source) (sourceType newType : ValueType)
  | defaultDiscarded (slot : String) (newType : ValueType)
deriving DecidableEq, Repr

namespace Warning

/-- The warning in words. -/
def message : Warning → String
  | linkDropped slot source sourceType newType =>
    s!"Dropped link {source.display} -> '{slot}': a {sourceType.name} source does not fit {newType.name}"
  | defaultDiscarded slot newType =>
    s!"Discarded default of '{slot}': not convertible to {newType.name}"

end Warning

end CallChain
