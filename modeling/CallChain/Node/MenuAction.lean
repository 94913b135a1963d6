import CallChain.Node.Edit
import CallChain.Json.Fields
import CallChain.Text.Quoted

/-! What an authoring menu works with: rows of the slot list, and the actions it offers. -/

namespace CallChain

/-- A row of the slot list shown to authors. -/
structure SlotRow where
  slot : Slot
  connected : Bool
  position : Nat
deriving DecidableEq, Repr

namespace Node

/-- The rows of the slot list, in slot order. -/
def slotRows (node : Node) : List SlotRow :=
  node.slots.entries.mapIdx fun position slot =>
    ⟨slot, (node.link? (.slot slot.id)).isSome, position⟩

end Node

/-- A menu action on the slots of one node. -/
inductive MenuAction where
  | add (name : Option String) (type : ValueType)
  | remove (slot : SlotId)
  | rename (slot : SlotId) (name : String) (autoSuffix : Bool)
  | retype (slot : SlotId) (type : ValueType)
deriving DecidableEq, Repr

namespace MenuAction

/-- The slot a menu action made or touched, and what it had to drop. -/
structure Outcome where
  slot : SlotId
  warnings : List Warning
deriving DecidableEq, Repr

/-- Carries a menu action out on a node. -/
def apply (node : Node) : MenuAction → Except NodeFault (Node × Outcome)
  | add name type =>
    let (node, id) := node.add name type none
    .ok (node, ⟨id, []⟩)
  | remove slot => (node.remove slot).map fun (node, _) => (node, ⟨slot, []⟩)
  | rename slot name true => (node.renameFree slot name).map fun (node, _) => (node, ⟨slot, []⟩)
  | rename slot name false => (node.rename slot name).map (·, ⟨slot, []⟩)
  | retype slot type => (node.retype slot type).map fun (node, warnings) => (node, ⟨slot, warnings⟩)

/-- A menu action spelled out for error messages. -/
def diagnostic : MenuAction → String
  | add name type =>
    let name := (name.map fun name => s!"Some({Text.quote name})").getD "None"
    s!"Add \x7b name: {name}, slot_type: {type.name} \x7d"
  | remove slot => s!"Remove \x7b slot: SlotId({slot.raw.toNat}) \x7d"
  | rename slot name autoSuffix =>
    let name := Text.quote name
    let suffix := Value.truth autoSuffix
    s!"Rename \x7b slot: SlotId({slot.raw.toNat}), name: {name}, auto_suffix: {suffix} \x7d"
  | retype slot type =>
    s!"Retype \x7b slot: SlotId({slot.raw.toNat}), slot_type: {type.name} \x7d"

end MenuAction

end CallChain
