import CallChain.Node.MenuAction
import CallChain.Notice

/-! Every edit of a node as data, with its answer and its log records. -/

namespace CallChain

/-- One edit of a node. -/
inductive NodeEdit where
  | add (name : Option String) (type : ValueType)
  /-- Adds a slot of the type of its literal. -/
  | addDefault (name : Option String) (default : Value)
  | remove (slot : SlotId)
  | rename (slot : SlotId) (name : String)
  | renameFree (slot : SlotId) (name : String)
  | retype (slot : SlotId) (type : ValueType)
  | setDefault (slot : SlotId) (default : Option Value)
  | setPath (path : Option String)
  | setItemId (itemId : Option String)
  | setPriority (priority : Option Int64)
  | connect (link : Link)
  | connectFixed (pin : FixedPin) (source : Source) (mode : Sharing)
  | disconnect (pin : Pin)
  | menu (action : MenuAction)
deriving DecidableEq, Repr

/-- What an edit tells its author. -/
inductive NodeEdit.Answer where
  | done
  | slot (id : SlotId)
  | removed (slot : Slot)
  | name (name : String)
  | warnings (warnings : List Warning)
  | link (previous : Option Link)
  | outcome (outcome : MenuAction.Outcome)
deriving DecidableEq, Repr

namespace Node

/-- Carries an edit out. -/
def perform (node : Node) : NodeEdit → Except NodeFault (Node × NodeEdit.Answer)
  | .add name type =>
    let (node, id) := node.add name type none
    .ok (node, .slot id)
  | .addDefault name default =>
    let (node, id) := node.add name default.type (some default)
    .ok (node, .slot id)
  | .remove slot => (node.remove slot).map fun (node, removed) => (node, .removed removed)
  | .rename slot name => (node.rename slot name).map (·, .done)
  | .renameFree slot name => (node.renameFree slot name).map fun (node, used) => (node, .name used)
  | .retype slot type =>
    (node.retype slot type).map fun (node, warnings) => (node, .warnings warnings)
  | .setDefault slot default => (node.setDefault slot default).map (·, .done)
  | .setPath path => .ok (node.setPath path, .done)
  | .setItemId itemId => .ok (node.setItemId itemId, .done)
  | .setPriority priority => .ok (node.setPriority priority, .done)
  | .connect link => (node.connect link).map fun (node, previous) => (node, .link previous)
  | .connectFixed pin source mode =>
    (node.connectFixed pin source mode).map fun (node, previous) => (node, .link previous)
  | .disconnect pin =>
    let (node, previous) := node.disconnect pin
    .ok (node, .link previous)
  | .menu action =>
    (action.apply node).map fun (node, outcome) => (node, .outcome outcome)

/-- The name a slot has, or its id when there is no such slot. -/
def slotName (node : Node) (id : SlotId) : String :=
  node.pinName (.slot id)

/-- A record about a node. -/
def notice (node : Node) (level : Level) (text : String) : Notice :=
  ⟨level, s!"Node '{node.id}': {text}"⟩

/-- The record of a slot that was added. -/
def addedNotice (after : Node) (id : SlotId) (type : ValueType) (addition : String) : Notice :=
  after.notice .debug s!"added {id.display} '{after.slotName id}' ({type.name}){addition}"

/-- The record of a slot that was renamed. -/
def renamedNotice (before after : Node) (id : SlotId) : Notice :=
  before.notice .debug
    s!"renamed {id.display} '{before.slotName id}' to '{after.slotName id}'"

/-- The records of what a change of type had to drop. -/
def warningNotices (node : Node) (warnings : List Warning) : List Notice :=
  warnings.map fun warning => node.notice .warn warning.message

/-- The log records of an edit that succeeded. -/
def editNotices (before after : Node) : NodeEdit → NodeEdit.Answer → List Notice
  | .add _ type, .slot id | .menu (.add _ type), .outcome ⟨id, _⟩ =>
    [after.addedNotice id type ""]
  | .addDefault _ default, .slot id => [after.addedNotice id default.type " with a default"]
  | .remove id, _ | .menu (.remove id), _ =>
    [before.notice .debug s!"removed {id.display} '{before.slotName id}'"]
  | .rename id _, _ | .renameFree id _, _ | .menu (.rename id _ _), _ =>
    [before.renamedNotice after id]
  | .retype _ _, .warnings warnings | .menu (.retype _ _), .outcome ⟨_, warnings⟩ =>
    before.warningNotices warnings
  | .setDefault id default, _ =>
    let literal := (default.map fun value => s!"Some({value.diagnostic})").getD "None"
    [before.notice .debug s!"default of '{before.slotName id}' set to {literal}"]
  | _, _ => []

end Node

end CallChain
