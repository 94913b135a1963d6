import CallChain.Node.Session
import CallChain.Proofs.Node.Operations

/-! What edits can do to a node: every edit that succeeds is one of a few kinds of changes. -/

namespace CallChain.Node

/-- The ways in which an edit changes a node. -/
inductive Change (node : Node) : Node → Prop where
  | add (proposed : Option String) (type : ValueType) (default : Option Value)
    (typed : ∀ value, default = some value → value.type = type) :
    Change node (node.add proposed type default).1
  | remove {after : Node} {slot : Slot} (id : SlotId) (done : node.remove id = .ok (after, slot)) :
    Change node after
  | rename {after : Node} (id : SlotId) (name : String) (done : node.rename id name = .ok after) :
    Change node after
  | retype {after : Node} {warnings : List Warning} (id : SlotId) (type : ValueType)
    (done : node.retype id type = .ok (after, warnings)) : Change node after
  | setDefault {after : Node} (id : SlotId) (default : Option Value)
    (done : node.setDefault id default = .ok after) : Change node after
  | setFixed (fixed : FixedLiterals) : Change node { node with fixed }
  | connect {after : Node} {previous : Option Link} (link : Link)
    (done : node.connect link = .ok (after, previous)) : Change node after
  | disconnect (pin : Pin) : Change node (node.disconnect pin).1

variable {node after : Node}

/-- A slot that is renamed to a free form of a name is renamed. -/
theorem change_renameFree {id : SlotId} {newName used : String}
    (done : node.renameFree id newName = .ok (after, used)) : node.Change after := by
  obtain ⟨name, renamed⟩ := renameFree_eq_ok done
  exact .rename id name renamed

/-- What a menu action does, an edit can do. -/
theorem change_apply {action : MenuAction} {outcome : MenuAction.Outcome}
    (done : action.apply node = .ok (after, outcome)) : node.Change after := by
  -- A menu action says less in its answer, but it is carried out by the same operations.
  cases action with
  | add name type =>
    cases done
    exact .add name type none (by simp)
  | remove slot =>
    obtain ⟨⟨_, _⟩, removed, same⟩ := map_eq_ok_iff.mp done
    cases same
    exact .remove slot removed
  | rename slot name autoSuffix =>
    cases autoSuffix with
    | true =>
      obtain ⟨⟨_, _⟩, renamed, same⟩ := map_eq_ok_iff.mp done
      cases same
      exact change_renameFree renamed
    | false =>
      obtain ⟨_, renamed, same⟩ := map_eq_ok_iff.mp done
      cases same
      exact .rename slot name renamed
  | retype slot type =>
    obtain ⟨⟨_, _⟩, retyped, same⟩ := map_eq_ok_iff.mp done
    cases same
    exact .retype slot type retyped

/-- An edit that succeeds makes one of the changes. -/
theorem change_perform {edit : NodeEdit} {answer : NodeEdit.Answer}
    (done : node.perform edit = .ok (after, answer)) : node.Change after := by
  -- Each edit is one operation, and what it tells its author is left aside.
  cases edit with
  | add name type =>
    cases done
    exact .add name type none (by simp)
  | addDefault name default =>
    cases done
    exact .add name default.type (some default) (by simp)
  | remove slot =>
    obtain ⟨⟨_, _⟩, removed, same⟩ := map_eq_ok_iff.mp done
    cases same
    exact .remove slot removed
  | rename slot name =>
    obtain ⟨_, renamed, same⟩ := map_eq_ok_iff.mp done
    cases same
    exact .rename slot name renamed
  | renameFree slot name =>
    obtain ⟨⟨_, _⟩, renamed, same⟩ := map_eq_ok_iff.mp done
    cases same
    exact change_renameFree renamed
  | retype slot type =>
    obtain ⟨⟨_, _⟩, retyped, same⟩ := map_eq_ok_iff.mp done
    cases same
    exact .retype slot type retyped
  | setDefault slot default =>
    obtain ⟨_, set, same⟩ := map_eq_ok_iff.mp done
    cases same
    exact .setDefault slot default set
  | setPath path | setItemId itemId | setPriority priority =>
    cases done
    exact .setFixed _
  | connect link =>
    obtain ⟨⟨_, _⟩, connected, same⟩ := map_eq_ok_iff.mp done
    cases same
    exact .connect link connected
  | connectFixed pin source mode =>
    obtain ⟨⟨_, _⟩, connected, same⟩ := map_eq_ok_iff.mp done
    cases same
    exact .connect _ connected
  | disconnect pin =>
    cases done
    exact .disconnect pin
  | menu action =>
    obtain ⟨⟨_, _⟩, applied, same⟩ := map_eq_ok_iff.mp done
    cases same
    exact change_apply applied

end CallChain.Node
