import CallChain.Proofs.Document.File
import CallChain.Proofs.Node.MenuActions

/-! Edited documents: for how long the document that menu actions lead to is loaded again. -/

namespace CallChain.Document

open MenuAction

/-- Puts another node at a position. -/
def setNode (document : Document) (position : Nat) (node : Node) : Document :=
  { document with nodes := document.nodes.set position node }

variable {document : Document} {position : Nat} {node edited : Node} {actions : List MenuAction}

/-- A valid document stays valid when the node put into it can be loaded. -/
theorem validate_setNode_iff (valid : document.validate = .ok ())
    (placed : document.nodes[position]? = some node) :
    (document.setNode position edited).validate = .ok () ↔
      edited.slots.nextId ≠ Slots.lastId ∧ edited.Consistent := by
  obtain ⟨current, accepted⟩ := validate_eq_ok_iff.mp valid
  obtain ⟨bound, _⟩ := List.getElem?_eq_some_iff.mp placed
  rw [validate_eq_ok_iff]
  constructor
  · rintro ⟨_, all⟩
    exact all edited (List.mem_set bound edited)
  · intro good
    refine ⟨current, fun other member => ?_⟩
    -- The other nodes are those that were there before.
    rcases List.mem_or_eq_of_mem_set member with old | rfl
    · exact accepted other old
    · exact good

/-- A valid document of which one node was edited is valid exactly when the node has ids left. -/
theorem validate_edited_iff (valid : document.validate = .ok ())
    (placed : document.nodes[position]? = some node)
    (accepted : applyAll actions node = .ok edited) :
    (document.setNode position edited).validate = .ok () ↔ LeavesIds actions node := by
  have member := List.mem_of_getElem? placed
  have consistent := ((validate_eq_ok_iff.mp valid).2 node member).2
  -- The counter after the actions tells whether it has reached its end.
  have moved := nextId_applyAll accepted
  rw [validate_setNode_iff valid placed]
  constructor
  · rintro ⟨left, _⟩
    have early : edited.slots.nextId.toNat ≠ Slots.lastId.toNat := fun same =>
      left (UInt32.toNat_inj.mp same)
    rw [LeavesIds]
    omega
  · intro left
    refine ⟨fun exhausted => ?_, consistent_applyAll consistent left accepted⟩
    rw [LeavesIds] at left
    rw [exhausted] at moved
    omega

/-- The first node with an id is replaced at the position where it is found. -/
theorem exists_replaceFirst_eq_set {id : String} {nodes : List Node}
    (found : nodes.find? (fun node => node.id == id) = some node) :
    ∃ position, nodes[position]? = some node ∧
      ∀ replacement, replaceFirst id replacement nodes = nodes.set position replacement := by
  induction nodes with
  | nil => cases found
  | cons head rest ih =>
    -- Either the head is the node, or search and replacement both go on behind it.
    by_cases own : head.id = id
    · have same : head = node := by simpa [own] using found
      exact ⟨0, by simp [same], fun replacement => by simp [replaceFirst, own]⟩
    · have later : rest.find? (fun node => node.id == id) = some node := by
        simpa [own] using found
      obtain ⟨position, placed, replaced⟩ := ih later
      refine ⟨position + 1, by simpa using placed, fun replacement => ?_⟩
      simp [replaceFirst, own, replaced]

/-- Putting another node in place of the first one with an id is putting it at a position. -/
theorem exists_replaceNode_eq_setNode {id : String} (found : document.node? id = some node) :
    ∃ position, document.nodes[position]? = some node ∧
      ∀ replacement,
        document.replaceNode id replacement = document.setNode position replacement := by
  obtain ⟨position, placed, replaced⟩ := exists_replaceFirst_eq_set found
  refine ⟨position, placed, fun replacement => ?_⟩
  rw [replaceNode, setNode, replaced]

/-- A document is another one with the first node of an id replaced, and nothing else changed. -/
def ReplacesFirst (before after : Document) (id : String) (node edited : Node) : Prop :=
  after.version = before.version ∧
    ∃ earlier later, before.nodes = earlier ++ node :: later ∧
      after.nodes = earlier ++ edited :: later ∧
      node.id = id ∧ ∀ other ∈ earlier, other.id ≠ id

/-- Putting another node in place of the first one with an id replaces just that one. -/
theorem replacesFirst_replaceNode {id : String} (found : document.node? id = some node) :
    document.ReplacesFirst (document.replaceNode id edited) id node edited := by
  refine ⟨rfl, ?_⟩
  -- The search has passed by the nodes before the one that it has found.
  obtain ⟨own, earlier, later, split, others⟩ := List.find?_eq_some_iff_append.mp found
  have passed : ∀ other ∈ earlier, other.id ≠ id := by
    intro other member
    simpa using others other member
  have named : node.id = id := by simpa using own
  refine ⟨earlier, later, split, ?_, named, passed⟩
  show replaceFirst id edited document.nodes = _
  rw [split]
  clear found split others
  induction earlier with
  | nil => simp [replaceFirst, named]
  | cons other rest ih =>
    obtain ⟨different, passed⟩ := List.forall_mem_cons.mp passed
    rw [List.cons_append, replaceFirst, if_neg different, ih passed, List.cons_append]

end CallChain.Document
