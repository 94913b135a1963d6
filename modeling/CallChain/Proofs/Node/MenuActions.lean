import CallChain.Node.MenuAction
import CallChain.Proofs.Node.Preservation

/-! Menu actions in a row: how they use up the ids of a node, and that they keep it consistent. -/

namespace CallChain

/-- Giving out an id moves the counter on by one, until it has reached its end. -/
theorem Slots.nextId_allocate (table : Slots) :
    table.allocate.2.toNat = min (table.nextId.toNat + 1) lastId.toNat := by
  have last : lastId.toNat = 4294967295 := rfl
  have size := UInt32.toNat_lt table.nextId
  unfold allocate
  split
  next exhausted =>
    -- The counter stays where it is.
    show lastId.toNat = _
    rw [exhausted]
    omega
  next counting =>
    -- The counter is not at its end, so it does not wrap.
    have early : table.nextId.toNat ≠ 4294967295 := fun same =>
      counting (UInt32.toNat_inj.mp same)
    simp only [UInt32.toNat_add, UInt32.toNat_one]
    omega

namespace MenuAction

/-- Carries actions out one after the other, up to the first that is refused. -/
def applyAll : List MenuAction → Node → Except NodeFault Node
  | [], node => .ok node
  | action :: rest, node => do
    let (edited, _) ← action.apply node
    applyAll rest edited

/-- Whether an action adds a slot. -/
def isAddition : MenuAction → Bool
  | add _ _ => true
  | _ => false

/-- How many of several actions add a slot. -/
def additions (actions : List MenuAction) : Nat :=
  actions.countP isAddition

/-- Whether a node has ids left after several actions: its counter does not reach the end. -/
def LeavesIds (actions : List MenuAction) (node : Node) : Prop :=
  node.slots.nextId.toNat + additions actions < Slots.lastId.toNat

instance (actions : List MenuAction) (node : Node) : Decidable (LeavesIds actions node) :=
  inferInstanceAs (Decidable (_ < _))

variable {node after edited : Node} {action : MenuAction} {outcome : Outcome}
  {actions : List MenuAction}

/-- Renaming a slot leaves the counter of ids alone. -/
theorem nextId_rename {id : SlotId} {newName : String} (done : node.rename id newName = .ok after) :
    after.slots.nextId = node.slots.nextId := by
  obtain ⟨_, _, _, rfl⟩ := Node.rename_eq_ok done
  rfl

/-- An action that adds no slot leaves the counter of ids alone. -/
theorem nextId_apply_of_not_isAddition (done : action.apply node = .ok (after, outcome))
    (other : ¬action.isAddition) : after.slots.nextId = node.slots.nextId := by
  cases action with
  | add => exact absurd rfl other
  | remove slot =>
    obtain ⟨⟨_, _⟩, removed, same⟩ := map_eq_ok_iff.mp done
    cases same
    obtain ⟨_, rfl⟩ := Node.remove_eq_ok removed
    rfl
  | rename slot name autoSuffix =>
    cases autoSuffix with
    | true =>
      obtain ⟨⟨_, _⟩, renamed, same⟩ := map_eq_ok_iff.mp done
      cases same
      -- A numbered name is given like any other.
      obtain ⟨_, renamed⟩ := Node.renameFree_eq_ok renamed
      exact nextId_rename renamed
    | false =>
      obtain ⟨_, renamed, same⟩ := map_eq_ok_iff.mp done
      cases same
      exact nextId_rename renamed
  | retype slot type =>
    obtain ⟨⟨_, _⟩, retyped, same⟩ := map_eq_ok_iff.mp done
    cases same
    obtain ⟨_, _, ⟨_, rfl⟩ | ⟨_, rfl⟩⟩ := Node.retype_eq_ok retyped
    · rfl
    · rfl

/-- An action moves the counter of ids on by the slots that it adds, until its end. -/
theorem nextId_apply (done : action.apply node = .ok (after, outcome)) :
    after.slots.nextId.toNat =
      min (node.slots.nextId.toNat + additions [action]) Slots.lastId.toNat := by
  by_cases addition : action.isAddition
  · obtain ⟨name, type, rfl⟩ : ∃ name type, action = .add name type := by
      cases action <;> simp [isAddition] at addition
      exact ⟨_, _, rfl⟩
    cases done
    exact Slots.nextId_allocate node.slots
  · have size := UInt32.toNat_lt node.slots.nextId
    have last : Slots.lastId.toNat = 4294967295 := rfl
    rw [nextId_apply_of_not_isAddition done addition, additions, List.countP_singleton,
      if_neg addition]
    omega

/-- Actions in a row move the counter on by the slots that they add, until its end. -/
theorem nextId_applyAll (done : applyAll actions node = .ok edited) :
    edited.slots.nextId.toNat =
      min (node.slots.nextId.toNat + additions actions) Slots.lastId.toNat := by
  -- The counter after the first action is where the others start to count.
  induction actions generalizing node with
  | nil =>
    obtain rfl := Except.ok.inj done
    have size := UInt32.toNat_lt node.slots.nextId
    have last : Slots.lastId.toNat = 4294967295 := rfl
    simp only [additions, List.countP_nil]
    omega
  | cons action rest ih =>
    obtain ⟨⟨next, _⟩, applied, done⟩ := bind_eq_ok_iff.mp done
    have first := nextId_apply applied
    have others := ih done
    simp only [additions, List.countP_cons, List.countP_nil] at first others ⊢
    omega

/-- An action keeps a consistent node consistent unless its counter is at the end. -/
theorem consistent_apply (consistent : node.Consistent)
    (left : node.slots.nextId.toNat < Slots.lastId.toNat)
    (done : action.apply node = .ok (after, outcome)) : after.Consistent := by
  -- There are no more slots than ids that were given out.
  have last : Slots.lastId.toNat = 4294967295 := rfl
  have room := consistent.length_le
  exact consistent.change (by omega) (Node.change_apply done)

/-- Actions in a row keep a consistent node consistent as long as they leave ids. -/
theorem consistent_applyAll (consistent : node.Consistent) (left : LeavesIds actions node)
    (done : applyAll actions node = .ok edited) : edited.Consistent := by
  induction actions generalizing node with
  | nil =>
    cases done
    exact consistent
  | cons action rest ih =>
    obtain ⟨⟨next, _⟩, applied, done⟩ := bind_eq_ok_iff.mp done
    have moved := nextId_apply applied
    simp only [LeavesIds, additions, List.countP_cons, List.countP_nil] at moved left
    have first := consistent_apply consistent (by omega) applied
    have others : LeavesIds rest next := by
      rw [LeavesIds, additions]
      omega
    exact ih first others done

end MenuAction

end CallChain
