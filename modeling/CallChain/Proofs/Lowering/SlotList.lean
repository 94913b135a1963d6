import CallChain.Node.MenuAction
import CallChain.Proofs.Lowering.Meaning
import CallChain.Proofs.Lowering.Values

/-! The slot list that authors see against the plan: the two agree row by row. -/

namespace CallChain

namespace Plan

/-- Where the step at a position goes on in a chain of so many steps: to the next step, and from the
last one out of the chain. -/
def goalAt (count position : Nat) : Goal :=
  if position + 1 < count then .step (.ofNat (position + 1)) else .exit

/-- The edges of a chain of so many steps after the one that asks for the item: each of the steps
goes on to the next, but an invalid handle leads straight out. -/
def sequence (count : Nat) : List Edge :=
  ⟨locateId, .step createId, .always⟩ :: ⟨createId, goalAt (count + 2) 1, .ifValid⟩ ::
    ⟨createId, .exit, .ifInvalid⟩ ::
      (List.range count).map fun position =>
        ⟨propertyId position, goalAt (count + 2) (position + 2), .always⟩

/-- Two edges lead on from the first two steps, one from each of the others, and one out. -/
@[simp] theorem length_sequence (count : Nat) : (sequence count).length = count + 3 := by
  simp [sequence]

/-- The first of some property steps is where the step before them goes on. -/
theorem goalOf_propertySteps (position : Nat) (pairs : List (Slot × Feed)) :
    goalOf (propertySteps position pairs) =
      goalAt (position + pairs.length + 2) (position + 1) := by
  cases pairs with
  | nil => simp [propertySteps, goalOf, goalAt]
  | cons pair rest => simp [propertySteps, goalOf, goalAt, propertyId]

/-- The edges of property steps lead from each of them to the next. -/
theorem chainEdges_propertySteps (position : Nat) (pairs : List (Slot × Feed))
    (small : position + pairs.length ≤ 4294967294) :
    chainEdges (propertySteps position pairs) = (List.range pairs.length).map fun offset =>
      ⟨propertyId (position + offset),
        goalAt (position + pairs.length + 2) (position + offset + 2), .always⟩ := by
  -- The edges of the rest are counted from one position further on.
  induction pairs generalizing position with
  | nil => rfl
  | cons pair rest ih =>
    rw [List.length_cons] at small ⊢
    have plain : (propertyStep position pair.1 pair.2).id ≠ createId :=
      propertyId_ne_createId (by omega)
    have tail := ih (position + 1) (by omega)
    rw [propertySteps, chainEdges, edgesFrom, if_neg plain, goalOf_propertySteps, tail,
      List.range_succ_eq_map, List.map_cons, List.map_map, List.singleton_append]
    -- Each position is the same, counted from this step or from the one after it.
    simp only [Nat.add_assoc, Nat.add_comm, Nat.add_left_comm, Function.comp_def, propertyStep_id,
      Nat.succ_eq_add_one, Nat.add_zero]

end Plan

namespace Node

variable {node : Node} {feeds : Feeds} {plan : Plan}

/-- A step sets the property that a row of the slot list stands for, on the object that was asked
for. -/
structure SetsRow (node : Node) (row : SlotRow) (step : Step) : Prop where
  call : step.call = .setProperty row.slot.name row.slot.type
  origin : step.origin = some row.slot.id
  inputs : step.inputs.map FedInput.input = [.target, .value]
  target : step.feed? .target = some (.step Plan.createId .handle)
  /-- A row that is marked as connected has a link, whose source is the value. -/
  connected : row.connected = true → ∃ link, node.link? (.slot row.slot.id) = some link ∧
    step.feed? .value = some (.linked link.source)
  /-- Any other row has no link, and its value is its literal or the zero of its type. -/
  unconnected : row.connected = false → node.link? (.slot row.slot.id) = none ∧
    step.feed? .value = some (.literal (row.slot.default.getD (.zero row.slot.type)))

/-- A plan mirrors the slot list of its node. -/
structure MirrorsSlots (node : Node) (plan : Plan) : Prop where
  rowCount : node.slotRows.length = node.slots.entries.length
  stepCount : plan.steps.length = node.slots.entries.length + 2
  numbered : Plan.Numbered plan.steps
  calls : (plan.steps.take 2).map Step.call = [.locate, .createOrShow]
  /-- The row at each position has the step two positions further on. -/
  rows : ∀ position row, node.slotRows[position]? = some row → row.position = position ∧
    ∃ step, plan.steps[position + 2]? = some step ∧ node.SetsRow row step
  control : plan.control = Plan.sequence node.slots.entries.length
  edgeCount : plan.control.length = node.slots.entries.length + 3
  properties : plan.properties = node.slotRows.map fun row => row.slot.name

/-- The property step of a slot sets the row of the slot. -/
theorem setsRow_propertyStep (node : Node) (slot : Slot) (position : Nat) :
    node.SetsRow ⟨slot, (node.link? (.slot slot.id)).isSome, position⟩
      (Plan.propertyStep position slot (node.feedOf slot)) where
  call := rfl
  origin := rfl
  inputs := rfl
  target := rfl
  connected linked := by
    obtain ⟨link, found⟩ := Option.isSome_iff_exists.mp linked
    exact ⟨link, found, congrArg some (feedOf_linked slot found)⟩
  unconnected unlinked := by
    have absent : node.link? (.slot slot.id) = none :=
      Option.isNone_iff_eq_none.mp (by simpa using unlinked)
    exact ⟨absent, congrArg some (feedOf_unlinked slot absent)⟩

/-- The names of the rows are those of the slots. -/
theorem map_name_slotRows (node : Node) :
    (node.slotRows.map fun row => row.slot.name) = node.slots.entries.map Slot.name := by
  refine List.ext_getElem? fun position => ?_
  simp only [slotRows, List.getElem?_map, List.getElem?_mapIdx, Option.map_map]
  rfl

/-- The steps of the plan of a node run one after the other. -/
theorem Lowers.control_eq (lowers : node.Lowers feeds plan)
    (small : node.slots.entries.length ≤ 4294967294) :
    plan.control = Plan.sequence node.slots.entries.length := by
  have properties := Plan.chainEdges_propertySteps 0 node.fedSlots (by simpa using small)
  have onward := Plan.goalOf_propertySteps 0 node.fedSlots
  simp only [length_fedSlots, Nat.zero_add] at properties onward
  -- Only the second of the two steps before the properties has a guarded pair of edges.
  rw [lowers.control, lowers.steps_eq, Plan.headSteps, List.cons_append, List.singleton_append,
    Plan.chainEdges, Plan.chainEdges, properties, onward]
  rfl

/-- The plan of a node has one step for each row of its slot list, in the order of the rows, which
sets the property of the row to what the row shows; and the steps run one after the other. -/
theorem mirrorsSlots_of_lower (small : node.slots.entries.length ≤ 4294967294)
    (lowered : node.lower = .ok plan) : node.MirrorsSlots plan := by
  obtain ⟨feeds, lowers⟩ := lower_eq_ok lowered
  exact {
    rowCount := by simp [slotRows]
    stepCount := lowers.length_steps
    numbered := (lowers.isChain small).numbered
    calls := by
      rw [lowers.steps]
      rfl
    rows := by
      intro position row placed
      rw [slotRows, List.getElem?_mapIdx, Option.map_eq_some_iff] at placed
      obtain ⟨slot, here, rfl⟩ := placed
      refine ⟨rfl, _, ?_, node.setsRow_propertyStep slot position⟩
      -- The two steps that every node needs come before those of the slots.
      rw [lowers.steps_eq, Plan.headSteps, List.cons_append, List.singleton_append,
        List.getElem?_cons_succ, List.getElem?_cons_succ, Plan.propertySteps_getElem?, fedSlots,
        List.getElem?_map, here, Nat.zero_add]
      rfl
    control := lowers.control_eq small
    edgeCount := by rw [lowers.control_eq small, Plan.length_sequence]
    properties := by
      have names := Plan.property?_propertySteps 0 node.fedSlots
      rw [fedSlots, List.map_map] at names
      rw [Plan.properties, lowers.steps_eq, map_name_slotRows]
      exact names }

/-- A node whose three slots have a link, a literal, and neither. -/
def panel : Node where
  id := "panel"
  fixed := ⟨some "UI", some "Panel", some 2⟩
  slots := ⟨[⟨⟨4⟩, "Title", .string, some (.string "Off")⟩,
    ⟨⟨1⟩, "Count", .integer, some (.integer 7)⟩, ⟨⟨2⟩, "Shown", .boolean, none⟩], 5⟩
  links := [⟨.slot ⟨4⟩, ⟨"menu", "title"⟩, .string, .shared⟩]

/-- The row that is connected has the source of its link as its value, and the other two have
literals. -/
theorem mirrorsSlots_of_lower_panel :
    panel.slots.entries.length ≤ 4294967294 ∧ ∃ plan, panel.lower = .ok plan ∧
      panel.MirrorsSlots plan ∧ panel.slotRows.map SlotRow.connected = [true, false, false] ∧
      plan.properties = ["Title", "Count", "Shown"] := by
  have small : panel.slots.entries.length ≤ 4294967294 := by decide
  exact ⟨small, _, rfl, mirrorsSlots_of_lower small rfl, by decide, by decide⟩

end Node

end CallChain
