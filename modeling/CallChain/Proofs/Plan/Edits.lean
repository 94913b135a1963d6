import CallChain.Proofs.Plan.Intakes

/-! Edits of plans: the steps of a slot are changed, a step is added at the end of the chain, or a
step is taken out of it. What control and redirects have to do with the steps stays the same. -/

namespace CallChain

namespace Step

/-- The step for another property. -/
def withProperty (name : String) (step : Step) : Step :=
  { step with
    call := match step.call with
      | .setProperty _ type => .setProperty name type
      | call => call }

/-- The step with another value. -/
def withValue (feed : Feed) (step : Step) : Step :=
  { step with
    inputs := step.inputs.map fun entry =>
      if entry.input = .value then { entry with feed } else entry }

/-- The step under another number. -/
def renumber (number : StepId → StepId) (step : Step) : Step :=
  { step with id := number step.id }

end Step

/-- The goal under another number. -/
def Goal.renumber (number : StepId → StepId) : Goal → Goal
  | .step id => .step (number id)
  | .exit => .exit

/-- The edge between steps with other numbers. -/
def Edge.renumber (number : StepId → StepId) (edge : Edge) : Edge :=
  { edge with start := number edge.start, goal := edge.goal.renumber number }

/-- The number of a step once another one is gone: that of a later step is one lower. -/
def StepId.without (gone id : StepId) : StepId :=
  if gone.raw < id.raw then ⟨id.raw - 1⟩ else id

namespace Plan

/-- The steps that were made for a slot. -/
def madeFor (plan : Plan) (id : SlotId) : List Step :=
  plan.steps.filter fun step => step.origin = some id

/-- The plan with the steps of a slot changed. -/
def revise (plan : Plan) (id : SlotId) (change : Step → Step) : Plan :=
  { plan with
    steps := plan.steps.map fun step => if step.origin = some id then change step else step }

/-- The step of a slot that is added to a plan: it comes last and sets the property to zero. -/
def newStep (plan : Plan) (id : SlotId) (name : String) (type : ValueType) : Step :=
  ⟨.ofNat plan.steps.length, .setProperty name type,
    [⟨.target, handle⟩, ⟨.value, .literal (.zero type)⟩], some id⟩

/-- The plan with one more step, to which the chain goes on instead of leading out. Only an invalid
handle leads out as before. -/
def extend (plan : Plan) (last : Step) : Plan :=
  { plan with
    steps := plan.steps ++ [last]
    control := (plan.control.map fun edge =>
      if edge.goal = .exit ∧ edge.guard ≠ .ifInvalid then { edge with goal := .step last.id }
      else edge) ++ [⟨last.id, .exit, .always⟩] }

/-- Where the chain goes on past a step that is gone: instead of to the step, to where it led. -/
def past (plan : Plan) (gone : StepId) (goal : Goal) : Goal :=
  if goal = .step gone then ((plan.successors gone).head?.map Edge.goal).getD .exit else goal

/-- The plan without a step and its redirects, each step still under its own number. -/
def drop (plan : Plan) (gone : StepId) : Plan :=
  { plan with
    steps := plan.steps.filter fun step => step.id ≠ gone
    control := (plan.control.filter fun edge => edge.start ≠ gone).map fun edge =>
      { edge with goal := plan.past gone edge.goal }
    redirects := plan.redirects.filter fun redirect => redirect.target ≠ gone }

/-- The plan with its steps numbered in another way. -/
def renumber (plan : Plan) (number : StepId → StepId) : Plan :=
  { plan with
    steps := plan.steps.map (Step.renumber number)
    control := plan.control.map (Edge.renumber number)
    redirects := plan.redirects.map fun redirect =>
      { redirect with target := number redirect.target } }

/-- The plan without a step and its redirects, the later steps numbered one lower. -/
def without (plan : Plan) (gone : StepId) : Plan :=
  (plan.drop gone).renumber gone.without

/-- The control of a plan does nothing but lead from each step to the next, and its redirects are
those that hand the links over to the steps. -/
structure Regular (plan : Plan) : Prop where
  control : plan.control = chainEdges plan.steps
  redirects : plan.redirects = Intake.handOver plan.intakes

/-- The edges of a chain depend on nothing but the numbers of its steps. -/
theorem chainEdges_congr {first second : List Step}
    (same : first.map Step.id = second.map Step.id) : chainEdges first = chainEdges second := by
  induction first generalizing second with
  | nil =>
    rw [List.map_nil, eq_comm, List.map_eq_nil_iff] at same
    rw [same]
  | cons step rest ih =>
    cases second with
    | nil => simp at same
    | cons other others =>
      simp only [List.map_cons, List.cons.injEq] at same
      have goal : goalOf rest = goalOf others := by
        cases rest <;> cases others <;> simp_all [goalOf]
      rw [chainEdges, chainEdges, ih same.2, goal, edgesFrom, edgesFrom, same.1]

/-- Where the edges of a step lead can be changed before they are made. -/
theorem map_goal_edgesFrom {change : Goal → Goal} (exits : change .exit = .exit) (step : Step)
    (next : Goal) :
    (edgesFrom step next).map (fun edge => { edge with goal := change edge.goal }) =
      edgesFrom step (change next) := by
  unfold edgesFrom
  split <;> simp [exits]

/-- Steps can be numbered in another way before their edges are made, as long as it is the same step
that asks for the item. -/
theorem map_renumber_chainEdges {number : StepId → StepId} {steps : List Step}
    (kept : ∀ step ∈ steps, number step.id = createId ↔ step.id = createId) :
    (chainEdges steps).map (Edge.renumber number) =
      chainEdges (steps.map (Step.renumber number)) := by
  induction steps with
  | nil => rfl
  | cons step rest ih =>
    have tail := ih fun other member => kept other (by simp [member])
    have goal : (goalOf rest).renumber number = goalOf (rest.map (Step.renumber number)) := by
      cases rest <;> rfl
    have own : (edgesFrom step (goalOf rest)).map (Edge.renumber number) =
        edgesFrom (step.renumber number) (goalOf (rest.map (Step.renumber number))) := by
      unfold edgesFrom
      rw [← goal]
      -- The shape of the edges depends on whether the step asks for the item.
      by_cases asks : step.id = createId
      · have still : (step.renumber number).id = createId := (kept step (by simp)).mpr asks
        rw [if_pos asks, if_pos still]
        rfl
      · have neither : (step.renumber number).id ≠ createId :=
          fun same => asks ((kept step (by simp)).mp same)
        rw [if_neg asks, if_neg neither]
        rfl
    rw [List.map_cons, chainEdges, chainEdges, List.map_append, own, tail]

/-- One more step makes the chain go on to it instead of leading out. -/
theorem chainEdges_concat (steps : List Step) (last : Step) :
    chainEdges (steps ++ [last]) = ((chainEdges steps).map fun edge =>
      if edge.goal = .exit ∧ edge.guard ≠ .ifInvalid then { edge with goal := .step last.id }
      else edge) ++ edgesFrom last .exit := by
  induction steps with
  | nil => simp [chainEdges, goalOf]
  | cons step rest ih =>
    -- Only the edges of the step before the new one lead out.
    have own : edgesFrom step (goalOf (rest ++ [last])) =
        (edgesFrom step (goalOf rest)).map fun edge =>
          if edge.goal = .exit ∧ edge.guard ≠ .ifInvalid then { edge with goal := .step last.id }
          else edge := by
      unfold edgesFrom
      cases rest <;> split <;> simp [goalOf]
    rw [List.cons_append, chainEdges, chainEdges, ih, own, List.map_append, List.append_assoc]

/-- Every edge of a chain leads to one of its steps or out of it. -/
theorem goal_of_mem_chainEdges {steps : List Step} {edge : Edge}
    (member : edge ∈ chainEdges steps) :
    edge.goal = .exit ∨ ∃ step ∈ steps, edge.goal = .step step.id := by
  induction steps with
  | nil => simp [chainEdges] at member
  | cons step rest ih =>
    rw [chainEdges, List.mem_append] at member
    rcases member with own | other
    · -- The step goes on to the first of the others, and leads out if there are none.
      have leads := (of_mem_edgesFrom own).2
      cases rest with
      | nil => exact .inl (leads.elim id id)
      | cons next rest => exact leads.imp_right fun goal => ⟨next, by simp, goal⟩
    · rcases ih other with exit | ⟨later, placed, goal⟩
      · exact .inl exit
      · exact .inr ⟨later, by simp [placed], goal⟩

/-- No edge of a chain is lost with those of a step that is not in it. -/
theorem filter_chainEdges_eq_self {steps : List Step} {id : StepId}
    (absent : ∀ step ∈ steps, step.id ≠ id) :
    (chainEdges steps).filter (fun edge => edge.start ≠ id) = chainEdges steps := by
  rw [List.filter_eq_self]
  intro edge member
  obtain ⟨step, placed, start⟩ := start_of_mem_chainEdges member
  simpa [start] using absent step placed

/-- The edges of a chain stay as they are where only goals outside of it change. -/
theorem map_goal_chainEdges_eq_self {steps : List Step} {change : Goal → Goal}
    (exits : change .exit = .exit) (same : ∀ step ∈ steps, change (.step step.id) = .step step.id) :
    (chainEdges steps).map (fun edge => { edge with goal := change edge.goal }) =
      chainEdges steps := by
  refine (List.map_congr_left fun edge member => ?_).trans (List.map_id _)
  have kept : change edge.goal = edge.goal := by
    rcases goal_of_mem_chainEdges member with exit | ⟨step, placed, goal⟩
    · rw [exit, exits]
    · rw [goal, same step placed]
  rw [kept]
  rfl

/-- Without one of its steps, a chain goes on past it. -/
theorem chainEdges_drop {done rest : List Step} {gone : Step} {change : Goal → Goal}
    (before : ∀ step ∈ done, step.id ≠ gone.id) (after : ∀ step ∈ rest, step.id ≠ gone.id)
    (leads : change (.step gone.id) = goalOf rest)
    (others : ∀ goal, goal ≠ .step gone.id → change goal = goal) :
    ((chainEdges (done ++ gone :: rest)).filter fun edge => edge.start ≠ gone.id).map
      (fun edge => { edge with goal := change edge.goal }) = chainEdges (done ++ rest) := by
  induction done with
  | nil =>
    -- The edges of the step itself are gone, and none of those after it led to it.
    have dropped :
        (edgesFrom gone (goalOf rest)).filter (fun edge => edge.start ≠ gone.id) = [] := by
      unfold edgesFrom
      split <;> simp
    have same : ∀ step ∈ rest, change (.step step.id) = .step step.id := fun step member =>
      others _ (by simpa using after step member)
    rw [List.nil_append, List.nil_append, chainEdges, List.filter_append, dropped,
      filter_chainEdges_eq_self after, List.nil_append,
      map_goal_chainEdges_eq_self (others _ (by simp)) same]
  | cons step done ih =>
    have own : step.id ≠ gone.id := before step (by simp)
    have tail := ih fun other member => before other (by simp [member])
    have kept : (edgesFrom step (goalOf (done ++ gone :: rest))).filter
        (fun edge => edge.start ≠ gone.id) = edgesFrom step (goalOf (done ++ gone :: rest)) := by
      unfold edgesFrom
      split <;> simp [own]
    -- Right before the step that is gone, the chain now leads to what comes after it.
    have goal : change (goalOf (done ++ gone :: rest)) = goalOf (done ++ rest) := by
      cases done with
      | nil => exact leads
      | cons next done =>
        have apart : next.id ≠ gone.id := before next (by simp)
        exact others _ (by simpa [goalOf] using apart)
    rw [List.cons_append, List.cons_append, chainEdges, chainEdges, List.filter_append, kept,
      List.map_append, map_goal_edgesFrom (others _ (by simp)), goal, tail]

end Plan

/-- An input stands for the pin of a slot just if its step was made for the slot. -/
theorem Step.slot_iff_of_pin? {step : Step} {input : Input} {pin : Pin}
    (stands : step.pin? input = some pin) (id : SlotId) :
    pin = .slot id ↔ step.origin = some id := by
  cases made : step.origin with
  | none =>
    -- What was made for no slot reads the fixed pins.
    cases input <;> simp only [Step.pin?, made, Option.some.injEq, reduceCtorEq] at stands
    all_goals
      subst stands
      simp
  | some own =>
    cases input <;> simp only [Step.pin?, made, Option.some.injEq, reduceCtorEq] at stands
    subst stands
    simp

/-- An intake of a step leads to the step, and it is one of a slot just if the step was made for the
slot. -/
theorem Step.of_mem_intakes {step : Step} {intake : Intake} (member : intake ∈ step.intakes) :
    intake.target = step.id ∧ ∀ id, intake.pin = .slot id ↔ step.origin = some id := by
  obtain ⟨entry, _, made⟩ := List.mem_filterMap.mp member
  obtain ⟨pin, stands, sourced⟩ := Option.bind_eq_some_iff.mp made
  obtain ⟨source, _, rfl⟩ := Option.map_eq_some_iff.mp sourced
  exact ⟨rfl, Step.slot_iff_of_pin? stands⟩

namespace Plan

variable {plan : Plan}

/-- Where the steps of a slot are changed in other respects than their numbers and intakes, control
and redirects are right as they were. -/
theorem Regular.revise (regular : plan.Regular) {id : SlotId} {change : Step → Step}
    (same : ∀ step ∈ plan.steps, step.origin = some id →
      (change step).id = step.id ∧ (change step).intakes = step.intakes) :
    (plan.revise id change).Regular ∧ (plan.revise id change).intakes = plan.intakes := by
  -- A step that was not made for the slot is not touched at all.
  have each : ∀ step ∈ plan.steps,
      (if step.origin = some id then change step else step).id = step.id ∧
        (if step.origin = some id then change step else step).intakes = step.intakes := by
    intro step member
    split
    next own => exact same step member own
    next => exact ⟨rfl, rfl⟩
  have intakes : (plan.revise id change).intakes = plan.intakes := by
    rw [Plan.intakes, Plan.revise, List.flatMap_map]
    exact List.flatMap_congr fun step member => (each step member).2
  have ids : (plan.revise id change).steps.map Step.id = plan.steps.map Step.id := by
    rw [Plan.revise, List.map_map]
    exact List.map_congr_left fun step member => (each step member).1
  refine ⟨⟨?_, ?_⟩, intakes⟩
  · rw [chainEdges_congr ids]
    exact regular.control
  · rw [intakes]
    exact regular.redirects

/-- Where a step that reads no link is added, there is nothing to hand over to it. -/
theorem Regular.extend (regular : plan.Regular) {last : Step} (plain : last.id ≠ createId)
    (unlinked : last.intakes = []) :
    (plan.extend last).Regular ∧ (plan.extend last).intakes = plan.intakes := by
  have intakes : (plan.extend last).intakes = plan.intakes := by
    rw [Plan.intakes, Plan.extend, List.flatMap_append, List.flatMap_singleton, unlinked,
      List.append_nil]
    rfl
  refine ⟨⟨?_, ?_⟩, intakes⟩
  · rw [Plan.extend, chainEdges_concat, ← regular.control, edgesFrom, if_neg plain]
  · rw [intakes]
    exact regular.redirects

/-- The intakes of a step are gone together with the step. -/
theorem intakes_drop (plan : Plan) (gone : StepId) :
    (plan.drop gone).intakes = plan.intakes.filter fun intake => intake.target ≠ gone := by
  have each : ∀ step : Step, step.intakes.filter (fun intake => intake.target ≠ gone) =
      if step.id = gone then [] else step.intakes := by
    intro step
    split
    next own =>
      rw [List.filter_eq_nil_iff]
      intro intake member
      simpa [(Step.of_mem_intakes member).1] using own
    next other =>
      rw [List.filter_eq_self]
      intro intake member
      simpa [(Step.of_mem_intakes member).1] using other
  rw [Plan.intakes, Plan.intakes, Plan.drop]
  -- The steps are taken one by one, each with all of its intakes.
  induction plan.steps with
  | nil => rfl
  | cons step rest ih =>
    rw [List.flatMap_cons, List.filter_append, ← ih, each, List.filter_cons]
    by_cases own : step.id = gone <;> simp [own]

/-- Without a step, those before and after it are left. -/
theorem steps_drop (numbered : Numbered plan.steps) {done rest : List Step} {gone : Step}
    (split : plan.steps = done ++ gone :: rest) : (plan.drop gone.id).steps = done ++ rest := by
  have before := numbered.ne_before split
  have after := numbered.ne_after split
  have early : done.filter (fun step => step.id ≠ gone.id) = done :=
    List.filter_eq_self.mpr (by simpa using before)
  have late : rest.filter (fun step => step.id ≠ gone.id) = rest :=
    List.filter_eq_self.mpr (by simpa using after)
  rw [Plan.drop, split, List.filter_append, List.filter_cons, early, late]
  simp

/-- What leads to the only step that was made for a slot is what the slot reads. -/
theorem target_iff_of_madeFor (numbered : Numbered plan.steps) {id : SlotId} {step : Step}
    (only : plan.madeFor id = [step]) :
    ∀ intake ∈ plan.intakes, intake.target = step.id ↔ intake.pin = .slot id := by
  intro intake member
  obtain ⟨reader, placed, read⟩ := List.mem_flatMap.mp member
  obtain ⟨target, pin⟩ := Step.of_mem_intakes read
  have made : step ∈ plan.madeFor id := by simp [only]
  obtain ⟨inside, own⟩ := List.mem_filter.mp made
  rw [target, pin]
  constructor
  · -- Steps with the same number are the same.
    intro same
    rw [List.inj_on_of_nodup_map numbered.nodup_ids placed inside same]
    simpa using own
  · intro origin
    have found : reader ∈ plan.madeFor id := List.mem_filter.mpr ⟨placed, by simpa using origin⟩
    rw [only, List.mem_singleton] at found
    rw [found]

/-- A step can be taken out if it reads just one pin, and reads it alone: the redirects of the other
pins stay as they are. -/
theorem Regular.drop (regular : plan.Regular) (numbered : Numbered plan.steps)
    {done rest : List Step} {gone : Step} (split : plan.steps = done ++ gone :: rest)
    (plain : gone.id ≠ createId) {pin : Pin}
    (alone : ∀ intake ∈ plan.intakes, intake.target = gone.id ↔ intake.pin = pin) :
    (plan.drop gone.id).Regular := by
  have before := numbered.ne_before split
  have after := numbered.ne_after split
  refine ⟨?_, ?_⟩
  · -- The step has a single edge, and where that led is where the chain goes on.
    have chain : plan.IsChain := ⟨numbered, regular.control⟩
    have leads : plan.past gone.id (.step gone.id) = goalOf rest := by
      rw [past, if_pos rfl, chain.successors_eq split, edgesFrom, if_neg plain]
      rfl
    rw [steps_drop numbered split,
      ← chainEdges_drop before after leads fun goal other => if_neg other, ← split,
      ← regular.control]
    rfl
  · -- Leaving the step out is leaving the pin out, so no other link changes hands in another way.
    have gone_intakes : plan.intakes.filter (fun intake => intake.target ≠ gone.id) =
        plan.intakes.filter fun intake => intake.pin ≠ pin :=
      List.filter_congr fun intake member => by simp [alone intake member]
    have gone_redirects : plan.redirects.filter (fun redirect => redirect.target ≠ gone.id) =
        plan.redirects.filter fun redirect => redirect.pin ≠ pin := by
      refine List.filter_congr fun redirect member => ?_
      rw [regular.redirects] at member
      have served := alone _ (Intake.intake_mem_of_mem_handOver member)
      simp only [Redirect.intake] at served
      simp [served]
    rw [intakes_drop, gone_intakes, Intake.handOver_filter, ← regular.redirects, ← gone_redirects]
    rfl

/-- The intakes of steps that are numbered in another way lead to the new numbers. -/
theorem intakes_renumber (plan : Plan) (number : StepId → StepId) :
    (plan.renumber number).intakes =
      plan.intakes.map fun intake => { intake with target := number intake.target } := by
  rw [Plan.intakes, Plan.intakes, Plan.renumber, List.flatMap_map, List.map_flatMap]
  refine List.flatMap_congr fun step _ => ?_
  rw [Step.intakes, Step.intakes, List.map_filterMap]
  refine List.filterMap_congr fun entry _ => ?_
  simp only [Step.intake?, Option.map_bind, Function.comp_def, Option.map_map]
  rfl

/-- Steps can be numbered in another way, as long as it is the same step that asks for the item. -/
theorem Regular.renumber (regular : plan.Regular) (number : StepId → StepId)
    (kept : ∀ step ∈ plan.steps, number step.id = createId ↔ step.id = createId) :
    (plan.renumber number).Regular := by
  refine ⟨?_, ?_⟩
  · rw [Plan.renumber, ← map_renumber_chainEdges kept, ← regular.control]
  · rw [intakes_renumber, Intake.handOver_map, ← regular.redirects]
    rfl

/-- No link is read more often once a step is gone. -/
theorem length_onPin_without_le (plan : Plan) (gone : StepId) (pin : Pin) :
    (Intake.onPin pin (plan.without gone).intakes).length ≤
      (Intake.onPin pin plan.intakes).length := by
  rw [Plan.without, intakes_renumber, intakes_drop, Intake.onPin, List.filter_map, List.length_map]
  exact (List.filter_sublist.filter _).length_le

end Plan

namespace StepId

/-- Steps before one that is gone keep their numbers. -/
theorem without_of_le {gone id : StepId} (early : id.raw ≤ gone.raw) : gone.without id = id :=
  if_neg (UInt32.not_lt.mpr early)

/-- Steps after one that is gone move up by one. -/
theorem without_toNat {gone id : StepId} (late : gone.raw < id.raw) :
    (gone.without id).raw.toNat = id.raw.toNat - 1 := by
  rw [without, if_pos late]
  have some : (1 : UInt32) ≤ id.raw := by
    rw [UInt32.lt_iff_toNat_lt] at late
    rw [UInt32.le_iff_toNat_le, UInt32.toNat_one]
    omega
  rw [UInt32.toNat_sub_of_le _ _ some, UInt32.toNat_one]

/-- Where a step after the call that asks for the item is gone, that call keeps its number, and no
other step gets it. -/
theorem without_eq_createId_iff {gone id : StepId} (late : Plan.createId.raw < gone.raw) :
    gone.without id = Plan.createId ↔ id = Plan.createId := by
  by_cases after : gone.raw < id.raw
  · -- Both the old and the new number are greater than that of the call.
    have number := without_toNat after
    have one : Plan.createId.raw.toNat = 1 := rfl
    rw [UInt32.lt_iff_toNat_lt] at late after
    refine iff_of_false (fun same => ?_) fun same => ?_
    · rw [same] at number
      omega
    · rw [same] at after
      omega
  · rw [without, if_neg after]

end StepId

/-- Without a step, those before it are left as they are, and those after it move up. -/
theorem Plan.steps_without {plan : Plan} (numbered : Numbered plan.steps) {done rest : List Step}
    {gone : Step} (split : plan.steps = done ++ gone :: rest) :
    (plan.without gone.id).steps = done ++ rest.map (Step.renumber gone.id.without) := by
  have kept : done.map (Step.renumber gone.id.without) = done := by
    refine (List.map_congr_left fun step member => ?_).trans (List.map_id _)
    have lower := numbered.lt_before split step member
    rw [Step.renumber, StepId.without_of_le (UInt32.le_of_lt lower)]
    rfl
  have each : (plan.without gone.id).steps =
    (plan.drop gone.id).steps.map (Step.renumber gone.id.without) := rfl
  rw [each, steps_drop numbered split, List.map_append, kept]

end CallChain
