import CallChain.Lowering

/-! Chains: numbered steps that run one after the other along the edges made for them. -/

namespace CallChain.Plan

/-- Every step stands at the position its id names. -/
def Numbered (steps : List Step) : Prop :=
  ∀ (position : Nat) (step : Step), steps[position]? = some step → step.id.raw.toNat = position

/-- A plan whose control does nothing but lead from each of its numbered steps to the next. -/
structure IsChain (plan : Plan) : Prop where
  numbered : Numbered plan.steps
  control : plan.control = chainEdges plan.steps

/-- The id of a numbered step tells how many steps come before it. -/
theorem Numbered.id_eq {steps done rest : List Step} {step : Step} (numbered : Numbered steps)
    (split : steps = done ++ step :: rest) : step.id.raw.toNat = done.length :=
  -- The step stands right after the ones before it.
  numbered done.length step (by simp [split])

/-- No step before a numbered step has its id. -/
theorem Numbered.ne_before {steps done rest : List Step} {step : Step} (numbered : Numbered steps)
    (split : steps = done ++ step :: rest) : ∀ other ∈ done, other.id ≠ step.id := by
  intro other member same
  obtain ⟨before, between, placed⟩ := List.append_of_mem member
  -- The earlier step has fewer steps before it, and so another id.
  have earlier : steps = before ++ other :: (between ++ step :: rest) := by simp [split, placed]
  have early := numbered.id_eq earlier
  have late := numbered.id_eq split
  rw [same] at early
  simp only [placed, List.length_append, List.length_cons] at late
  omega

/-- No step after a numbered step has its id. -/
theorem Numbered.ne_after {steps done rest : List Step} {step : Step} (numbered : Numbered steps)
    (split : steps = done ++ step :: rest) : ∀ other ∈ rest, other.id ≠ step.id := by
  intro other member same
  obtain ⟨between, after, placed⟩ := List.append_of_mem member
  -- Seen from the later step, this one is among those before it.
  have later : steps = (done ++ step :: between) ++ other :: after := by simp [split, placed]
  exact numbered.ne_before later step (by simp) same.symm

/-- The ids of numbered steps grow from each step to those after it. -/
theorem Numbered.lt_after {steps done rest : List Step} {step : Step} (numbered : Numbered steps)
    (split : steps = done ++ step :: rest) : ∀ other ∈ rest, step.id.raw < other.id.raw := by
  intro other member
  obtain ⟨between, after, placed⟩ := List.append_of_mem member
  have later : steps = (done ++ step :: between) ++ other :: after := by simp [split, placed]
  have here := numbered.id_eq split
  have there := numbered.id_eq later
  simp only [List.length_append, List.length_cons] at there
  rw [UInt32.lt_iff_toNat_lt]
  omega

/-- The ids of the steps before a numbered step are less than its own. -/
theorem Numbered.lt_before {steps done rest : List Step} {step : Step} (numbered : Numbered steps)
    (split : steps = done ++ step :: rest) : ∀ other ∈ done, other.id.raw < step.id.raw := by
  intro other member
  obtain ⟨before, between, placed⟩ := List.append_of_mem member
  -- Seen from the earlier step, this one is among those after it.
  have earlier : steps = before ++ other :: (between ++ step :: rest) := by simp [split, placed]
  exact numbered.lt_after earlier step (by simp)

/-- Numbered steps have distinct ids. -/
theorem Numbered.nodup_ids {steps : List Step} (numbered : Numbered steps) :
    (steps.map Step.id).Nodup := by
  rw [List.Nodup, List.pairwise_iff_getElem]
  intro first second bound inside before same
  simp only [List.length_map, List.getElem_map] at bound inside same
  -- Each of the two ids tells its own position.
  have early := numbered first _ (List.getElem?_eq_getElem bound)
  have late := numbered second _ (List.getElem?_eq_getElem inside)
  rw [same] at early
  omega

/-- A numbered step is found by its id. -/
theorem Numbered.step?_eq {plan : Plan} (numbered : Numbered plan.steps) {done rest : List Step}
    {step : Step} (split : plan.steps = done ++ step :: rest) :
    plan.step? step.id = some step := by
  have located : plan.steps[done.length]? = some step := by simp [split]
  simp [step?, numbered.id_eq split, located]

/-- The edges that were made for a step leave it, and lead to where it goes on or out. -/
theorem of_mem_edgesFrom {step : Step} {next : Goal} {edge : Edge}
    (member : edge ∈ edgesFrom step next) :
    edge.start = step.id ∧ (edge.goal = .exit ∨ edge.goal = next) := by
  unfold edgesFrom at member
  split at member
  · -- Of a guarded pair, one edge leads on and the other leads out.
    simp only [List.mem_cons, List.not_mem_nil, or_false] at member
    rcases member with rfl | rfl
    · exact ⟨rfl, .inr rfl⟩
    · exact ⟨rfl, .inl rfl⟩
  · rw [List.mem_singleton.mp member]
    exact ⟨rfl, .inr rfl⟩

/-- Every edge of a chain leaves one of its steps. -/
theorem start_of_mem_chainEdges {steps : List Step} {edge : Edge}
    (member : edge ∈ chainEdges steps) : ∃ step ∈ steps, edge.start = step.id := by
  induction steps with
  | nil => simp [chainEdges] at member
  | cons step rest ih =>
    rw [chainEdges, List.mem_append] at member
    rcases member with own | other
    · exact ⟨step, by simp, (of_mem_edgesFrom own).1⟩
    · obtain ⟨later, placed, start⟩ := ih other
      exact ⟨later, by simp [placed], start⟩

/-- No edge of a chain leaves a step that is not in it. -/
theorem filter_chainEdges_eq_nil {steps : List Step} {id : StepId}
    (absent : ∀ step ∈ steps, step.id ≠ id) :
    (chainEdges steps).filter (fun edge => edge.start == id) = [] := by
  rw [List.filter_eq_nil_iff]
  intro edge member leaves
  obtain ⟨step, placed, start⟩ := start_of_mem_chainEdges member
  exact absent step placed (start ▸ eq_of_beq leaves)

/-- The edges that were made for a step all leave it. -/
theorem filter_edgesFrom (step : Step) (next : Goal) :
    (edgesFrom step next).filter (fun edge => edge.start == step.id) = edgesFrom step next := by
  unfold edgesFrom
  split <;> simp

/-- No edge that was made for another step leaves this one. -/
theorem filter_edgesFrom_ne {step : Step} {id : StepId} (other : step.id ≠ id) (next : Goal) :
    (edgesFrom step next).filter (fun edge => edge.start == id) = [] := by
  unfold edgesFrom
  split <;> simp [other]

/-- The edges that leave a step of a chain are just those made for it. -/
theorem IsChain.successors_eq {plan : Plan} (chain : plan.IsChain) {done rest : List Step}
    {step : Step} (split : plan.steps = done ++ step :: rest) :
    plan.successors step.id = edgesFrom step (goalOf rest) := by
  have before := chain.numbered.ne_before split
  have after := chain.numbered.ne_after split
  rw [successors, chain.control, split]
  clear split
  -- Edges of earlier steps drop out one step at a time.
  induction done with
  | nil =>
    simp [chainEdges, List.filter_append, filter_edgesFrom, filter_chainEdges_eq_nil after]
  | cons first done ih =>
    have head : first.id ≠ step.id := before first (by simp)
    have tail := ih fun other member => before other (by simp [member])
    simp [chainEdges, List.filter_append, filter_edgesFrom_ne head, tail]

/-- Every step a chain leads to comes later and is one of its steps. -/
theorem IsChain.goal_forward {plan : Plan} (chain : plan.IsChain) {done rest : List Step}
    {step : Step} (split : plan.steps = done ++ step :: rest) {id : StepId}
    (leads : goalOf rest = .step id) :
    step.id.raw < id.raw ∧ (plan.step? id).isSome := by
  cases rest with
  | nil => simp [goalOf] at leads
  | cons next rest =>
    simp only [goalOf, Goal.step.injEq] at leads
    subst leads
    -- The next step has one more step before it, and so a greater id.
    have onward : plan.steps = (done ++ [step]) ++ next :: rest := by simp [split]
    have here := chain.numbered.id_eq split
    have there := chain.numbered.id_eq onward
    simp only [List.length_append, List.length_singleton] at there
    refine ⟨UInt32.lt_iff_toNat_lt.mpr (by omega), ?_⟩
    simp [chain.numbered.step?_eq onward]

end CallChain.Plan
