import CallChain.Proofs.Plan.Chain
import CallChain.Proofs.Sequence
import Mathlib.Data.List.Induction
import Mathlib.Data.List.Nodup

/-! What the structural check guarantees of control: every step leads to the next one, and a single
call for an item also leads out of the chain, when the handle it gives is invalid. -/

namespace CallChain

namespace Plan

/-- A plan passes when it has steps, and these, its redirects, its control and its output pass. -/
theorem verify_eq_ok_iff {plan : Plan} :
    plan.verify = .ok () ↔ plan.steps ≠ [] ∧ plan.checkSteps 0 plan.steps = .ok () ∧
      plan.checkRedirects [] plan.redirects = .ok () ∧ plan.checkControl = .ok () ∧
      plan.checkOutput = .ok () := by
  unfold verify
  cases filled : plan.steps with
  | nil => simp [throw, throwThe, MonadExceptOf.throw, Bind.bind, Except.bind]
  | cons step rest =>
    -- The stages of the check have no result that a later one could depend on.
    simp only [List.isEmpty_cons, Bool.false_eq_true, if_false, bind_eq_ok_iff, ne_eq,
      reduceCtorEq, not_false_eq_true, true_and]
    constructor
    · rintro ⟨_, steps, _, redirects, _, control, output⟩
      exact ⟨steps, redirects, control, output⟩
    · rintro ⟨steps, redirects, control, output⟩
      exact ⟨(), steps, (), redirects, (), control, output⟩

/-- Control passes when one of its steps branches, and the valid path meets every step. -/
theorem checkControl_eq_ok_iff {plan : Plan} :
    plan.checkControl = .ok () ↔ ∃ branches, plan.steps.mapM plan.checkBranch = .ok branches ∧
      branches.count true = 1 ∧
      plan.reachFrom (plan.steps.length + 1) plan.entry? = plan.steps.length := by
  unfold checkControl
  rw [bind_eq_ok_iff]
  refine exists_congr fun branches => and_congr_right fun _ => ?_
  by_cases once : branches.count true = 1
  · by_cases more : plan.steps.length < plan.reachFrom (plan.steps.length + 1) plan.entry?
    · have other := Nat.ne_of_gt more
      simp [once, more, other, throw, throwThe, MonadExceptOf.throw, Bind.bind, Except.bind]
    · by_cases all : plan.reachFrom (plan.steps.length + 1) plan.entry? = plan.steps.length
      · simp [once, all, Pure.pure, Except.pure]
      · simp [once, more, all, throw, throwThe, MonadExceptOf.throw]
  · simp [once, throw, throwThe, MonadExceptOf.throw, Bind.bind, Except.bind]

/-- A step that passes stands at the position its id names. -/
theorem id_of_checkStep {plan : Plan} {position : Nat} {step : Step}
    (passed : plan.checkStep position step = .ok ()) : step.id.raw.toNat = position := by
  unfold checkStep at passed
  split at passed
  · cases passed
  · next placed => exact not_not.mp placed

/-- Steps that pass are numbered from the position on that the check has started with. -/
theorem ids_of_checkSteps {plan : Plan} {position : Nat} {steps : List Step}
    (passed : plan.checkSteps position steps = .ok ()) {offset : Nat} {step : Step}
    (placed : steps[offset]? = some step) : step.id.raw.toNat = position + offset := by
  induction steps generalizing position offset with
  | nil => simp at placed
  | cons first rest ih =>
    obtain ⟨_, head, tail⟩ := bind_eq_ok_iff.mp passed
    cases offset with
    | zero =>
      obtain rfl : first = step := by simpa using placed
      exact id_of_checkStep head
    | succ offset =>
      -- Seen from the rest, the step stands one position further in front.
      have later := ih tail (by simpa using placed)
      omega

/-- A goal of a step is the exit of the chain or a later step of the plan. -/
def GoesForward (plan : Plan) (step : Step) (goal : Goal) : Prop :=
  ∀ id, goal = .step id → step.id.raw < id.raw ∧ (plan.step? id).isSome

/-- The goal of an edge that passes is forward. -/
theorem forward_of_checkEdge {plan : Plan} {step : Step} {edge : Edge}
    (passed : plan.checkEdge step edge = .ok ()) : plan.GoesForward step edge.goal := by
  intro id leads
  unfold checkEdge at passed
  simp only [leads] at passed
  split at passed
  · cases passed
  · next kept =>
    simp only [Bool.or_eq_true, decide_eq_true_eq, not_or, Option.isNone_iff_eq_none] at kept
    exact ⟨UInt32.not_le.mp kept.1, Option.isSome_iff_ne_none.mpr kept.2⟩

/-- The edges of a step of a guarded chain: to the next step, and out of the chain as well when the
handle of the guarded step is invalid. -/
def guardedEdges (guarded : Bool) (start : StepId) (next : Goal) : List Edge :=
  if guarded then [⟨start, next, .ifValid⟩, ⟨start, .exit, .ifInvalid⟩]
  else [⟨start, next, .always⟩]

/-- A step whose edges pass has those of a guarded chain, and they go forward. -/
theorem edges_of_checkBranch {plan : Plan} {step : Step} {guarded : Bool}
    (passed : plan.checkBranch step = .ok guarded) :
    (guarded = true → step.call = .createOrShow) ∧
      ∃ goal, plan.successors step.id = guardedEdges guarded step.id goal ∧
        plan.GoesForward step goal := by
  obtain ⟨_, checked, shaped⟩ := bind_eq_ok_iff.mp passed
  have forward : ∀ edge ∈ plan.successors step.id, plan.GoesForward step edge.goal :=
    fun edge member => forward_of_checkEdge (of_forM_eq_ok checked edge member)
  have start : ∀ edge ∈ plan.successors step.id, edge.start = step.id :=
    fun edge member => eq_of_beq (List.mem_filter.mp member).2
  -- Only a single edge and a guarded pair of edges are let through.
  split at shaped
  · next edge only =>
    have own := start edge (by simp [only])
    split at shaped
    · next always =>
      obtain rfl := pure_eq_ok_iff.mp shaped
      have shape : edge = ⟨step.id, edge.goal, .always⟩ := by rw [← own, ← always]
      refine ⟨by simp, edge.goal, ?_, forward edge (by simp [only])⟩
      rw [only, shape]
      rfl
    · cases shaped
  · next valid invalid both =>
    have own := start valid (by simp [both])
    have other := start invalid (by simp [both])
    split at shaped
    · next guards =>
      simp only [Bool.and_eq_true, decide_eq_true_eq] at guards
      split at shaped
      · cases shaped
      · next asks =>
        split at shaped
        · cases shaped
        · next leaves =>
          obtain rfl := pure_eq_ok_iff.mp shaped
          have onward : valid = ⟨step.id, valid.goal, .ifValid⟩ := by rw [← own, ← guards.1]
          have out : invalid = ⟨step.id, .exit, .ifInvalid⟩ := by
            rw [← other, ← guards.2, ← not_not.mp leaves]
          refine ⟨fun _ => not_not.mp asks, valid.goal, ?_, forward valid (by simp [both])⟩
          rw [both, onward, out]
          rfl
    · cases shaped
  · cases shaped

/-- A step that is found by its id is one of the plan, at the position that the id names. -/
theorem Numbered.split_of_step? {plan : Plan} (numbered : Numbered plan.steps) {id : StepId}
    {step : Step} (found : plan.step? id = some step) :
    step.id = id ∧ ∃ done rest, plan.steps = done ++ step :: rest ∧ done.length = id.raw.toNat := by
  obtain ⟨placed, own⟩ := Option.filter_eq_some_iff.mp found
  have same : step.id = id := eq_of_beq own
  obtain ⟨done, rest, split⟩ := List.append_of_mem (List.mem_of_getElem? placed)
  exact ⟨same, done, rest, split, by rw [← numbered.id_eq split, same]⟩

/-- The valid path leaves a step over the first of its edges. -/
theorem nextWhenValid?_eq_some_iff {plan : Plan} {step : Step} {guarded : Bool} {goal : Goal}
    (edges : plan.successors step.id = guardedEdges guarded step.id goal) {id : StepId} :
    plan.nextWhenValid? step.id = some id ↔ goal = .step id := by
  cases guarded <;> cases goal <;> simp [nextWhenValid?, edges, guardedEdges]

section Reach

variable {plan : Plan} {done rest : List Step} {step : Step}

/-- The valid path of a plan never leads back. -/
def ValidPathForward (plan : Plan) : Prop :=
  ∀ step ∈ plan.steps, ∀ id, plan.nextWhenValid? step.id = some id →
    step.id.raw < id.raw ∧ (plan.step? id).isSome

/-- Where the valid path goes on to is a step with fewer steps after it. -/
theorem exists_split_of_next (numbered : Numbered plan.steps) (forward : plan.ValidPathForward)
    (split : plan.steps = done ++ step :: rest) {id : StepId}
    (next : plan.nextWhenValid? step.id = some id) :
    ∃ before later after, plan.steps = before ++ later :: after ∧ later.id = id ∧
      done.length < before.length := by
  obtain ⟨onward, present⟩ := forward step (by simp [split]) id next
  obtain ⟨later, found⟩ := Option.isSome_iff_exists.mp present
  obtain ⟨own, before, after, placed, position⟩ := numbered.split_of_step? found
  have here := numbered.id_eq split
  rw [UInt32.lt_iff_toNat_lt] at onward
  exact ⟨before, later, after, placed, own, by omega⟩

/-- A path that has ended meets no more steps. -/
@[simp] theorem reachFrom_none (plan : Plan) (fuel : Nat) : plan.reachFrom fuel none = 0 := by
  cases fuel <;> rfl

/-- A valid path that never leads back meets each of the remaining steps at most once. -/
theorem reachFrom_le (numbered : Numbered plan.steps) (forward : plan.ValidPathForward)
    (split : plan.steps = done ++ step :: rest) (fuel : Nat) :
    plan.reachFrom fuel (some step.id) ≤ rest.length + 1 := by
  -- One turn leads to a step with fewer steps after it.
  induction fuel generalizing done step rest with
  | zero => simp [reachFrom]
  | succ fuel ih =>
    cases next : plan.nextWhenValid? step.id with
    | none => simp [reachFrom, next]
    | some id =>
      obtain ⟨before, later, after, placed, rfl, further⟩ :=
        exists_split_of_next numbered forward split next
      have tail := ih placed
      have total := congrArg List.length (split.symm.trans placed)
      simp only [List.length_append, List.length_cons] at total
      simp only [reachFrom, next]
      omega

/-- A valid path that meets all of the remaining steps goes on with the first of them, from where
it meets all the others. -/
theorem next_of_reachFrom (numbered : Numbered plan.steps) (forward : plan.ValidPathForward)
    (split : plan.steps = done ++ step :: rest) {fuel : Nat}
    (full : plan.reachFrom fuel (some step.id) = rest.length + 1) :
    plan.nextWhenValid? step.id = rest.head?.map Step.id ∧
      ∃ less, plan.reachFrom less (rest.head?.map Step.id) = rest.length := by
  obtain ⟨fuel, rfl⟩ : ∃ less, fuel = less + 1 := by
    cases fuel with
    | zero => simp [reachFrom] at full
    | succ less => exact ⟨less, rfl⟩
  cases next : plan.nextWhenValid? step.id with
  | none =>
    -- The path ends here, so there is no step left that it could miss.
    have last : rest = [] := by simpa [reachFrom, next, eq_comm] using full
    subst last
    exact ⟨rfl, 0, rfl⟩
  | some id =>
    obtain ⟨before, later, after, placed, rfl, further⟩ :=
      exists_split_of_next numbered forward split next
    have bound := reachFrom_le numbered forward placed fuel
    have total := congrArg List.length (split.symm.trans placed)
    simp only [List.length_append, List.length_cons] at total
    simp only [reachFrom, next] at full
    -- Were a step passed over, not enough of them would be left to meet.
    have adjacent : before.length = done.length + 1 := by omega
    cases rest with
    | nil => simp at total; omega
    | cons first rest =>
      have same : (done ++ [step]) ++ first :: rest = before ++ later :: after := by
        rw [← placed, split, List.append_assoc, List.singleton_append]
      obtain ⟨_, tail⟩ := List.append_inj same (by simp [adjacent])
      obtain ⟨rfl, _⟩ := List.cons.inj tail
      exact ⟨rfl, fuel, by simp only [List.head?_cons, Option.map_some]; omega⟩

/-- A valid path that meets every step of a plan goes from each step to the next. -/
theorem next_eq_of_reachFrom (numbered : Numbered plan.steps) (forward : plan.ValidPathForward)
    {fuel : Nat} (full : plan.reachFrom fuel plan.entry? = plan.steps.length)
    (split : plan.steps = done ++ step :: rest) :
    plan.nextWhenValid? step.id = rest.head?.map Step.id := by
  -- What is met from a step on is carried from one step to the one after it.
  have met : ∃ less, plan.reachFrom less (some step.id) = rest.length + 1 := by
    induction done using List.reverseRecOn generalizing step rest with
    | nil =>
      have entry : plan.entry? = some step.id := by simp [ entry?, split]
      exact ⟨fuel, by rw [← entry, full, split]; simp⟩
    | append_singleton done last ih =>
      have before : plan.steps = done ++ last :: step :: rest := by simp [split]
      obtain ⟨less, reached⟩ := ih before
      obtain ⟨_, tail⟩ := next_of_reachFrom numbered forward before reached
      exact tail
  obtain ⟨less, reached⟩ := met
  exact (next_of_reachFrom numbered forward split reached).1

end Reach

/-- A plan whose numbered steps lead from each to the next, and out of the chain from one call for
an item whose handle is invalid. -/
structure IsGuarded (plan : Plan) (guard : Step) : Prop where
  numbered : Numbered plan.steps
  member : guard ∈ plan.steps
  asks : guard.call = .createOrShow
  edges : ∀ {done rest : List Step} {step : Step}, plan.steps = done ++ step :: rest →
    plan.successors step.id = guardedEdges (step.id == guard.id) step.id (goalOf rest)

/-- The guarded call is the only step with its id. -/
theorem IsGuarded.eq_of_id {plan : Plan} {guard step : Step} (guarded : plan.IsGuarded guard)
    (member : step ∈ plan.steps) (same : step.id = guard.id) : step = guard :=
  List.inj_on_of_nodup_map guarded.numbered.nodup_ids member guarded.member same

/-- Whether a step is left over edges that ask for the handle it gives. -/
def Branches (plan : Plan) (step : Step) : Prop :=
  ∃ edge ∈ plan.successors step.id, edge.guard ≠ .always

/-- The only step of a guarded chain that branches is the guarded call. -/
theorem IsGuarded.branches_iff {plan : Plan} {guard step : Step} (guarded : plan.IsGuarded guard)
    (member : step ∈ plan.steps) : plan.Branches step ↔ step = guard := by
  obtain ⟨done, rest, split⟩ := List.append_of_mem member
  have edges := guarded.edges split
  constructor
  · rintro ⟨edge, leaves, asks⟩
    by_contra different
    have other : step.id ≠ guard.id := fun same => different (guarded.eq_of_id member same)
    rw [edges, beq_eq_false_iff_ne.mpr other] at leaves
    rw [List.mem_singleton.mp leaves] at asks
    exact asks rfl
  · rintro rfl
    rw [beq_self_eq_true] at edges
    exact ⟨⟨step.id, goalOf rest, .ifValid⟩, by simp [edges, guardedEdges], by simp⟩

/-- Where the valid path goes on to the next step, so does the edge of a step. -/
theorem goal_eq_goalOf {plan : Plan} {step : Step} {guarded : Bool} {goal : Goal}
    (edges : plan.successors step.id = guardedEdges guarded step.id goal) {rest : List Step}
    (next : plan.nextWhenValid? step.id = rest.head?.map Step.id) : goal = goalOf rest := by
  cases rest with
  | nil =>
    -- An edge to a step would be on the valid path.
    cases goal with
    | exit => rfl
    | step id =>
      have onward := (nextWhenValid?_eq_some_iff edges).mpr rfl
      simp [next] at onward
  | cons first rest => exact (nextWhenValid?_eq_some_iff edges).mp next

/-- The control of numbered steps passes only if they form a guarded chain. -/
theorem exists_guard_of_checkControl {plan : Plan} (numbered : Numbered plan.steps)
    (passed : plan.checkControl = .ok ()) : ∃ guard, plan.IsGuarded guard := by
  obtain ⟨branches, mapped, once, full⟩ := checkControl_eq_ok_iff.mp passed
  have branched : ∀ step ∈ plan.steps, ∃ guarded, plan.checkBranch step = .ok guarded :=
    fun step member => (exists_result_of_mem mapped member).imp fun _ found => found.2
  have forward : plan.ValidPathForward := by
    intro step member id next
    obtain ⟨guarded, shaped⟩ := branched step member
    obtain ⟨_, goal, edges, onward⟩ := edges_of_checkBranch shaped
    exact onward id ((nextWhenValid?_eq_some_iff edges).mp next)
  obtain ⟨before, guard, after, split, chosen, others⟩ := exists_true_of_count_eq_one mapped once
  refine ⟨guard, numbered, by simp [split], (edges_of_checkBranch chosen).1 rfl, ?_⟩
  intro done rest step placed
  -- A step with the id of the guard is the guard, and every other one does not branch.
  have shaped : plan.checkBranch step = .ok (step.id == guard.id) := by
    have member : step ∈ before ++ guard :: after := by rw [← split, placed]; simp
    rcases List.mem_append.mp member with early | late
    · have other := beq_eq_false_iff_ne.mpr (numbered.ne_before split step early)
      rw [others step (by simp [early]), other]
    · rcases List.mem_cons.mp late with rfl | later
      · rw [chosen, beq_self_eq_true]
      · have other := beq_eq_false_iff_ne.mpr (numbered.ne_after split step later)
        rw [others step (by simp [later]), other]
  obtain ⟨_, goal, edges, _⟩ := edges_of_checkBranch shaped
  rw [edges, goal_eq_goalOf edges (next_eq_of_reachFrom numbered forward full placed)]

/-- A plan that passes the structural check is a guarded chain. -/
theorem exists_guard_of_verify {plan : Plan} (verified : plan.verify = .ok ()) :
    ∃ guard, plan.IsGuarded guard := by
  obtain ⟨_, steps, _, control, _⟩ := verify_eq_ok_iff.mp verified
  have numbered : Numbered plan.steps := fun position step placed => by
    simpa using ids_of_checkSteps steps placed
  exact exists_guard_of_checkControl numbered control

end Plan

end CallChain
