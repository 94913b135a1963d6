import CallChain.Proofs.Run.Execution

/-! Forward runs: a plan that passes the structural check is run one step after the other, until a
step fails, its guarded call gives an invalid handle, or no step is left. -/

namespace CallChain

namespace Machine

variable {α : Type} {machine executed : Machine α} {step : Step}

/-- Carrying a step out leaves the products of the other steps alone. -/
theorem Carried.product?_ne (carried : machine.Carried executed step) {id : StepId}
    (other : id ≠ step.id) (output : Output) :
    executed.product? id output = machine.product? id output := by
  obtain ⟨product, gives, _⟩ := carried.produced
  -- What was produced is stored under the id of the step, so the look-up passes it by.
  simp [product?, gives, other.symm]

/-- Carrying a step out leaves it open whether the handles of the other steps are valid. -/
theorem Carried.handleValid?_ne (carried : machine.Carried executed step) {id : StepId}
    (other : id ≠ step.id) : executed.handleValid? id = machine.handleValid? id := by
  rw [handleValid?, carried.product?_ne other, handleValid?]

/-- A call for an item that is carried out gives a handle. -/
theorem Carried.exists_handle (carried : machine.Carried executed step)
    (asks : step.call = .createOrShow) :
    ∃ handle, executed.product? step.id .handle = some (.handle handle) := by
  obtain ⟨product, gives, given⟩ := carried.produced
  obtain ⟨handle, rfl⟩ := given asks
  exact ⟨handle, by simp [product?, gives, asks, Call.output]⟩

/-- What a machine has been through that has carried out some steps, one after the other, and has
left none of them for the exit of the chain. -/
structure Through (machine : Machine α) (done : List Step) : Prop where
  steps : machine.trace.filterMap TraceEntry.step? = done.map Step.id
  properties : machine.trace.filterMap TraceEntry.property? =
    done.filterMap fun step => step.call.property?
  skipped : machine.trace.flatMap TraceEntry.skipped = []
  handles : ∀ step ∈ done, step.call = .createOrShow →
    ∃ handle, machine.product? step.id .handle = some (.handle handle)
  silent : ∀ id, (∀ step ∈ done, step.id ≠ id) → ∀ output, machine.product? id output = none

/-- A machine that is to start has been through nothing. -/
theorem through_start (manager : Manager α) : (start manager).Through [] where
  steps := rfl
  properties := rfl
  skipped := rfl
  handles := by simp
  silent := fun _ _ _ => rfl

/-- A step that is carried out is one more that the machine has been through. -/
theorem Through.carried {done : List Step} (through : machine.Through done)
    (carried : machine.Carried executed step) (fresh : ∀ other ∈ done, other.id ≠ step.id) :
    executed.Through (done ++ [step]) := by
  obtain ⟨entry, recorded, names, property, skipped⟩ := carried.recorded
  refine ⟨?_, ?_, ?_, ?_, ?_⟩
  · simp [recorded, through.steps, names]
  · simp [recorded, through.properties, List.filterMap_cons, property]
  · simp [recorded, through.skipped, skipped]
  · intro other member asks
    -- The products of the earlier steps are still there.
    rcases List.mem_append.mp member with early | late
    · obtain ⟨handle, given⟩ := through.handles other early asks
      exact ⟨handle, by rw [carried.product?_ne (fresh other early), given]⟩
    · obtain rfl := List.mem_singleton.mp late
      exact carried.exists_handle asks
  · intro id absent output
    -- Nothing was produced under this id, neither by the step nor by one before it.
    have apart : id ≠ step.id := (absent step (by simp)).symm
    rw [carried.product?_ne apart]
    exact through.silent id (fun other member => absent other (by simp [member])) output

variable {setting : RunSetting} {guard : Step}

/-- A step that was carried out is left for the next one, unless it is the guarded call and has given
an invalid handle. -/
theorem next_of_through (guarded : setting.plan.IsGuarded guard) {done rest : List Step}
    (split : setting.plan.steps = done ++ step :: rest)
    (through : machine.Through (done ++ [step]))
    (valid : guard ∈ done → machine.handleValid? guard.id = some true) :
    (machine.next setting step.id = .ok (machine, Plan.goalOf rest) ∧
      (guard ∈ done ++ [step] → machine.handleValid? guard.id = some true)) ∨
    (step = guard ∧ machine.handleValid? guard.id = some false ∧
      machine.next setting step.id = .ok
        (machine.record (.shortCircuited step.id (propertiesAfter setting.plan step.id)),
          .exit)) := by
  have edges := guarded.edges split
  by_cases same : step = guard
  · -- The guarded call has just given a handle, and its edges go by that.
    subst same
    rw [beq_self_eq_true] at edges
    obtain ⟨handle, given⟩ := through.handles step (by simp) guarded.asks
    cases known : handle.isValid with
    | true =>
      have held := handleValid?_eq_some_iff.mpr ⟨handle, given, known⟩
      exact .inl ⟨next_of_valid edges held, fun _ => held⟩
    | false =>
      have held := handleValid?_eq_some_iff.mpr ⟨handle, given, known⟩
      exact .inr ⟨rfl, held, next_of_invalid edges held⟩
  · -- Any other step has a single edge, and what is known of the guarded call is from before.
    have other : step.id ≠ guard.id := fun equal =>
      same (guarded.eq_of_id (by simp [split]) equal)
    rw [beq_eq_false_iff_ne.mpr other] at edges
    refine .inl ⟨next_unguarded edges machine, fun member => ?_⟩
    rcases List.mem_append.mp member with early | late
    · exact valid early
    · exact absurd (List.mem_singleton.mp late).symm same

variable [Bindable α]

/-- The three ways in which the loop over a guarded chain ends, with the steps it has turned to: it
has carried them all out, it has left the chain after an invalid handle, or the last of them has
failed. -/
inductive Ends (setting : RunSetting) (guard : Step) :
    Machine α × Except RunFault Unit → List Step → Prop where
  | completed {machine : Machine α} (through : machine.Through setting.plan.steps)
      (valid : machine.handleValid? guard.id = some true) :
      Ends setting guard (machine, .ok ()) setting.plan.steps
  | left {machine : Machine α} {done rest : List Step}
      (split : setting.plan.steps = done ++ guard :: rest)
      (through : machine.Through (done ++ [guard]))
      (invalid : machine.handleValid? guard.id = some false) :
      Ends setting guard
        (machine.record (.shortCircuited guard.id (propertiesAfter setting.plan guard.id)), .ok ())
        (done ++ [guard])
  | failed {machine : Machine α} {done rest : List Step} {step : Step} {fault : RunFault}
      (split : setting.plan.steps = done ++ step :: rest) (through : machine.Through done)
      (valid : guard ∈ done → machine.handleValid? guard.id = some true)
      (fails : machine.execute setting step = .error fault) :
      Ends setting guard (machine, .error fault) (done ++ [step])

/-- A loop over a guarded chain that goes on from where it has got to ends in one of the three
ways. -/
theorem exists_ends_of_advance (guarded : setting.plan.IsGuarded guard) {done rest : List Step}
    (split : setting.plan.steps = done ++ rest) {turns : Nat} (enough : rest.length ≤ turns)
    (through : machine.Through done)
    (valid : guard ∈ done → machine.handleValid? guard.id = some true) :
    ∃ visited, Ends setting guard (machine.advance setting turns (Plan.goalOf rest)) visited ∧
      done.map Step.id ++ visits setting turns machine (Plan.goalOf rest) =
        visited.map Step.id := by
  -- Each turn carries out the first of the steps that are left.
  induction rest generalizing done machine turns with
  | nil =>
    obtain rfl : setting.plan.steps = done := by simpa using split
    refine ⟨_, .completed through (valid guarded.member), ?_⟩
    simp [Plan.goalOf, visits]
  | cons step rest ih =>
    obtain ⟨turns, rfl⟩ : ∃ less, turns = less + 1 := ⟨turns - 1, by simp at enough; omega⟩
    have found := guarded.numbered.step?_eq split
    have fresh := guarded.numbered.ne_before split
    rw [Plan.goalOf, advance]
    cases outcome : machine.execute setting step with
    | error fault =>
      refine ⟨done ++ [step], ?_, by simp [visits, found, outcome]⟩
      rw [follow_error found outcome]
      exact .failed split through valid outcome
    | ok executed =>
      have carried := carried_of_execute outcome
      have further := through.carried carried fresh
      -- The step cannot have changed the handle of a guarded call that came before it.
      have kept : guard ∈ done → executed.handleValid? guard.id = some true := fun early => by
        rw [carried.handleValid?_ne (fresh guard early), valid early]
      rcases next_of_through guarded split further kept with ⟨led, stays⟩ | ⟨rfl, invalid, led⟩
      · have less : rest.length ≤ turns := by simpa using enough
        obtain ⟨visited, ends, names⟩ := ih (by simp [split]) less further stays
        refine ⟨visited, ?_, by simpa [visits, found, outcome, led] using names⟩
        rwa [follow_ok found outcome led]
      · refine ⟨done ++ [step], ?_, by simp [visits, found, outcome, led]⟩
        rw [follow_ok found outcome led]
        exact .left split further invalid

/-- The loop over a guarded chain ends in one of the three ways. -/
theorem exists_ends_of_loop (guarded : setting.plan.IsGuarded guard) (manager : Manager α) :
    ∃ visited, Ends setting guard (setting.loop manager) visited ∧
      setting.visits manager = visited.map Step.id := by
  have whole : setting.plan.steps = [] ++ setting.plan.steps := rfl
  have ended := exists_ends_of_advance guarded whole (Nat.le_refl _) (through_start manager)
    (by simp)
  -- The chain has a step to start with, namely the first one.
  cases filled : setting.plan.steps with
  | nil => exact absurd guarded.member (by simp [filled])
  | cons first rest =>
    have entry : setting.plan.entry? = some first.id := by simp [ Plan.entry?, filled]
    rw [filled] at ended
    simp only [RunSetting.loop, RunSetting.visits, entry, filled]
    simpa [Plan.goalOf, advance] using ended

end Machine

namespace RunSetting

variable {α : Type} [Bindable α] {setting : RunSetting} {manager : Manager α} {guard : Step}

/-- A run is over when its loop is, whatever has ended that. -/
theorem run_eq_finish_loop (setting : RunSetting) (manager : Manager α) :
    setting.run manager =
      (setting.loop manager).1.finish setting (setting.loop manager).2 := by
  unfold run loop
  cases setting.plan.entry? <;> rfl

/-- A run has an outcome when its loop ends well in a state that has the output. -/
theorem run_eq_ok_iff {report : RunReport} :
    (setting.run manager).result = .ok report ↔ (setting.loop manager).2 = .ok () ∧
      ∃ handle, (setting.loop manager).1.output setting.plan.output = .ok handle ∧
        ⟨handle, ⟨setting.plan.nodeId, (setting.loop manager).1.trace⟩,
          (setting.loop manager).1.unresolved⟩ = report := by
  rw [run_eq_finish_loop]
  simp only [Machine.finish, bind_eq_ok_iff, pure_eq_ok_iff]
  exact ⟨fun ⟨_, ended, given⟩ => ⟨ended, given⟩, fun ⟨ended, given⟩ => ⟨(), ended, given⟩⟩

/-- A run without an outcome has the fault of its loop, or else that of its output. -/
theorem run_eq_error_iff {fault : RunFault} :
    (setting.run manager).result = .error fault ↔ (setting.loop manager).2 = .error fault ∨
      (setting.loop manager).2 = .ok () ∧
        (setting.loop manager).1.output setting.plan.output = .error fault := by
  rw [run_eq_finish_loop]
  simp only [Machine.finish, bind_eq_error_iff, pure_ne_error, and_false, exists_false, or_false]
  exact or_congr_right ⟨fun ⟨_, ended, missing⟩ => ⟨ended, missing⟩,
    fun ⟨ended, missing⟩ => ⟨(), ended, missing⟩⟩

end RunSetting

namespace Plan

/-- A step that asks the manager of the first step for an item of a panel. -/
def askFor (id : StepId) (itemId : String) : Step :=
  ⟨id, .createOrShow, [⟨.manager, .step ⟨0⟩ .manager⟩, ⟨.path, .literal (.string "panel")⟩,
    ⟨.itemId, .literal (.string itemId)⟩, ⟨.priority, .literal (.integer 0)⟩,
    ⟨.context, .ambient⟩], none⟩

/-- A plan by hand that asks for two items: without the first one the second is never asked for,
although that is what the plan gives. -/
def twoItems : Plan where
  nodeId := "pair"
  steps :=
    [⟨⟨0⟩, .locate, [⟨.context, .ambient⟩], none⟩, askFor ⟨1⟩ "first",
      ⟨⟨2⟩, .setProperty "Title" .string,
        [⟨.target, .step ⟨1⟩ .handle⟩, ⟨.value, .literal (.string "First")⟩], none⟩,
      askFor ⟨3⟩ "second"]
  control := guardedEdges false ⟨0⟩ (.step ⟨1⟩) ++ guardedEdges true ⟨1⟩ (.step ⟨2⟩) ++
    guardedEdges false ⟨2⟩ (.step ⟨3⟩) ++ guardedEdges false ⟨3⟩ .exit
  redirects := []
  output := .step ⟨3⟩ .handle

end Plan

namespace RunSetting

end RunSetting

end CallChain
