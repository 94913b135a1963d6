import CallChain.Proofs.Plan.Guarded
import CallChain.Run.Chain

/-! Machines: what they keep of the products of steps, and how they go from step to step. -/

namespace CallChain.Machine

variable {α : Type}

/-- The product of a step is what it has produced last. -/
@[simp] theorem product?_produce (machine : Machine α) (step : StepId) (output : Output)
    (product : Product) :
    (machine.produce step output product).product? step output = some product := by
  simp [product?, produce]

/-- Producing something leaves the products on other outputs alone. -/
theorem product?_produce_ne (machine : Machine α) (step other : StepId) {output wanted : Output}
    (product : Product) (different : output ≠ wanted) :
    (machine.produce step output product).product? other wanted =
      machine.product? other wanted := by
  simp [product?, produce, different]

/-- An entry in the trace is no product. -/
@[simp] theorem product?_record (machine : Machine α) (entry : TraceEntry) (step : StepId)
    (output : Output) :
    (machine.record entry).product? step output = machine.product? step output :=
  rfl

section

variable [Bindable α]

/-- Goes on to where an edge leads, in at most so many turns. -/
def advance (machine : Machine α) (setting : RunSetting) (turns : Nat) :
    Goal → Machine α × Except RunFault Unit
  | .exit => (machine, .ok ())
  | .step id => follow setting turns machine id

variable {setting : RunSetting} {step : Step}

/-- A step that is carried out is followed by what its edge leads to. -/
theorem follow_ok (found : setting.plan.step? step.id = some step)
    {machine executed moved : Machine α} (done : machine.execute setting step = .ok executed)
    {goal : Goal} (led : executed.next setting step.id = .ok (moved, goal)) (turns : Nat) :
    follow setting (turns + 1) machine step.id = moved.advance setting turns goal := by
  cases goal <;> simp [follow, found, done, led, advance]

/-- A step that cannot be carried out ends the run where it is. -/
theorem follow_error (found : setting.plan.step? step.id = some step) {machine : Machine α}
    {fault : RunFault} (failed : machine.execute setting step = .error fault) (turns : Nat) :
    follow setting (turns + 1) machine step.id = (machine, .error fault) := by
  simp [follow, found, failed]

end

variable {setting : RunSetting}

/-- A step without a guard is left for the next one, and nothing is recorded. -/
theorem next_unguarded {id : StepId} {goal : Goal}
    (edges : setting.plan.successors id = Plan.guardedEdges false id goal) (machine : Machine α) :
    machine.next setting id = .ok (machine, goal) := by
  simp [next, edges, Plan.guardedEdges, allows]

/-- A guarded step whose handle is valid is left for the next one. -/
theorem next_of_valid {id : StepId} {goal : Goal}
    (edges : setting.plan.successors id = Plan.guardedEdges true id goal) {machine : Machine α}
    (valid : machine.handleValid? id = some true) :
    machine.next setting id = .ok (machine, goal) := by
  simp [next, edges, Plan.guardedEdges, valid, allows]

/-- A guarded step whose handle is invalid ends the chain, and the properties left out are
recorded. -/
theorem next_of_invalid {id : StepId} {goal : Goal}
    (edges : setting.plan.successors id = Plan.guardedEdges true id goal) {machine : Machine α}
    (invalid : machine.handleValid? id = some false) :
    machine.next setting id =
      .ok (machine.record (.shortCircuited id (propertiesAfter setting.plan id)), .exit) := by
  simp [next, edges, Plan.guardedEdges, invalid, allows]

/-- The validity of a handle that a step has produced. -/
theorem handleValid?_eq_some_iff {machine : Machine α} {id : StepId} {valid : Bool} :
    machine.handleValid? id = some valid ↔
      ∃ handle, machine.product? id .handle = some (.handle handle) ∧ handle.isValid = valid := by
  unfold handleValid?
  split
  · next handle found => simp [found]
  · next other =>
    simp only [reduceCtorEq, false_iff]
    rintro ⟨handle, found, _⟩
    exact other handle found

variable {step : Step} {done rest : List Step}

/-- A step of a chain that asks for no item leads to the next step, and nothing is recorded. -/
theorem next_plain (chain : setting.plan.IsChain)
    (split : setting.plan.steps = done ++ step :: rest) (plain : step.id ≠ Plan.createId)
    (machine : Machine α) :
    machine.next setting step.id = .ok (machine, Plan.goalOf rest) := by
  refine next_unguarded ?_ machine
  rw [chain.successors_eq split, Plan.edgesFrom, if_neg plain]
  rfl

/-- The step that asks for the item is left over one of two edges. -/
theorem successors_create (chain : setting.plan.IsChain)
    (split : setting.plan.steps = done ++ step :: rest) (asks : step.id = Plan.createId) :
    setting.plan.successors step.id = Plan.guardedEdges true step.id (Plan.goalOf rest) := by
  rw [chain.successors_eq split, Plan.edgesFrom, if_pos asks]
  rfl

/-- After the item was given, the chain goes on to the next step. -/
theorem next_valid (chain : setting.plan.IsChain)
    (split : setting.plan.steps = done ++ step :: rest) (asks : step.id = Plan.createId)
    {machine : Machine α} {object : Handle}
    (given : machine.product? step.id .handle = some (.handle object))
    (valid : object.isValid = true) :
    machine.next setting step.id = .ok (machine, Plan.goalOf rest) :=
  next_of_valid (successors_create chain split asks)
    (handleValid?_eq_some_iff.mpr ⟨object, given, valid⟩)

/-- After an invalid handle, the chain ends, and the properties left out are recorded. -/
theorem next_invalid (chain : setting.plan.IsChain)
    (split : setting.plan.steps = done ++ step :: rest) (asks : step.id = Plan.createId)
    {machine : Machine α} {object : Handle}
    (given : machine.product? step.id .handle = some (.handle object))
    (invalid : object.isValid = false) :
    machine.next setting step.id = .ok (machine.record (.shortCircuited step.id
      (propertiesAfter setting.plan step.id)), .exit) :=
  next_of_invalid (successors_create chain split asks)
    (handleValid?_eq_some_iff.mpr ⟨object, given, invalid⟩)

/-- The data of an input that is fed is that of its feed, converted. -/
theorem typed_eq {input : Input} {feed : Feed} (fed : step.feed? input = some feed)
    (machine : Machine α) (expected : ValueType) :
    machine.typed setting step input expected = (do
      let value ← machine.resolve setting step.id feed
      match value.carrier? expected with
      | some data => return data
      | none => throw (.inputMismatch step.id input expected value)) := by
  simp only [typed, Machine.feed, fed]
  rfl

end CallChain.Machine
