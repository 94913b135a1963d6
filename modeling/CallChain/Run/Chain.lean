import CallChain.Run.Trace

/-! Running plans: the steps of a chain, carried out against a manager. -/

namespace CallChain

/-- The values other nodes supply; the first for a source counts. -/
structure Supply where
  values : List (Source × Value)
deriving Repr

namespace Supply

/-- No values at all. -/
def empty : Supply := ⟨[]⟩

/-- The value of an output, if there is one. -/
def get? (supply : Supply) (source : Source) : Option Value :=
  (supply.values.find? fun entry => entry.1 == source).map Prod.snd

/-- Gives an output a value, in place of an earlier one. -/
def insert (supply : Supply) (source : Source) (value : Value) : Supply :=
  ⟨(source, value) :: supply.values⟩

end Supply

/-- What makes it impossible to follow a plan. -/
inductive ChainFault where
  | noSteps (node : String)
  | loop (node : String) (step : StepId)
  | missingStep (step : StepId)
  | noEdge (step : StepId)
  | noInput (step : StepId) (input : Input)
  | managerFrom (step : StepId) (feed : Feed)
  | outputMissing (step : StepId) (output : Output)
  | outputBound (feed : Feed)
deriving DecidableEq, Repr

namespace ChainFault

/-- The fault in words. -/
def message : ChainFault → String
  | noSteps node => node
  | loop node step => s!"control flow of '{node}' loops back to {step.display}"
  | missingStep step => s!"missing step {step.display}"
  | noEdge step => s!"no control edge leaves {step.display}"
  | noInput step input => s!"{step.display} has no {input.display} input"
  | managerFrom step feed => s!"{step.display} takes its manager from {feed.display}"
  | outputMissing step output =>
    s!"node output {step.display}.{output.display} was never produced"
  | outputBound feed => s!"node output is bound to {feed.display}"

end ChainFault

/-- Why a run ends without an outcome. -/
inductive RunFault where
  | missingSupply (step : StepId) (source : Source)
  | unavailableOutput (step producer : StepId)
  | inputMismatch (step : StepId) (input : Input) (expected : ValueType) (found : Value)
  | malformed (fault : ChainFault)
deriving DecidableEq, Repr

namespace RunFault

/-- The fault in words. -/
def message : RunFault → String
  | missingSupply step source =>
    s!"Step {step.display} reads {source.display}, but no upstream value was provided"
  | unavailableOutput step producer =>
    s!"Step {step.display} reads output of step {producer.display}, which has not produced it"
  | inputMismatch step input expected found =>
    s!"Step {step.display} expected {expected.name} on its {input.display} input, "
      ++ s!"but received '{found.display}'"
  | malformed fault => s!"Malformed plan: {fault.message}"

end RunFault

/-- Why a property step had no effect. -/
inductive MissCause where
  | binding (fault : BindFault)
  /-- The manager knows no object by the handle. -/
  | objectUnavailable
deriving DecidableEq, Repr

namespace MissCause

/-- The reason spelled out for diagnostics. -/
def diagnostic : MissCause → String
  | binding fault => s!"Binding({fault.diagnostic})"
  | objectUnavailable => "ObjectUnavailable"

/-- The log record of a property of a node that was not set. -/
def notice (reason : MissCause) (nodeId property : String) (handle : Handle) : Notice :=
  ⟨.trace, s!"Node '{nodeId}': property '{property}' not bound on "
    ++ s!"{handle.display}: {reason.diagnostic}"⟩

end MissCause

/-- A property step that had no effect. -/
structure Miss where
  step : StepId
  property : String
  objectType : Option String
  reason : MissCause
deriving DecidableEq, Repr

/-- What a step has produced. -/
inductive Product where
  | manager (handle : ManagerHandle)
  | handle (handle : Handle)
  | success (bound : Bool)
deriving DecidableEq, Repr

/-- What a run is given besides its manager. -/
structure RunSetting where
  plan : Plan
  supply : Supply
  /-- The context of the graph that runs the plan. -/
  context : Handle
  /-- Whether property steps without effect are collected. -/
  diagnostics : Bool

/-- The state of a run between two steps. -/
structure Machine (α : Type) where
  manager : Manager α
  /-- What steps have produced, the latest first. -/
  produced : List ((StepId × Output) × Product)
  trace : List TraceEntry
  unresolved : List Miss
  notices : List Notice

/-- What a run gives when it reaches the end of its chain. -/
structure RunReport where
  output : Handle
  trace : Trace
  unresolved : List Miss
deriving DecidableEq, Repr

/-- A run that is over, with or without an outcome. -/
structure RunResult (α : Type) where
  result : Except RunFault RunReport
  manager : Manager α
  notices : List Notice

namespace Machine

variable {α : Type}

/-- The state before the first step. -/
def start (manager : Manager α) : Machine α := ⟨manager, [], [], [], []⟩

/-- What a step has produced on an output. -/
def product? (machine : Machine α) (step : StepId) (output : Output) : Option Product :=
  (machine.produced.find? fun entry => entry.1 == (step, output)).map Prod.snd

/-- The state after a step has produced something. -/
def produce (machine : Machine α) (step : StepId) (output : Output) (product : Product) :
    Machine α :=
  { machine with produced := ((step, output), product) :: machine.produced }

/-- The state with one more entry in its trace. -/
def record (machine : Machine α) (entry : TraceEntry) : Machine α :=
  { machine with trace := machine.trace ++ [entry] }

/-- The feed of an input that has to be there. -/
def feed (step : Step) (input : Input) : Except RunFault Feed :=
  match step.feed? input with
  | some feed => .ok feed
  | none => .error (.malformed (.noInput step.id input))

/-- The value a feed has for a step. -/
def resolve (machine : Machine α) (setting : RunSetting) (step : StepId) :
    Feed → Except RunFault Value
  | .literal value => .ok value
  | .linked source =>
    match setting.supply.get? source with
    | some value => .ok value
    | none => .error (.missingSupply step source)
  | .step producer output =>
    match machine.product? producer output with
    | some (.handle handle) => .ok (.object handle)
    | some (.success bound) => .ok (.bool bound)
    | some (.manager _) | none => .error (.unavailableOutput step producer)
  | .ambient => .ok (.object setting.context)

/-- The data an input has, converted to a type. -/
def typed (machine : Machine α) (setting : RunSetting) (step : Step) (input : Input)
    (expected : ValueType) : Except RunFault expected.Carrier := do
  let value ← machine.resolve setting step.id (← feed step input)
  match value.carrier? expected with
  | some data => return data
  | none => throw (.inputMismatch step.id input expected value)

/-- The manager an input stands for, which only another step can give. -/
def managerInput (machine : Machine α) (step : Step) : Except RunFault ManagerHandle := do
  match ← feed step .manager with
  | .step producer output =>
    match machine.product? producer output with
    | some (.manager handle) => return handle
    | _ => throw (.unavailableOutput step.id producer)
  | other => throw (.malformed (.managerFrom step.id other))

/-- Sets a property of the object of a handle, and tells the type of the object. -/
def bindProperty [Bindable α] (manager : Manager α) (handle : Handle) (property : String)
    (value : Value) (type : ValueType) :
    Manager α × Option String × Except MissCause Unit :=
  match manager.object? handle with
  | none => (manager, none, .error .objectUnavailable)
  | some object =>
    let (changed, result) := Bindable.tryBind object property value type
    (manager.setObject handle changed, some (Bindable.typeName object),
      result.mapError .binding)

/-- The state after a property step has done or failed to do its work. -/
def finishProperty (machine : Machine α) (setting : RunSetting) (step : StepId) (handle : Handle)
    (property : String) (objectType : Option String) (result : Except MissCause Unit) :
    Machine α :=
  match result with
  | .ok () => (machine.produce step .success (.success true)).record (.bound step property true)
  | .error reason =>
    let miss : Miss := ⟨step, property, objectType, reason⟩
    let noted := { machine with
      notices := machine.notices ++ [reason.notice setting.plan.nodeId property handle]
      unresolved := machine.unresolved ++ if setting.diagnostics then [miss] else [] }
    (noted.produce step .success (.success false)).record (.bound step property false)

/-- Carries one step out; a step whose inputs are not there changes nothing. -/
def execute [Bindable α] (machine : Machine α) (setting : RunSetting) (step : Step) :
    Except RunFault (Machine α) :=
  match step.call with
  | .locate => do
    let context ← machine.typed setting step .context .object
    let (manager, handle) := machine.manager.locate context
    let located := ({ machine with manager }).produce step.id .manager (.manager handle)
    return located.record (.located step.id handle)
  | .createOrShow => do
    let managerHandle ← machine.managerInput step
    let path ← machine.typed setting step .path .string
    let itemId ← machine.typed setting step .itemId .string
    let priority ← machine.typed setting step .priority .integer
    let context ← machine.typed setting step .context .object
    let request : ItemRequest := ⟨path, itemId, priority, context⟩
    let notices := machine.manager.showNotices managerHandle request
    let (manager, handle) := machine.manager.createOrShow managerHandle request
    let asked := { machine with manager, notices := machine.notices ++ notices }
    let created := asked.produce step.id .handle (.handle handle)
    return created.record (.created step.id path itemId handle)
  | .setProperty property type => do
    let target ← machine.typed setting step .target .object
    let data ← machine.typed setting step .value type
    let (manager, objectType, result) :=
      bindProperty machine.manager target property (.ofCarrier type data) type
    return ({ machine with manager }).finishProperty setting step.id target property
      objectType result

/-- Whether the handle a step has produced is valid, if it has produced one. -/
def handleValid? (machine : Machine α) (step : StepId) : Option Bool :=
  match machine.product? step .handle with
  | some (.handle handle) => some handle.isValid
  | _ => none

/-- Whether an edge may be taken after a handle of the given validity. -/
def allows (valid : Option Bool) : Guard → Bool
  | .always => true
  | .ifValid => valid == some true
  | .ifInvalid => valid == some false

/-- The properties of the steps whose ids come after that of a step. -/
def propertiesAfter (plan : Plan) (step : StepId) : List String :=
  (plan.steps.filter fun other => step.raw < other.id.raw).filterMap fun other =>
    other.call.property?

/-- Where the run goes after a step: over the first edge whose guard holds. -/
def next (machine : Machine α) (setting : RunSetting) (step : StepId) :
    Except RunFault (Machine α × Goal) :=
  let valid := machine.handleValid? step
  match (setting.plan.successors step).find? fun edge => allows valid edge.guard with
  | none => .error (.malformed (.noEdge step))
  | some edge =>
    if edge.guard = .ifInvalid then
      let skipped := propertiesAfter setting.plan step
      .ok (machine.record (.shortCircuited step skipped), edge.goal)
    else .ok (machine, edge.goal)

/-- Carries steps out until the chain ends or a fault stops it, in at most so many turns. -/
def follow [Bindable α] (setting : RunSetting) :
    (turns : Nat) → Machine α → StepId → Machine α × Except RunFault Unit
  | 0, machine, cursor => (machine, .error (.malformed (.loop setting.plan.nodeId cursor)))
  | turns + 1, machine, cursor =>
    match setting.plan.step? cursor with
    | none => (machine, .error (.malformed (.missingStep cursor)))
    | some step =>
      match machine.execute setting step with
      | .error fault => (machine, .error fault)
      | .ok executed =>
        match executed.next setting step.id with
        | .error fault => (executed, .error fault)
        | .ok (moved, .exit) => (moved, .ok ())
        | .ok (moved, .step goal) => follow setting turns moved goal

/-- The handle a finished run gives. -/
def output (machine : Machine α) : Feed → Except RunFault Handle
  | .step step output =>
    match machine.product? step output with
    | some (.handle handle) => .ok handle
    | _ => .error (.malformed (.outputMissing step output))
  | other => .error (.malformed (.outputBound other))

/-- A finished run, with its outcome unless a fault stopped it or its output is missing. -/
def finish (machine : Machine α) (setting : RunSetting) (ended : Except RunFault Unit) :
    RunResult α :=
  let result : Except RunFault RunReport := do
    ended
    let handle ← machine.output setting.plan.output
    return ⟨handle, ⟨setting.plan.nodeId, machine.trace⟩, machine.unresolved⟩
  ⟨result, machine.manager, machine.notices⟩

end Machine

namespace RunSetting

/-- Runs a plan against a manager. A well-formed chain takes each step at most once, so a run
that takes more turns than there are steps goes in a circle. -/
def run {α : Type} [Bindable α] (setting : RunSetting) (manager : Manager α) :
    RunResult α :=
  let machine := Machine.start manager
  match setting.plan.entry? with
  | none => machine.finish setting (.error (.malformed (.noSteps setting.plan.nodeId)))
  | some entry =>
    let (machine, ended) := machine.follow setting setting.plan.steps.length entry
    machine.finish setting ended

end RunSetting

end CallChain
