import CallChain.Node.Validation
import CallChain.Plan.Basic

/-! The structural check every lowered plan has to pass. -/

namespace CallChain

/-- A way in which a plan is malformed. -/
inductive PlanFault where
  | noSteps
  | misplacedStep (id : StepId) (position : Nat)
  | repeatedInput (id : StepId) (input : Input)
  | notEarlier (reader producer : StepId)
  | noSuchOutput (reader producer : StepId) (output : Output)
  | unrecordedLink (reader : StepId) (input : Input) (source : Source)
  | redirectToNowhere (source : Source)
  | redirectMismatch (source : Source) (target : StepId) (input : Input)
  | movedAgain (pin : Pin)
  | notForward (start goal : StepId)
  | branchWithoutHandle (id : StepId)
  | branchWithoutExit (id : StepId)
  | malformedEdges (id : StepId)
  | guardCount (found : Nat)
  | controlLoops
  | unreachable (reached total : Nat)
  | outputNotHandle (output : Feed)
  /-- A link of the node ends in a pin that the node does not have. -/
  | unknownPin (pin : Pin)
deriving DecidableEq, Repr

namespace PlanFault

/-- The fault in words. -/
def message : PlanFault → String
  | noSteps => "plan has no steps"
  | misplacedStep id position => s!"step {id.display} is stored at position {position}"
  | repeatedInput id input => s!"step {id.display} has two sources for {input.display}"
  | notEarlier reader producer =>
    s!"{reader.display} reads from later or missing step {producer.display}"
  | noSuchOutput reader producer output =>
    s!"{reader.display} reads {producer.display}.{output.display}, which does not exist"
  | unrecordedLink reader input source =>
    s!"{reader.display}.{input.display} reads {source.display} without a recorded redirect"
  | redirectToNowhere source => s!"redirect of {source.display} targets a missing step"
  | redirectMismatch source target input =>
    s!"redirect of {source.display} does not match {target.display}.{input.display}"
  | movedAgain pin => s!"link on {pin.display} was moved more than once"
  | notForward start goal => s!"control edge {start.display} -> {goal.display} does not go forward"
  | branchWithoutHandle id => s!"{id.display} branches but produces no handle"
  | branchWithoutExit id => s!"invalid-handle branch of {id.display} must exit"
  | malformedEdges id => s!"{id.display} has malformed control edges"
  | guardCount found => s!"expected exactly one handle guard, found {found}"
  | controlLoops => "control flow loops"
  | unreachable reached total => s!"only {reached} of {total} steps are reachable"
  | outputNotHandle output => s!"node output is bound to {output.display}, not a handle"
  | unknownPin pin => s!"connection targets unknown pin {pin.display}"

end PlanFault

namespace Plan

/-- Checks that an input reads an earlier step or a link recorded for it. -/
def checkFeed (plan : Plan) (step : Step) (entry : FedInput) : Except PlanFault Unit :=
  match entry.feed with
  | .step source output =>
    match (plan.step? source).filter fun _ => source.raw < step.id.raw with
    | none => .error (.notEarlier step.id source)
    | some producer =>
      if producer.call.output = output then .ok ()
      else .error (.noSuchOutput step.id source output)
  | .linked source =>
    let recorded := plan.redirects.any fun redirect =>
      redirect.target == step.id && redirect.input == entry.input && redirect.source == source
    if recorded then .ok () else .error (.unrecordedLink step.id entry.input source)
  | .literal _ | .ambient => .ok ()

/-- Checks that a step stands where its id says, and checks its inputs. -/
def checkStep (plan : Plan) (position : Nat) (step : Step) : Except PlanFault Unit :=
  if step.id.raw.toNat ≠ position then .error (.misplacedStep step.id position)
  else
    match firstRepeated? (step.inputs.map FedInput.input) with
    | some input => .error (.repeatedInput step.id input)
    | none => step.inputs.forM (plan.checkFeed step)

/-- Checks the steps from a position on. -/
def checkSteps (plan : Plan) : (position : Nat) → List Step → Except PlanFault Unit
  | _, [] => .ok ()
  | position, step :: rest => do
    plan.checkStep position step
    plan.checkSteps (position + 1) rest

/-- Checks that each redirect ends in an input with its source, and that no link moves twice. -/
def checkRedirects (plan : Plan) : (moved : List Pin) → List Redirect → Except PlanFault Unit
  | _, [] => .ok ()
  | moved, redirect :: rest =>
    match plan.step? redirect.target with
    | none => .error (.redirectToNowhere redirect.source)
    | some target =>
      if target.feed? redirect.input ≠ some (.linked redirect.source) then
        .error (.redirectMismatch redirect.source redirect.target redirect.input)
      else if redirect.action = .moved then
        if redirect.pin ∈ moved then .error (.movedAgain redirect.pin)
        else plan.checkRedirects (redirect.pin :: moved) rest
      else plan.checkRedirects moved rest

/-- Checks that an edge leads out of the chain or to a later step. -/
def checkEdge (plan : Plan) (step : Step) (edge : Edge) : Except PlanFault Unit :=
  match edge.goal with
  | .exit => .ok ()
  | .step goal =>
    if goal.raw ≤ step.id.raw || (plan.step? goal).isNone then
      .error (.notForward step.id goal)
    else .ok ()

/-- Checks the edges that leave a step, and tells whether they branch on its handle. -/
def checkBranch (plan : Plan) (step : Step) : Except PlanFault Bool := do
  let edges := plan.successors step.id
  edges.forM (plan.checkEdge step)
  match edges with
  | [edge] => if edge.guard = .always then return false else throw (.malformedEdges step.id)
  | [valid, invalid] =>
    if valid.guard = .ifValid && invalid.guard = .ifInvalid then
      if step.call ≠ .createOrShow then throw (.branchWithoutHandle step.id)
      else if invalid.goal ≠ .exit then throw (.branchWithoutExit step.id)
      else return true
    else throw (.malformedEdges step.id)
  | _ => throw (.malformedEdges step.id)

/-- The step after one whose handle, if it has one, is valid. -/
def nextWhenValid? (plan : Plan) (current : StepId) : Option StepId :=
  match (plan.successors current).find? fun edge => edge.guard != .ifInvalid with
  | some ⟨_, .step next, _⟩ => some next
  | _ => none

/-- Counts the steps met from a step on while every handle is valid, up to `fuel` of them. -/
def reachFrom (plan : Plan) : (fuel : Nat) → Option StepId → Nat
  | 0, _ => 0
  | _, none => 0
  | fuel + 1, some current => 1 + plan.reachFrom fuel (plan.nextWhenValid? current)

/-- Checks the shape of control: forward edges, one branch, and every step on the valid path. -/
def checkControl (plan : Plan) : Except PlanFault Unit := do
  let branches ← plan.steps.mapM plan.checkBranch
  let guarded := branches.count true
  if guarded ≠ 1 then throw (.guardCount guarded)
  let total := plan.steps.length
  let reached := plan.reachFrom (total + 1) plan.entry?
  if total < reached then throw .controlLoops
  if reached ≠ total then throw (.unreachable reached total)

/-- Checks that the node gives the handle of a call that makes one. -/
def checkOutput (plan : Plan) : Except PlanFault Unit :=
  match plan.output with
  | .step id .handle =>
    if ((plan.step? id).filter fun step => step.call == .createOrShow).isSome then .ok ()
    else .error (.outputNotHandle plan.output)
  | output => .error (.outputNotHandle output)

/-- Checks steps, redirects, control and output, in this order. -/
def verify (plan : Plan) : Except PlanFault Unit := do
  if plan.steps.isEmpty then throw .noSteps
  plan.checkSteps 0 plan.steps
  plan.checkRedirects [] plan.redirects
  plan.checkControl
  plan.checkOutput

end Plan

end CallChain
