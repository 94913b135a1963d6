import CallChain.Node.Basic

/-! Plans: the chain of calls one node expands into. -/

namespace CallChain

/-- The position of a step in its plan. -/
structure StepId where
  raw : UInt32
deriving DecidableEq, Repr, Inhabited

namespace StepId

/-- The id of the step at a position. -/
def ofNat (position : Nat) : StepId := ⟨UInt32.ofNat position⟩

/-- A step id as shown to authors. -/
def display (id : StepId) : String :=
  s!"%{id.raw.toNat}"

end StepId

/-- The output of a step. -/
inductive Output where
  | manager
  | handle
  | success
deriving DecidableEq, Repr, Inhabited

namespace Output

/-- An output as shown to authors. -/
def display : Output → String
  | manager => "manager"
  | handle => "handle"
  | success => "success"

end Output

/-- The call a step makes. -/
inductive Call where
  /-- Obtains the manager for the context. -/
  | locate
  /-- Asks the manager for the item; the handle it gives may be invalid. -/
  | createOrShow
  /-- Sets one property of the object by its name. -/
  | setProperty (property : String) (type : ValueType)
deriving DecidableEq, Repr

namespace Call

/-- The name of the call. -/
def name : Call → String
  | locate => "Locate"
  | createOrShow => "CreateOrShow"
  | setProperty _ _ => "SetNamedProperty"

/-- The only output of the call. -/
def output : Call → Output
  | locate => .manager
  | createOrShow => .handle
  | setProperty _ _ => .success

/-- The property the call sets, if it sets one. -/
def property? : Call → Option String
  | setProperty property _ => some property
  | _ => none

end Call

/-- An input of a step. -/
inductive Input where
  | context
  | manager
  | path
  | itemId
  | priority
  | target
  | value
deriving DecidableEq, Repr, Inhabited

namespace Input

/-- An input as shown to authors. -/
def display : Input → String
  | context => "context"
  | manager => "manager"
  | path => "path"
  | itemId => "item_id"
  | priority => "priority"
  | target => "target"
  | value => "value"

end Input

/-- Where an input takes its value from. -/
inductive Feed where
  | literal (value : Value)
  /-- An output of another node, over a link that was redirected to the step. -/
  | linked (source : Source)
  | step (id : StepId) (output : Output)
  /-- The context of the graph that runs the plan. -/
  | ambient
deriving DecidableEq, Repr

namespace Feed

/-- A feed as shown to authors. -/
def display : Feed → String
  | literal value => value.display
  | linked source => "@" ++ source.display
  | step id output => s!"{id.display}.{output.display}"
  | ambient => "self"

/-- Whether the feed is a literal. -/
def isLiteral : Feed → Bool
  | literal _ => true
  | _ => false

/-- Equality up to the numeric equality of float literals. -/
def agrees : Feed → Feed → Bool
  | literal x, literal y => x.agrees y
  | x, y => x == y

end Feed

/-- One input of a step with its feed. -/
structure FedInput where
  input : Input
  feed : Feed
deriving DecidableEq, Repr

/-- One call of a plan. -/
structure Step where
  id : StepId
  call : Call
  inputs : List FedInput
  /-- The slot the step was made for. -/
  origin : Option SlotId
deriving DecidableEq, Repr

namespace Step

/-- The first feed of an input. -/
def feed? (step : Step) (input : Input) : Option Feed :=
  (step.inputs.find? fun entry => entry.input == input).map FedInput.feed

/-- Equality up to the numeric equality of float literals. -/
def agrees (first second : Step) : Bool :=
  first.id == second.id && first.call == second.call && first.origin == second.origin
    && first.inputs.isEqv second.inputs fun a b => a.input == b.input && a.feed.agrees b.feed

end Step

/-- When a control edge is taken. -/
inductive Guard where
  | always
  /-- The step before it gave a valid handle. -/
  | ifValid
  /-- The step before it gave an invalid handle. -/
  | ifInvalid
deriving DecidableEq, Repr, Inhabited

/-- Where a control edge leads. -/
inductive Goal where
  | step (id : StepId)
  /-- Out of the chain. -/
  | exit
deriving DecidableEq, Repr

namespace Goal

/-- A goal as shown to authors. -/
def display : Goal → String
  | step id => id.display
  | exit => "exit"

end Goal

/-- A control edge between two steps, or from a step out of the chain. -/
structure Edge where
  start : StepId
  goal : Goal
  guard : Guard
deriving DecidableEq, Repr

/-- What happens to a link of the node when it is redirected. -/
inductive Handover where
  /-- The link stays, and a duplicate feeds the step. -/
  | copied
  /-- The link itself is attached to the step. -/
  | moved
deriving DecidableEq, Repr, Inhabited

/-- How a link of the node becomes a link of one of its steps. -/
structure Redirect where
  /-- The pin of the node that the link ended in. -/
  pin : Pin
  source : Source
  action : Handover
  target : StepId
  input : Input
deriving DecidableEq, Repr

/-- The chain of calls a node expands into. -/
structure Plan where
  nodeId : String
  steps : List Step
  control : List Edge
  redirects : List Redirect
  /-- What the node gives downstream. -/
  output : Feed
deriving DecidableEq, Repr

namespace Plan

/-- The step with an id, if it is stored at the position the id names. -/
def step? (plan : Plan) (id : StepId) : Option Step :=
  (plan.steps[id.raw.toNat]?).filter fun step => step.id == id

/-- The step a run starts with. -/
def entry? (plan : Plan) : Option StepId :=
  plan.steps.head?.map Step.id

/-- The control edges that leave a step, in order. -/
def successors (plan : Plan) (start : StepId) : List Edge :=
  plan.control.filter fun edge => edge.start == start

/-- An input that is not a literal, with the step it belongs to. -/
structure Wire where
  feed : Feed
  target : StepId
  input : Input
deriving DecidableEq, Repr

/-- Every input that is not a literal, in order. -/
def wires (plan : Plan) : List Wire :=
  plan.steps.flatMap fun step =>
    (step.inputs.filter fun entry => !entry.feed.isLiteral).map fun entry =>
      ⟨entry.feed, step.id, entry.input⟩

/-- The properties the plan sets, in order. -/
def properties (plan : Plan) : List String :=
  plan.steps.filterMap fun step => step.call.property?

/-- Whether two plans differ in nothing but the node they belong to. -/
def sameChain (first second : Plan) : Bool :=
  first.steps.isEqv second.steps Step.agrees && first.control == second.control
    && first.redirects == second.redirects && first.output.agrees second.output

/-- Equality up to the numeric equality of float literals. -/
def agrees (first second : Plan) : Bool :=
  first.nodeId == second.nodeId && first.sameChain second

end Plan

end CallChain
