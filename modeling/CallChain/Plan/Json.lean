import CallChain.Document.Json
import CallChain.Plan.Basic

/-! Plans as JSON, for hosts that put a plan in place of its node.

The form of literals is up to the host, so writing and reading take it as an argument. -/

namespace CallChain

namespace Json

/-- One of several alternatives by its name. -/
def oneOf {α : Type} (name : α → String) (alternatives : List α) : Decoder α :=
  named fun text => alternatives.find? fun alternative => name alternative == text

/-- A list of data, empty when null. -/
def listOrNull {α : Type} (decoder : Decoder α) : Decoder (List α) := fun json =>
  (nullable (list decoder) json).map fun items => items.getD []

end Json

namespace StepId

/-- A step id as JSON. -/
def toJson (id : StepId) : Json := Json.ofWord32 id.raw

/-- Reads a step id. -/
def ofJson : Json.Decoder StepId := fun json => (Json.word32 json).map StepId.mk

end StepId

namespace Input

/-- The name of an input in JSON. -/
def name : Input → String
  | context => "Context"
  | manager => "Manager"
  | path => "Path"
  | itemId => "ItemId"
  | priority => "Priority"
  | target => "Target"
  | value => "Value"

/-- Reads an input. -/
def ofJson : Json.Decoder Input :=
  Json.oneOf name [context, manager, path, itemId, priority, target, value]

end Input

namespace Output

/-- The name of an output in JSON. -/
def name : Output → String
  | manager => "Manager"
  | handle => "Handle"
  | success => "Success"

/-- Reads an output. -/
def ofJson : Json.Decoder Output :=
  Json.oneOf name [manager, handle, success]

end Output

namespace Guard

/-- The name of a guard in JSON. -/
def name : Guard → String
  | always => "Always"
  | ifValid => "IfValid"
  | ifInvalid => "IfInvalid"

end Guard

namespace Handover

/-- The name of an action in JSON. -/
def name : Handover → String
  | copied => "Copied"
  | moved => "Moved"

end Handover

namespace Feed

/-- A feed as JSON. -/
def toJson (literalJson : Value → Json) : Feed → Json
  | literal value => .object [("Literal", literalJson value)]
  | linked source => .object [("External", source.toJson)]
  | step id output =>
    .object [("Step", .object [("step", id.toJson), ("pin", .string output.name)])]
  | ambient => .string "ImplicitContext"

/-- Reads a feed. -/
def ofJson (literalOfJson : Json.Decoder Value) : Json.Decoder Feed := fun json => do
  match ← Json.tagged json with
  | .bare "ImplicitContext" => return ambient
  | .holding "Literal" content => return literal (← literalOfJson content)
  | .holding "External" content => return linked (← Source.ofJson content)
  | .holding "Step" content =>
    let found ← Json.record (["step", "pin"].map Json.Field.plain) content
    return step (← found.required "step" StepId.ofJson) (← found.required "pin" Output.ofJson)
  | _ => throw (.expected "a feed")

end Feed

namespace Call

/-- The call of a step as JSON. -/
def toJson : Call → Json
  | setProperty property type =>
    .object [("SetNamedProperty",
      .object [("property", .string property), ("value_type", .string type.name)])]
  | call => .string call.name

/-- Reads the call of a step. -/
def ofJson : Json.Decoder Call := fun json => do
  match ← Json.tagged json with
  | .bare "Locate" => return locate
  | .bare "CreateOrShow" => return createOrShow
  | .holding "SetNamedProperty" content =>
    let found ← Json.record (["property", "value_type"].map Json.Field.plain) content
    let property ← found.required "property" Json.text
    return setProperty property (← found.required "value_type" ValueType.ofJson)
  | _ => throw (.expected "a call")

end Call

namespace Step

/-- A step as JSON. -/
def toJson (literalJson : Value → Json) (step : Step) : Json :=
  .object [("id", step.id.toJson), ("kind", step.call.toJson),
    ("inputs", .array (step.inputs.map fun entry =>
      .object [("pin", .string entry.input.name), ("source", entry.feed.toJson literalJson)])),
    ("origin", Json.ofOption (fun id => Json.ofWord32 id.raw) step.origin)]

/-- Reads an input of a step. -/
def inputOfJson (literalOfJson : Json.Decoder Value) : Json.Decoder FedInput := fun json => do
  let found ← Json.record (["pin", "source"].map Json.Field.plain) json
  let input ← found.required "pin" Input.ofJson
  return ⟨input, ← found.required "source" (Feed.ofJson literalOfJson)⟩

/-- Reads a step. -/
def ofJson (literalOfJson : Json.Decoder Value) : Json.Decoder Step := fun json => do
  let found ← Json.record (["id", "kind", "inputs", "origin"].map Json.Field.plain) json
  let id ← found.required "id" StepId.ofJson
  let call ← found.required "kind" Call.ofJson
  let inputs ← found.required "inputs" (Json.listOrNull (inputOfJson literalOfJson))
  let origin ← found.optional "origin" Json.word32
  return ⟨id, call, inputs, origin.map SlotId.mk⟩

end Step

namespace Goal

/-- A goal as JSON. -/
def toJson : Goal → Json
  | exit => .string "Exit"
  | step id => .object [("Step", id.toJson)]

/-- Reads a goal. -/
def ofJson : Json.Decoder Goal := fun json => do
  match ← Json.tagged json with
  | .bare "Exit" => return exit
  | .holding "Step" content => return step (← StepId.ofJson content)
  | _ => throw (.expected "a goal")

end Goal

namespace Edge

/-- A control edge as JSON. -/
def toJson (edge : Edge) : Json :=
  .object [("from", edge.start.toJson), ("to", edge.goal.toJson),
    ("guard", .string edge.guard.name)]

/-- Reads a control edge. -/
def ofJson : Json.Decoder Edge := fun json => do
  let found ← Json.record (["from", "to", "guard"].map Json.Field.plain) json
  let start ← found.required "from" StepId.ofJson
  let goal ← found.required "to" Goal.ofJson
  let guards : List Guard := [.always, .ifValid, .ifInvalid]
  return ⟨start, goal, ← found.required "guard" (Json.oneOf Guard.name guards)⟩

end Edge

namespace Redirect

/-- A redirected link as JSON. -/
def toJson (redirect : Redirect) : Json :=
  .object [("original", redirect.pin.toJson), ("source", redirect.source.toJson),
    ("action", .string redirect.action.name), ("target", redirect.target.toJson),
    ("pin", .string redirect.input.name)]

/-- Reads a redirected link. -/
def ofJson : Json.Decoder Redirect := fun json => do
  let fields := ["original", "source", "action", "target", "pin"].map Json.Field.plain
  let found ← Json.record fields json
  let pin ← found.required "original" Pin.ofJson
  let source ← found.required "source" Source.ofJson
  let actions : List Handover := [.copied, .moved]
  let action ← found.required "action" (Json.oneOf Handover.name actions)
  let target ← found.required "target" StepId.ofJson
  return ⟨pin, source, action, target, ← found.required "pin" Input.ofJson⟩

end Redirect

namespace Plan

/-- A plan as JSON. -/
def toJson (literalJson : Value → Json) (plan : Plan) : Json :=
  .object [("node_id", .string plan.nodeId),
    ("steps", .array (plan.steps.map fun step => step.toJson literalJson)),
    ("control", .array (plan.control.map Edge.toJson)),
    ("redirects", .array (plan.redirects.map Redirect.toJson)),
    ("output", plan.output.toJson literalJson)]

/-- Reads a plan, well formed or not. -/
def ofJson (literalOfJson : Json.Decoder Value) : Json.Decoder Plan := fun json => do
  let fields := ["node_id", "steps", "control", "redirects", "output"].map Json.Field.plain
  let found ← Json.record fields json
  let nodeId ← found.required "node_id" Json.text
  let steps ← found.required "steps" (Json.listOrNull (Step.ofJson literalOfJson))
  let control ← found.required "control" (Json.listOrNull Edge.ofJson)
  let redirects ← found.required "redirects" (Json.listOrNull Redirect.ofJson)
  return ⟨nodeId, steps, control, redirects,
    ← found.required "output" (Feed.ofJson literalOfJson)⟩

end Plan

end CallChain
