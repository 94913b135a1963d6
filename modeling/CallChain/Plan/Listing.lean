import CallChain.Plan.Basic

/-! Listings: plans written out for people. -/

namespace CallChain

namespace Step

/-- The call of a step, with the property it sets. -/
def label (step : Step) : String :=
  match step.call with
  | .setProperty property type => s!"{step.call.name}[\"" ++ property ++ s!"\": {type.name}]"
  | call => call.name

/-- One line for a step: its id, its call in a column of its own, and its inputs. -/
def listing (step : Step) : String :=
  let inputs := step.inputs.map fun entry => s!"{entry.input.display}={entry.feed.display}"
  let arguments := ", ".intercalate inputs
  s!"{step.id.display}: {Text.padRight 36 step.label} ({arguments})"

end Step

namespace Guard

/-- What a listing adds to a guarded edge. -/
def suffix : Guard → String
  | always => ""
  | ifValid => " [if valid]"
  | ifInvalid => " [if invalid]"

end Guard

namespace Edge

/-- One line for a control edge. -/
def listing (edge : Edge) : String :=
  s!"{edge.start.display} -> {edge.goal.display}{edge.guard.suffix}"

end Edge

namespace Handover

/-- The word for the action in a listing. -/
def display : Handover → String
  | copied => "copy"
  | moved => "move"

end Handover

namespace Redirect

/-- One line for a redirected link. -/
def listing (redirect : Redirect) : String :=
  s!"{redirect.action.display} {redirect.source.display} ({redirect.pin.display})"
    ++ s!" -> {redirect.target.display}.{redirect.input.display}"

end Redirect

namespace Plan

/-- The lines of a plan; the part about links is left out when there are none. -/
def listingLines (plan : Plan) : List String :=
  [s!"======== EXPANSION PLAN for Node: {plan.nodeId} ========", "", "--- STEPS ---"]
    ++ plan.steps.map Step.listing
    ++ ["", "--- CONTROL ---"]
    ++ plan.control.map Edge.listing
    ++ (if plan.redirects.isEmpty then [] else ["", "--- LINKS ---"])
    ++ plan.redirects.map Redirect.listing
    ++ ["", s!"OUTPUT {plan.output.display}", "================ END OF PLAN ================"]

/-- A plan written out for people. -/
def listing (plan : Plan) : String :=
  "\n".intercalate plan.listingLines

end Plan

end CallChain
