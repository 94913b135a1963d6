import CallChain.Run.Chain

/-! What a run comes by: the steps its loop turns to, why the loop ends, and what the trace tells. -/

namespace CallChain

namespace ChainFault

/-- Whether the fault is about the way from step to step: no first step, a step that is not there,
no edge to leave a step by, or a way that leads back. -/
def isControl : ChainFault → Bool
  | noSteps _ | loop _ _ | missingStep _ | noEdge _ => true
  | noInput _ _ | managerFrom _ _ | outputMissing _ _ | outputBound _ => false

end ChainFault

namespace RunFault

/-- Whether the fault is about the way from step to step. -/
def isControl : RunFault → Bool
  | malformed fault => fault.isControl
  | missingSupply _ _ | unavailableOutput _ _ | inputMismatch _ _ _ _ => false

end RunFault

namespace TraceEntry

/-- The step an entry tells to have been carried out. -/
def step? : TraceEntry → Option StepId
  | located step _ | created step _ _ _ | bound step _ _ => some step
  | shortCircuited _ _ => none

/-- The property an entry tells to have been set or tried. -/
def property? : TraceEntry → Option String
  | bound _ property _ => some property
  | _ => none

/-- The properties an entry tells to have been left out. -/
def skipped : TraceEntry → List String
  | shortCircuited _ skipped => skipped
  | _ => []

end TraceEntry

namespace Trace

/-- The steps that were carried out, in order. -/
def steps (trace : Trace) : List StepId :=
  trace.entries.filterMap TraceEntry.step?

end Trace

namespace Machine

variable {α : Type} [Bindable α]

/-- The steps that a run turns to from a goal on, in order and in at most so many turns. A step that
cannot be carried out is the last of them. -/
def visits (setting : RunSetting) : (turns : Nat) → Machine α → Goal → List StepId
  | _, _, .exit => []
  | 0, _, .step _ => []
  | turns + 1, machine, .step cursor =>
    match setting.plan.step? cursor with
    | none => []
    | some step =>
      match machine.execute setting step with
      | .error _ => [step.id]
      | .ok executed =>
        match executed.next setting step.id with
        | .error _ => [step.id]
        | .ok (moved, goal) => step.id :: visits setting turns moved goal

/-- One turn of a run at a step: it is carried out, and one of its edges leads on to a goal. -/
inductive Turn (setting : RunSetting) (cursor : StepId) (machine moved : Machine α) (goal : Goal) :
    Prop where
  | intro {step : Step} {executed : Machine α} (found : setting.plan.step? cursor = some step)
      (done : machine.execute setting step = .ok executed)
      (led : executed.next setting step.id = .ok (moved, goal))

end Machine

namespace RunSetting

variable {α : Type} [Bindable α]

/-- The state a run is in when its loop is over, and the fault that ended the loop, if one did. -/
def loop (setting : RunSetting) (manager : Manager α) : Machine α × Except RunFault Unit :=
  match setting.plan.entry? with
  | none => (.start manager, .error (.malformed (.noSteps setting.plan.nodeId)))
  | some entry => (Machine.start manager).follow setting setting.plan.steps.length entry

/-- The steps that a run turns to, in order. -/
def visits (setting : RunSetting) (manager : Manager α) : List StepId :=
  match setting.plan.entry? with
  | none => []
  | some entry => Machine.visits setting setting.plan.steps.length (.start manager) (.step entry)

/-- The control flow of a run, however many turns it takes: the steps that were carried out so far,
in order, the state after them, and the goal that they have led to. -/
inductive Reaches (setting : RunSetting) (manager : Manager α) :
    List StepId → Machine α → Goal → Prop where
  | start {entry : StepId} (first : setting.plan.entry? = some entry) :
      Reaches setting manager [] (.start manager) (.step entry)
  | turn {done : List StepId} {machine moved : Machine α} {cursor : StepId} {goal : Goal}
      (reached : Reaches setting manager done machine (.step cursor))
      (turn : Machine.Turn setting cursor machine moved goal) :
      Reaches setting manager (done ++ [cursor]) moved goal

/-- The ways in which a run with a guarded call stops, with the number of steps it has turned to by
then. -/
inductive Stops (setting : RunSetting) (manager : Manager α) (guard : Step) : Nat → Prop where
  /-- The handle is valid, and every step was carried out. -/
  | completed (ended : (setting.loop manager).2 = .ok ())
      (valid : (setting.loop manager).1.handleValid? guard.id = some true) :
      Stops setting manager guard setting.plan.steps.length
  /-- The handle is invalid, and the call for it was the last step. -/
  | shortCircuited (ended : (setting.loop manager).2 = .ok ())
      (invalid : (setting.loop manager).1.handleValid? guard.id = some false) :
      Stops setting manager guard (guard.id.raw.toNat + 1)
  /-- A step could not be carried out. -/
  | failed {position : Nat} {step : Step} {fault : RunFault}
      (placed : setting.plan.steps[position]? = some step)
      (fails : (setting.loop manager).1.execute setting step = .error fault)
      (ended : (setting.loop manager).2 = .error fault) :
      Stops setting manager guard (position + 1)

end RunSetting

end CallChain
