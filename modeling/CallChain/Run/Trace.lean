import CallChain.Manager
import CallChain.Plan.Basic

/-! Traces: what a run did, step by step. -/

namespace CallChain

/-- What one step of a run did. -/
inductive TraceEntry where
  | located (step : StepId) (manager : ManagerHandle)
  | created (step : StepId) (path itemId : String) (handle : Handle)
  | bound (step : StepId) (property : String) (bound : Bool)
  /-- The invalid handle ended the run, and these properties were never set. -/
  | shortCircuited (step : StepId) (skipped : List String)
deriving DecidableEq, Repr

namespace TraceEntry

/-- An entry in words. -/
def display : TraceEntry → String
  | located _ _ => "Locate"
  | created _ path itemId handle => s!"CreateOrShow({path}/{itemId}) = {handle.display}"
  | bound _ property true => s!"{property} set"
  | bound _ property false => s!"{property} unbound"
  | shortCircuited _ [] => "exit (invalid handle)"
  | shortCircuited _ skipped =>
    let names := ", ".intercalate skipped
    s!"exit (invalid handle, skipped {names})"

/-- Whether the entry is about a property step that ran. -/
def isBound : TraceEntry → Bool
  | bound _ _ _ => true
  | _ => false

end TraceEntry

/-- The entries of one run, in order. -/
structure Trace where
  nodeId : String
  entries : List TraceEntry
deriving DecidableEq, Repr

namespace Trace

/-- A trace on one line. -/
def display (trace : Trace) : String :=
  let body := " -> ".intercalate (trace.entries.map TraceEntry.display)
  s!"{trace.nodeId}: {body}"

/-- How many property steps ran. -/
def attempted (trace : Trace) : Nat :=
  (trace.entries.filter TraceEntry.isBound).length

end Trace

end CallChain
