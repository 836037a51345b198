import RenderGraph.Schedule.Step

/-!
# Scheduling all filters

Each step schedules one filter, so a graph of n filters takes n steps. After
them every pipeline output is resolved to the attachment that holds it.
-/

namespace RenderGraph.Schedule

variable {φ : Type} [DecidableEq φ] (problem : Problem φ)

/-- Takes a number of steps, up to the first that fails. -/
def steps : Nat → State φ → State φ × Option Error
  | 0, state => (state, none)
  | n + 1, state =>
    match step problem state with
    | .ok next => steps n next
    | .error error => (state, some error)

/-- Where an output of the pipeline finds its texture. -/
def outputBinding (assignments : List (Option Nat)) (port : Nat) (name : String) :
    Except Error Binding :=
  match sourceOf? problem.connections .boundary port with
  | none => .error (Cause.outputWithoutSource name)
  | some c =>
    match c.source with
    | .boundary => .error (Cause.outputFromInput name)
    | .member producer =>
      match assignments[producer]?.getD none with
      | some target => .ok (.attachment target c.sourcePort)
      | none => .error (Cause.outputOfUnscheduled name)

/-- The target of a filter, which has to have one. -/
def assignmentOf (index : Nat) : Option Nat → Except Error Nat
  | some target => .ok target
  | none => .error (Cause.unassigned (problem.pathOf index))

/-- The schedule that a final state describes. -/
def State.finish (state : State φ) (outputs : Ports) : Except Error (Solution φ) := do
  let found ← outputs.names.zipIdx.mapM fun (name, port) =>
    outputBinding problem state.assignments port name
  let assignments ← state.assignments.zipIdx.mapM fun (target, index) =>
    assignmentOf problem index target
  return {
    order := state.order
    assignments
    bindings := state.bindings
    outputs := found
    targets := state.leases.map Lease.toTarget }

/-- Schedules a graph whose pipeline has the given outputs, and gives what is reported meanwhile. -/
def Problem.solve (outputs : Ports) : Except Error (Solution φ) × List Event :=
  match steps problem problem.tasks.length (start problem) with
  | (state, some error) => (.error error, state.events)
  | (state, none) => (state.finish problem outputs, state.events)

end RenderGraph.Schedule
