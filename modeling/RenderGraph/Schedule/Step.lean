import RenderGraph.Schedule.Pool

/-!
# Scheduling one filter

A filter becomes a candidate when all its inputs have a texture. Among the
candidates that fit a free render target the smallest is scheduled, the one that
became ready first among equals; if none fits, the candidate that became ready
first, which then needs a new target.
-/

namespace RenderGraph.Schedule

variable {φ : Type} [DecidableEq φ]

/-- The graph to be scheduled. -/
structure Problem (φ : Type) where
  /-- The filters, by number. -/
  tasks : List (Task φ)
  /-- The connections between filters and with the boundary of the pipeline. -/
  connections : List (Connection Anchor)
  /-- How messages spell a format. -/
  formatText : φ → String

variable (problem : Problem φ)

/-- The number of inputs without a texture after some of them got one. -/
def supply (missing : List (Option Nat)) (destination : Anchor) : List (Option Nat) :=
  match destination with
  | .boundary => missing
  | .member index => missing.modify index (Option.map (· - 1))

/-- The destinations of all outputs of a node. -/
def Problem.consumers (node : Anchor) : List Anchor :=
  (problem.connections.filter fun c => c.source = node).map Connection.destination

/-- The state before the first step: the inputs of the pipeline are there. -/
def start : State φ :=
  { missing := (problem.consumers .boundary).foldl supply
      (problem.tasks.map fun task => some task.inputs.size)
    candidates := []
    order := []
    assignments := problem.tasks.map fun _ => none
    bindings := problem.tasks.map fun _ => []
    leases := []
    events := [] }

/-- The filters that miss nothing, in the order of their numbers. -/
def ready (missing : List (Option Nat)) : List Nat :=
  missing.zipIdx.filterMap fun (count, index) => if count = some 0 then some index else none

/-- The filters that are no candidates yet. -/
def waiting (missing : List (Option Nat)) : List Nat :=
  missing.zipIdx.filterMap fun (count, index) => if count.isSome then some index else none

/-- Makes the filters that miss nothing candidates. -/
def State.promote (state : State φ) : State φ :=
  { state with
    candidates := state.candidates ++ ready state.missing
    missing := state.missing.map fun count => if count = some 0 then none else count }

/-- The first element of the least weight. -/
def lightest? {α : Type} (weight : α → Nat) : List α → Option α
  | [] => none
  | a :: rest =>
    match lightest? weight rest with
    | none => some a
    | some b => if weight b < weight a then some b else some a

/-- The candidates with what is known of them. -/
def candidateTasks (state : State φ) : List (Nat × Task φ) :=
  state.candidates.filterMap fun index => problem.tasks[index]?.map fun task => (index, task)

/-- The candidate to schedule next. -/
def choose? (state : State φ) : Option (Nat × Task φ) :=
  let candidates := candidateTasks problem state
  let fitting := candidates.filter fun entry =>
    (freeTarget? state.leases entry.2.format 0).isSome
  match lightest? (fun entry => entry.2.footprint) fitting with
  | some entry => some entry
  | none => candidates.head?

/-- Refuses a filter without outputs or with an output that nothing reads. -/
def checkOutputs (index : Nat) (task : Task φ) : Except Error Unit :=
  if task.outputs.size = 0 then .error (Cause.noOutputPort task.path)
  else
    match task.outputs.names.zipIdx.find? fun (_, port) =>
        !problem.connections.any fun c => c.reads (.member index) port with
    | some (name, _) => .error (Cause.outputNotConnected task.path name)
    | none => .ok ()

/-- The path of a filter. -/
def Problem.pathOf (index : Nat) : String :=
  problem.tasks[index]?.elim "" Task.path

/-- Where an input of a filter finds its texture. -/
def inputBinding (assignments : List (Option Nat)) (index : Nat) (path : String) (port : Nat) :
    Except Error Binding :=
  match sourceOf? problem.connections (.member index) port with
  | none => .error (Cause.inputWithoutSource port path)
  | some c =>
    match c.source with
    | .boundary => .ok (.input c.sourcePort)
    | .member producer =>
      match assignments[producer]?.getD none with
      | some target => .ok (.attachment target c.sourcePort)
      | none => .error (Cause.producerUnscheduled path (problem.pathOf producer))

/-- The state after a candidate has been scheduled. -/
def State.schedule (state : State φ) (index : Nat) (task : Task φ) :
    Except Error (State φ) := do
  checkOutputs problem index task
  let consumers := problem.consumers (.member index)
  let placement := place problem.formatText state.leases index task consumers.length
  let assignments := state.assignments.set index (some placement.target)
  let bindings ← (List.range task.inputs.size).mapM (inputBinding problem assignments index task.path)
  return {
    missing := consumers.foldl supply state.missing
    candidates := state.candidates.erase index
    order := state.order ++ [index]
    assignments
    bindings := state.bindings.set index bindings
    leases := bindings.foldl release placement.leases
    events := state.events ++ placement.events ++ [.scheduled task.path placement.target] }

/-- Schedules one more filter. -/
def step (state : State φ) : Except Error (State φ) :=
  let promoted := state.promote
  match choose? problem promoted with
  | none => .error (Cause.stuckScheduling ((waiting promoted.missing).map problem.pathOf))
  | some (index, task) => promoted.schedule problem index task

end RenderGraph.Schedule
