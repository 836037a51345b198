import RenderGraph.Backend
import RenderGraph.Flat.Graph
import RenderGraph.Schedule.Run
import RenderGraph.Plan.Basic

/-!
# Compiling a layout

A layout is flattened, its filters are created on the device, the graph is
scheduled without the device, and the planned render targets are allocated. A
target is created for its first user and grows for later ones.
-/

namespace RenderGraph

variable {B : Backend}

/-- What compiling a layout gives. -/
structure Compiled (B : Backend) where
  /-- The filters, by number. -/
  filters : List B.Filter
  /-- The render targets, by number. -/
  targets : List B.Target
  /-- The plan. -/
  plan : Plan

namespace Compile

/-- A failure of the device during an operation. -/
def deviceError (B : Backend) (context : Context) (failure : B.Failure) : Error :=
  ⟨Cause.deviceFailure (B.failureText failure), [context]⟩

/-- Creates one filter of a flattened graph. -/
def createFilter (flat : Flat.Filter B.Descriptor) : Action B.State Error B.Filter :=
  (B.createFilter flat.spec).mapError
    (deviceError B (.creatingFilter flat.path flat.spec.typeName))

/-- The scheduling problem of a flattened graph and its filters. -/
def problem (graph : Flat.Graph B.Descriptor) (filters : List B.Filter) :
    Schedule.Problem B.Format where
  tasks := graph.filters.zipWith (fun flat filter =>
    { path := flat.path
      inputs := flat.spec.inputs
      outputs := flat.spec.outputs
      format := B.outputFormat filter
      footprint := (B.filterFootprint filter).toNat }) filters
  connections := graph.connections
  formatText := B.formatText

/-- The number of outputs of a filter. -/
def outputsOf (graph : Flat.Graph B.Descriptor) (index : Nat) : Nat :=
  graph.filters[index]?.elim 0 fun flat => flat.spec.outputs.size

/-- Adds attachments to a target for as long as a user with so many outputs does not fit. -/
def growFor (id : Nat) (target : B.Target) (outputs : Nat) : Action B.State Error B.Target :=
  Action.repeatWhile (fun target => (B.attachments target).length < outputs)
    (fun target => (B.addAttachment target).mapError (deviceError B (.growingTarget id))) target

/-- Allocates a planned target. -/
def allocate (graph : Flat.Graph B.Descriptor) (id : Nat)
    (planned : Schedule.Target B.Format) : Action B.State Error B.Target :=
  match planned.users.map (outputsOf graph) with
  | [] => Action.fail (Cause.targetWithoutUser id)
  | first :: rest => do
    let target ← (B.createTarget planned.format first).mapError
      (deviceError B (.allocatingTarget id))
    rest.foldlM (growFor id) target

/-- Refuses a filter whose target has another format. -/
def checkFormat (targets : List B.Target) (path : String) (filter : B.Filter) (id : Nat) :
    Except Error Unit :=
  match targets[id]? with
  | none => .error (Cause.unassigned path)
  | some target =>
    if B.matchesFormat target filter then .ok ()
    else .error (Cause.formatMismatch path id (B.formatText (B.targetFormat target)))

/-- Refuses the first filter whose target has another format. -/
def checkFormats (graph : Flat.Graph B.Descriptor) (filters : List B.Filter)
    (targets : List B.Target) (assignments : List Nat) : Except Error Unit :=
  ((graph.filters.zip filters).zip assignments).forM fun ((flat, filter), id) =>
    checkFormat targets flat.path filter id

/-- The plan of a scheduled graph. -/
def plan (name : String) (layout : Layout B.Descriptor) (graph : Flat.Graph B.Descriptor)
    (schedule : Schedule.Solution B.Format) : Plan where
  name
  filters := graph.filters.zipIdx.map fun (flat, index) =>
    { index
      path := flat.path
      typeName := flat.spec.typeName
      target := schedule.assignments[index]?.getD 0
      inputs := schedule.bindings[index]?.getD [] }
  schedule := schedule.order
  targets := schedule.targets.zipIdx.map fun (target, id) =>
    { id
      format := B.formatText target.format
      attachments := target.attachments
      users := target.users }
  connections := graph.connections
  inputs := layout.inputs.names
  outputs := layout.outputs.names.zipWith (fun name binding => { name, binding }) schedule.outputs

/-- What a finished compilation reports. -/
def compiledEvent (plan : Plan) : Event :=
  .compiled plan.name plan.filters.length plan.targets.length plan.connections.length

end Compile

open Compile in
/-- Compiles a layout on a device. -/
def compile (name : String) (layout : Layout B.Descriptor) :
    Action B.State Error (Compiled B) := do
  Action.report [Flat.surveyEvent layout]
  let graph ← Action.ofExcept (within (.flattening name) (Flat.flatten layout))
  let filters ← graph.filters.mapM createFilter
  let (found, events) := (problem graph filters).solve layout.outputs
  Action.report events
  let schedule ← Action.ofExcept (within (.scheduling name) found)
  let targets ← schedule.targets.zipIdx.mapM fun (target, id) => allocate graph id target
  Action.ofExcept (checkFormats graph filters targets schedule.assignments)
  let plan := plan name layout graph schedule
  Action.report [compiledEvent plan]
  return ⟨filters, targets, plan⟩

end RenderGraph
