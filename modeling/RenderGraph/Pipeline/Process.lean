import RenderGraph.Pipeline.Basic

/-!
# Running a pipeline

A run binds the inputs of each filter and renders it, in schedule order. A
complete run is recorded and releases all inputs. A run that fails keeps the
bound inputs and records nothing, so it can be repeated once the reason is gone.
-/

namespace RenderGraph

variable {B : Backend}

/-- A pipeline together with its device. -/
structure Running (B : Backend) where
  /-- The pipeline. -/
  pipeline : Pipeline B
  /-- The state of the device. -/
  device : B.State

/-- What changes while the filters are rendered. -/
structure Progress (B : Backend) where
  /-- The filters, by number. -/
  filters : List B.Filter
  /-- The state of the device. -/
  device : B.State

/-- What a pipeline can be told to do. -/
inductive Command where
  /-- Render every filter with the bound inputs, then unbind them. -/
  | process
  /-- Unbind every input without rendering. -/
  | reset
  deriving DecidableEq, Repr

namespace Pipeline

/-- The texture that an input of a filter reads. -/
def boundTexture (pipeline : Pipeline B) : Schedule.Binding → Except Fault B.Texture
  | .input port =>
    match pipeline.inputs[port]? with
    | some texture => .ok texture
    | none => .error .outOfRange
  | .attachment target index =>
    match pipeline.targets[target]? with
    | none => .error .outOfRange
    | some found =>
      match (B.attachments found)[index]? with
      | some texture => .ok texture
      | none => .error (.error (Cause.noAttachment target index))

/-- Binds one input of a filter. -/
def bindInput (pipeline : Pipeline B) (index port : Nat) (binding : Schedule.Binding) :
    Action (Progress B) Fault Unit := do
  let texture ← Action.ofExcept (pipeline.boundTexture binding)
  Action.modify fun progress =>
    { progress with filters := progress.filters.modify index (B.setInput port texture) }

/-- Binds the inputs of a filter, in port order. -/
def bindInputs (pipeline : Pipeline B) (index : Nat) (bindings : List Schedule.Binding) :
    Action (Progress B) Fault Unit :=
  bindings.zipIdx.forM fun (binding, port) => pipeline.bindInput index port binding

/-- Runs an action of the device. -/
def onDevice {ε α : Type} : Action B.State ε α → Action (Progress B) ε α :=
  Action.zoom Progress.device fun device progress => { progress with device }

/-- The failure of the device while something is done with a filter. -/
def deviceFault (context : Context) (failure : B.Failure) : Fault :=
  .error (Compile.deviceError B context failure)

/-- Renders a filter and measures its time. The timer is stopped even if rendering fails; the
clock of the host stands in for a timer that there is not. -/
def renderTimed (index : Nat) (path : String) (filter : B.Filter) (target : B.Target) :
    Action B.State Fault (List Sample) := do
  let armed ← (fun device => ⟨(B.startTimer device).2, [], .ok (B.startTimer device).1⟩ :
    Action B.State Fault Bool)
  let started := B.clock (← Action.get)
  let rendered ← (B.render filter target).attempt
  let stopped ← B.stopTimer.attempt
  let elapsed := (B.clock (← Action.get)).since started
  Action.ofExcept (rendered.mapError (deviceFault (.renderingFilter path)))
  let measured ← Action.ofExcept (stopped.mapError (deviceFault (.timingFilter path)))
  return [⟨index, if armed then measured.getD elapsed else elapsed⟩]

/-- Renders a filter without measuring. -/
def renderUntimed (path : String) (filter : B.Filter) (target : B.Target) :
    Action B.State Fault (List Sample) := do
  (B.render filter target).mapError (deviceFault (.renderingFilter path))
  return []

/-- Binds and renders the filter with a number. -/
def renderFilter (pipeline : Pipeline B) (index : Nat) :
    Action (Progress B) Fault (List Sample) :=
  match pipeline.plan.filters[index]? with
  | none => Action.fail .outOfRange
  | some planned => do
    pipeline.bindInputs index planned.inputs
    Action.report [.rendering pipeline.name planned.path planned.target]
    match (← Action.get).filters[index]?, pipeline.targets[planned.target]? with
    | some filter, some target =>
      onDevice <|
        if pipeline.monitor.isEnabled then renderTimed index planned.path filter target
        else renderUntimed planned.path filter target
    | _, _ => Action.fail .outOfRange

/-- Renders filters one after another and gathers their times. -/
def renderAll (pipeline : Pipeline B) : List Nat → Action (Progress B) Fault (List Sample)
  | [] => pure []
  | index :: rest => do
    let samples ← pipeline.renderFilter index
    let more ← pipeline.renderAll rest
    return samples ++ more

/-- Renders all filters of a pipeline. -/
def renderSchedule : Action (Running B) Fault (List Sample) := fun running =>
  let pipeline := running.pipeline
  let reply := pipeline.renderAll pipeline.plan.schedule ⟨pipeline.filters, running.device⟩
  ⟨⟨{ pipeline with filters := reply.state.filters }, reply.state.device⟩,
    reply.events, reply.result⟩

/-- Records a complete run and releases all inputs. -/
def complete (samples : List Sample) : Action (Running B) Fault Unit := do
  let pipeline := (← Action.get).pipeline
  match pipeline.monitor.record? samples with
  | none => Action.fail .overflow
  | some monitor =>
    Action.modify fun running =>
      { running with pipeline := Pipeline.reset { running.pipeline with monitor } }

/-- Runs a pipeline once. Without a texture for every input it is left alone. -/
def process : Action (Running B) Fault Unit := do
  let pipeline := (← Action.get).pipeline
  if pipeline.inputs.length < pipeline.inputCount then
    Action.fail (.error
      (Cause.tooFewInputs pipeline.name pipeline.inputCount pipeline.inputs.length))
  else
    complete (← renderSchedule)

/-- Runs or resets a pipeline. -/
def run : Command → Action (Running B) Fault Unit
  | .process => process
  | .reset => Action.modify fun running => { running with pipeline := running.pipeline.reset }

end Pipeline

end RenderGraph
