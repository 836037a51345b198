import RenderGraph.Compile
import RenderGraph.Monitor

/-!
# Pipelines

A pipeline is a compiled layout with its filters and render targets. It holds
the textures bound for the next run and looks up outputs, filters and targets
by index, name or path.
-/

namespace RenderGraph

/-- An executable layout. -/
structure Pipeline (B : Backend) where
  /-- The name of the pipeline. -/
  name : String
  /-- The layout it was built from. -/
  layout : Layout B.Descriptor
  /-- The filters, by number. -/
  filters : List B.Filter
  /-- The render targets, by number. -/
  targets : List B.Target
  /-- The execution plan. -/
  plan : Plan
  /-- The textures bound for the next run, in input order. -/
  inputs : List B.Texture
  /-- The timing of runs. -/
  monitor : Monitor

/-- Why a call on a pipeline does not return. -/
inductive Fault where
  /-- It fails with an error. -/
  | error (error : Error)
  /-- It refers to a filter, a target or an input that does not exist. -/
  | outOfRange
  /-- A duration or a count is too large to be represented. -/
  | overflow
  deriving DecidableEq, Repr

namespace Pipeline

variable {B : Backend}

/-- The memory that the filters and render targets hold, in bytes. Like every sum of words it wraps
around. -/
def memoryFootprint (pipeline : Pipeline B) : UInt64 :=
  (pipeline.filters.map B.filterFootprint).foldl (· + ·) 0 +
    (pipeline.targets.map B.targetFootprint).foldl (· + ·) 0

/-- Compiles a layout into a pipeline without bound inputs. -/
def build (name : String) (layout : Layout B.Descriptor) :
    Action B.State Error (Pipeline B) := do
  let compiled ← compile name layout
  let pipeline : Pipeline B :=
    { name
      layout
      filters := compiled.filters
      targets := compiled.targets
      plan := compiled.plan
      inputs := []
      monitor := .off }
  Action.report [.ready name pipeline.memoryFootprint]
  return pipeline

/-- The number of inputs. -/
def inputCount (pipeline : Pipeline B) : Nat :=
  pipeline.layout.inputs.size

/-- Binds a texture to the next free input. -/
def appendInput (pipeline : Pipeline B) (texture : B.Texture) : Except Error (Pipeline B) :=
  if pipeline.inputs.length < pipeline.inputCount then
    .ok { pipeline with inputs := pipeline.inputs ++ [texture] }
  else .error (Cause.tooManyInputs pipeline.name pipeline.inputCount)

/-- An attachment of a render target. A target that does not exist has none. -/
def attachment (pipeline : Pipeline B) (target index : Nat) : Except Error B.Texture :=
  match pipeline.targets[target]?.bind fun found => (B.attachments found)[index]? with
  | some texture => .ok texture
  | none => .error (Cause.noAttachment target index)

/-- The texture of a planned output. -/
def outputTexture (pipeline : Pipeline B) (output : PlannedOutput) : Except Error B.Texture :=
  match output.binding with
  | .attachment target index => pipeline.attachment target index
  | .input _ => .error (Cause.outputNotProduced output.name)

/-- The texture of the output at an index. -/
def output (pipeline : Pipeline B) (index : Nat) : Except Error B.Texture :=
  match pipeline.plan.outputs[index]? with
  | some output => pipeline.outputTexture output
  | none => .error (Cause.noOutput pipeline.name index pipeline.plan.outputs.length)

/-- The texture of the output with a name. -/
def outputByName (pipeline : Pipeline B) (name : String) : Except Error B.Texture :=
  match pipeline.layout.outputs.indexOf? name with
  | some index => pipeline.output index
  | none => .error (Cause.noOutputNamed pipeline.name name)

/-- The textures of all outputs. -/
def outputs (pipeline : Pipeline B) : Except Error (List B.Texture) :=
  pipeline.plan.outputs.mapM pipeline.outputTexture

/-- Binds all outputs of another pipeline to the next free inputs, or none of them. -/
def appendOutputsOf (pipeline provider : Pipeline B) : Except Error (Pipeline B) := do
  let textures ← within (.readingOutputs provider.name) provider.outputs
  if pipeline.inputs.length + textures.length ≤ pipeline.inputCount then
    .ok { pipeline with inputs := pipeline.inputs ++ textures }
  else
    .error (Cause.tooManyOutputs pipeline.name (pipeline.inputCount - pipeline.inputs.length)
      provider.name textures.length)

/-- Unbinds all textures, those held by filters included. -/
def reset (pipeline : Pipeline B) : Pipeline B :=
  { pipeline with inputs := [], filters := pipeline.filters.map B.clearInputs }

/-- The number of the filter with a path. -/
def filterIndex (pipeline : Pipeline B) (path : String) : Except Error Nat :=
  match pipeline.plan.filterIndex? path with
  | some index => .ok index
  | none => .error (Cause.noFilterAt pipeline.name path)

/-- The filter at an index. -/
def filterAt (pipeline : Pipeline B) (index : Nat) : Except Error B.Filter :=
  match pipeline.filters[index]? with
  | some filter => .ok filter
  | none => .error (Cause.noFilter pipeline.name index)

/-- The filter with a path. -/
def filter (pipeline : Pipeline B) (path : String) : Except Error B.Filter := do
  pipeline.filterAt (← pipeline.filterIndex path)

/-- Changes the filter with a path. -/
def modifyFilter (pipeline : Pipeline B) (path : String) (change : B.Filter → B.Filter) :
    Except Error (Pipeline B) := do
  let index ← pipeline.filterIndex path
  return { pipeline with filters := pipeline.filters.modify index change }

/-- The path of the filter at an index. -/
def filterPath (pipeline : Pipeline B) (index : Nat) : Except Error String :=
  match pipeline.plan.filters[index]? with
  | some planned => .ok planned.path
  | none => .error (Cause.noFilter pipeline.name index)

/-- The render target at an index. -/
def target (pipeline : Pipeline B) (index : Nat) : Except Error B.Target :=
  match pipeline.targets[index]? with
  | some target => .ok target
  | none => .error (Cause.noTarget pipeline.name index)

/-- Switches monitoring on. -/
def enableMonitoring (pipeline : Pipeline B) : Pipeline B :=
  { pipeline with monitor := pipeline.monitor.enable pipeline.filters.length }

/-- Switches monitoring off and drops all samples. -/
def disableMonitoring (pipeline : Pipeline B) : Pipeline B :=
  { pipeline with monitor := .off }

/-- The time that the filter with a path took in the last run. -/
def timing (pipeline : Pipeline B) (path : String) : Except Error Duration := do
  pipeline.monitor.last (← pipeline.filterIndex path)

/-- The mean time of the filter with a path. -/
def meanTiming (pipeline : Pipeline B) (path : String) : Except Error Duration := do
  pipeline.monitor.mean (← pipeline.filterIndex path)

/-- The time of the whole last run. -/
def totalTiming (pipeline : Pipeline B) : Except Fault Duration :=
  match pipeline.monitor.collected with
  | .error error => .error (.error error)
  | .ok samples =>
    match Duration.sum? samples.last with
    | some total => .ok total
    | none => .error .overflow

end Pipeline

end RenderGraph
