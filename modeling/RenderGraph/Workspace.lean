import RenderGraph.Pipeline.Process

/-!
# Workspaces

Layouts, pipelines and external textures under names of their own, and the one
device they share. A name stands for the last thing that was given it.
-/

namespace RenderGraph

/-- Things under names, the latest first. -/
abbrev Table (α : Type) := List (String × α)

/-- Gives a name to a thing; what had the name before is dropped. -/
def Table.insert {α : Type} (table : Table α) (name : String) (a : α) : Table α :=
  (name, a) :: table.filter fun entry => entry.1 != name

/-- Named things on one device. -/
structure Workspace (B : Backend) where
  /-- The state of the device. -/
  device : B.State
  /-- The layouts. -/
  layouts : Table (Layout B.Descriptor)
  /-- The pipelines. -/
  pipelines : Table (Pipeline B)
  /-- The external textures. -/
  textures : Table B.Texture

namespace Workspace

variable {B : Backend}

/-- A workspace without anything on a device. -/
def new (device : B.State) : Workspace B :=
  ⟨device, [], [], []⟩

/-- Names a layout. -/
def addLayout (workspace : Workspace B) (name : String) (layout : Layout B.Descriptor) :
    Workspace B :=
  { workspace with layouts := Table.insert workspace.layouts name layout }

/-- Names a pipeline. -/
def addPipeline (workspace : Workspace B) (name : String) (pipeline : Pipeline B) :
    Workspace B :=
  { workspace with pipelines := Table.insert workspace.pipelines name pipeline }

/-- Names a texture. -/
def addTexture (workspace : Workspace B) (name : String) (texture : B.Texture) : Workspace B :=
  { workspace with textures := Table.insert workspace.textures name texture }

/-- Runs an action of the device. -/
def onDevice {ε α : Type} : Action B.State ε α → Action (Workspace B) ε α :=
  Action.zoom Workspace.device fun device workspace => { workspace with device }

/-- Builds a pipeline from a layout and names it, unless the build fails. -/
def build (key name : String) (layout : Layout B.Descriptor) :
    Action (Workspace B) Error (Pipeline B) := do
  let pipeline ← onDevice (Pipeline.build name layout)
  Action.modify fun workspace => workspace.addPipeline key pipeline
  return pipeline

/-- Runs or resets a pipeline and keeps what is left of it under a name. -/
def run (command : Command) (key : String) (pipeline : Pipeline B) :
    Action (Workspace B) Fault Unit :=
  Action.zoom (fun workspace => (⟨pipeline, workspace.device⟩ : Running B))
    (fun running workspace =>
      { workspace.addPipeline key running.pipeline with device := running.device })
    (Pipeline.run command)

/-- Runs a pipeline once and keeps what the run leaves of it under a name. -/
def process (key : String) (pipeline : Pipeline B) : Action (Workspace B) Fault Unit :=
  run .process key pipeline

end Workspace

end RenderGraph
