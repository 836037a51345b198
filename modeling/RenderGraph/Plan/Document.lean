import RenderGraph.Plan.Basic
import RenderGraph.Json.Printer

/-!
# Plans as documents

The JSON form of a plan and of the connections of a layout. The boundary of a
graph is a string, a member an object with its number; a binding names its kind
first.
-/

namespace RenderGraph

open Schedule (Binding)

/-- How a document names the ends of connections. -/
structure AnchorNames where
  /-- The boundary. -/
  boundary : String
  /-- The key in front of the number of a member. -/
  member : String

/-- The names in a plan, whose members are filters. -/
def Plan.anchorNames : AnchorNames := ⟨"this_pipeline", "filter"⟩

/-- The names in a layout, whose members are elements. -/
def Layout.anchorNames : AnchorNames := ⟨"ThisPipeline", "Element"⟩

/-- An end of a connection. -/
def Anchor.toJson (names : AnchorNames) : Anchor → Json
  | boundary => .text names.boundary
  | member index => .object [(names.member, .natural index)]

/-- A connection. -/
def Connection.toJson (names : AnchorNames) (c : Connection Anchor) : Json :=
  .object [
    ("source", c.source.toJson names),
    ("source_port", .natural c.sourcePort),
    ("destination", c.destination.toJson names),
    ("destination_port", .natural c.destinationPort)]

/-- The source of a texture. -/
def Schedule.Binding.toJson : Binding → Json
  | .input port => .object [("kind", .text "pipeline_input"), ("port", .natural port)]
  | .attachment target index =>
    .object [("kind", .text "target"), ("target", .natural target),
      ("attachment", .natural index)]

/-- A filter of a plan. -/
def PlannedFilter.toJson (filter : PlannedFilter) : Json :=
  .object [
    ("index", .natural filter.index),
    ("path", .text filter.path),
    ("type_name", .text filter.typeName),
    ("target", .natural filter.target),
    ("inputs", .array (filter.inputs.map Schedule.Binding.toJson))]

/-- A render target of a plan. -/
def PlannedTarget.toJson (target : PlannedTarget) : Json :=
  .object [
    ("id", .natural target.id),
    ("format", .text target.format),
    ("attachments", .natural target.attachments),
    ("users", .naturals target.users)]

/-- An output of a plan. -/
def PlannedOutput.toJson (output : PlannedOutput) : Json :=
  .object [("name", .text output.name), ("binding", output.binding.toJson)]

/-- A whole plan. -/
def Plan.toJson (plan : Plan) : Json :=
  .object [
    ("name", .text plan.name),
    ("filters", .array (plan.filters.map PlannedFilter.toJson)),
    ("schedule", .naturals plan.schedule),
    ("targets", .array (plan.targets.map PlannedTarget.toJson)),
    ("connections", .array (plan.connections.map (Connection.toJson anchorNames))),
    ("inputs", .texts plan.inputs),
    ("outputs", .array (plan.outputs.map PlannedOutput.toJson))]

/-- The text of a plan. -/
def Plan.text (plan : Plan) : String :=
  plan.toJson.pretty

end RenderGraph
