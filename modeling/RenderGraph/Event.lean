import RenderGraph.Json.Value

/-!
# Events

What the library reports while it works: the steps of a build, each render, and
what the device does. An event has a level, a message and named fields.
-/

namespace RenderGraph

/-- How much an event matters. -/
inductive Level where
  /-- A result worth telling the user. -/
  | info
  /-- A decision on the way. -/
  | debug
  /-- A repeated action. -/
  | trace
  deriving DecidableEq, Repr

/-- The name of a level. -/
def Level.text : Level → String
  | info => "info"
  | debug => "debug"
  | trace => "trace"

/-- Something that is reported. -/
inductive Event where
  /-- A layout was flattened; connections are counted before merging. -/
  | flattened (layout : String) (filters nested connections : Nat)
  /-- A new render target is planned. -/
  | planningTarget (target : Nat) (format : String) (attachments : Nat)
  /-- A planned render target needs more attachments. -/
  | growingTarget (target before after : Nat)
  /-- A filter has its place in the order and its target. -/
  | scheduled (filter : String) (target : Nat)
  /-- A pipeline was compiled. -/
  | compiled (pipeline : String) (filters targets connections : Nat)
  /-- A pipeline can be run. -/
  | ready (pipeline : String) (footprint : Nat)
  /-- A filter is about to be rendered. -/
  | rendering (pipeline filter : String) (target : Nat)
  /-- Automatic wiring added connections. -/
  | autoConnected (layout : String) (connections : Nat)
  /-- A device created a filter. -/
  | createdFilter (type : String) (inputs outputs : Nat) (format : String)
  /-- A device allocates a render target. -/
  | allocatingTarget (target : Nat) (format : String) (attachments : Nat)
  deriving DecidableEq, Repr

namespace Event

/-- The level of an event. -/
def level : Event → Level
  | compiled .. | ready .. => .info
  | rendering .. => .trace
  | _ => .debug

/-- The message of an event. -/
def message : Event → String
  | flattened layout _ _ _ => s!"flattened pipeline layout '{layout}'"
  | planningTarget .. => "planning new render target"
  | growingTarget .. => "growing render target"
  | scheduled .. => "scheduled filter"
  | compiled .. => "compiled pipeline"
  | ready .. => "pipeline ready"
  | rendering .. => "rendering filter"
  | autoConnected .. => "auto-connected ports"
  | createdFilter .. => "created compute filter"
  | allocatingTarget .. => "allocating render target"

/-- The fields of an event. -/
def fields : Event → List (String × Json)
  | flattened _ filters nested connections =>
    [("filters", .natural filters), ("nested", .natural nested),
      ("connections", .natural connections)]
  | planningTarget target format attachments =>
    [("render_target", .natural target), ("format", .text format),
      ("attachments", .natural attachments)]
  | growingTarget target before after =>
    [("render_target", .natural target), ("from", .natural before), ("to", .natural after)]
  | scheduled filter target => [("filter", .text filter), ("render_target", .natural target)]
  | compiled pipeline filters targets connections =>
    [("pipeline", .text pipeline), ("filters", .natural filters), ("targets", .natural targets),
      ("connections", .natural connections)]
  | ready pipeline footprint =>
    [("pipeline", .text pipeline), ("footprint", .natural footprint)]
  | rendering pipeline filter target =>
    [("pipeline", .text pipeline), ("filter", .text filter), ("render_target", .natural target)]
  | autoConnected layout connections =>
    [("layout", .text layout), ("connections", .natural connections)]
  | createdFilter type inputs outputs format =>
    [("filter", .text type), ("inputs", .natural inputs), ("outputs", .natural outputs),
      ("format", .text format)]
  | allocatingTarget target format attachments =>
    [("render_target", .natural target), ("format", .text format),
      ("attachments", .natural attachments)]

/-- The event as an object: its fields, its level and its message. -/
def toJson (event : Event) : Json :=
  .object (event.fields ++
    [("level", .text event.level.text), ("message", .text event.message)])

end Event

end RenderGraph
