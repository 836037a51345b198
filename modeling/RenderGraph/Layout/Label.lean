import RenderGraph.Layout.Basic

/-!
# Port labels and the text of a layout

How messages call the ports of a layout, and a listing of the whole layout, one
line for each element and each connection.
-/

namespace RenderGraph.Layout

variable {δ : Type}

/-- The name of a node and its ports in one role. A port in the role of an input receives a
texture inside the layout, so the boundary plays that role with the layout's outputs. -/
def portsOf? (layout : Layout δ) (node : Anchor) (role : Direction) :
    Option (String × Ports) :=
  match node, role with
  | .boundary, .input => some (layout.typeName, layout.outputs)
  | .boundary, .output => some (layout.typeName, layout.inputs)
  | .member index, .input =>
    layout.elements[index]?.map fun placed => (placed.name, placed.element.inputs)
  | .member index, .output =>
    layout.elements[index]?.map fun placed => (placed.name, placed.element.outputs)

/-- How messages call a port; what does not exist is called by its index. -/
def portLabel (layout : Layout δ) (node : Anchor) (port : Nat) (role : Direction) : String :=
  match layout.portsOf? node role with
  | some (owner, ports) =>
    match ports.name? port with
    | some name => s!"{owner}::{name}"
    | none => s!"{owner}::#{port}"
  | none =>
    match node with
    | .boundary => s!"#{port}"
    | .member index => s!"#{index}::#{port}"

/-- The label of the source of a port that receives a texture. -/
def describeSource (layout : Layout δ) (node : Anchor) (port : Nat) : Except Error String :=
  match layout.sourceOf? node port with
  | some c => .ok (layout.portLabel c.source c.sourcePort .output)
  | none => .error (Cause.noSource (layout.portLabel node port .input))

/-- The labels of the destinations of a port that provides a texture. -/
def describeDestinations (layout : Layout δ) (node : Anchor) (port : Nat) : List String :=
  (layout.destinationsOf node port).map fun c =>
    layout.portLabel c.destination c.destinationPort .input

/-- The line of a listing for one element. -/
def elementLine (placed : Placed δ) : String :=
  let kind := match placed.element with
    | .filter _ => "filter"
    | .pipeline _ => "pipeline"
  let element := placed.element
  s!"  {kind} {placed.name}: {element.typeName} {element.inputs.text} -> {element.outputs.text}\n"

/-- The line of a listing for one connection. -/
def connectionLine (layout : Layout δ) (c : Connection Anchor) : String :=
  let source := layout.portLabel c.source c.sourcePort .output
  let destination := layout.portLabel c.destination c.destinationPort .input
  s!"  {source} => {destination}\n"

/-- The listing of a layout. -/
def text (layout : Layout δ) : String :=
  s!"pipeline {layout.typeName} {layout.inputs.text} -> {layout.outputs.text}\n" ++
    String.join (layout.elements.map elementLine) ++
    String.join (layout.connections.map layout.connectionLine)

end RenderGraph.Layout
