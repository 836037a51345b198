import RenderGraph.Layout.Label

/-!
# Connecting ports

A connection is accepted when both ports exist, its ends are not both the
boundary of the layout, and its destination has no source yet. An output may
be read any number of times. What is refused leaves the layout as it was.
-/

namespace RenderGraph.Layout

variable {δ : Type}

/-- Refuses an end that does not exist. In the role of an output the boundary stands with the
inputs of the layout, and the other way round. -/
def checkEnd (layout : Layout δ) (node : Anchor) (port : Nat) (role : Direction) :
    Except Error Unit :=
  match node, role with
  | .member index, .output => do
    let placed ← layout.element index
    placed.element.outputs.check placed.name .output port
  | .member index, .input => do
    let placed ← layout.element index
    placed.element.inputs.check placed.name .input port
  | .boundary, .output => layout.inputs.check layout.typeName .input port
  | .boundary, .input => layout.outputs.check layout.typeName .output port

/-- Adds a connection. -/
def connect (layout : Layout δ) (c : Connection Anchor) : Except Error (Layout δ) :=
  if c.source = .boundary ∧ c.destination = .boundary then
    .error (Cause.inputToOutput layout.typeName)
  else do
    layout.checkEnd c.source c.sourcePort .output
    layout.checkEnd c.destination c.destinationPort .input
    if (layout.sourceOf? c.destination c.destinationPort).isSome then
      .error (Cause.alreadyConnected (layout.portLabel c.destination c.destinationPort .input))
    else
      .ok { layout with connections := layout.connections ++ [c] }

/-- Connects an input of the layout to an input of an element. -/
def connectToInput (layout : Layout δ) (port destination destinationPort : Nat) :
    Except Error (Layout δ) :=
  layout.connect ⟨.boundary, port, .member destination, destinationPort⟩

/-- Connects an output of an element to an output of the layout. -/
def connectToOutput (layout : Layout δ) (source sourcePort port : Nat) :
    Except Error (Layout δ) :=
  layout.connect ⟨.member source, sourcePort, .boundary, port⟩

/-- The connection between two elements, where elements and ports are given by name. -/
def linkByName (layout : Layout δ) (source sourcePort destination destinationPort : String) :
    Except Error (Connection Anchor) :=
  within (.connecting source sourcePort destination destinationPort) do
    let (src, producer) ← layout.placed source
    let (dst, consumer) ← layout.placed destination
    let srcPort ← producer.element.outputs.find source .output sourcePort
    let dstPort ← consumer.element.inputs.find destination .input destinationPort
    return ⟨.member src, srcPort, .member dst, dstPort⟩

/-- Connects two elements; elements and ports are given by name. -/
def connectByName (layout : Layout δ) (source sourcePort destination destinationPort : String) :
    Except Error (Layout δ) := do
  layout.connect (← layout.linkByName source sourcePort destination destinationPort)

/-- The connection from an input of the layout to an input of an element, where all are given by
name. -/
def inputLinkByName (layout : Layout δ) (port destination destinationPort : String) :
    Except Error (Connection Anchor) :=
  within (.connectingInput port layout.typeName) do
    let index ← layout.inputs.find layout.typeName .input port
    let (dst, consumer) ← layout.placed destination
    let dstPort ← consumer.element.inputs.find destination .input destinationPort
    return ⟨.boundary, index, .member dst, dstPort⟩

/-- Connects an input of the layout to an input of an element; all are given by name. -/
def connectToInputByName (layout : Layout δ) (port destination destinationPort : String) :
    Except Error (Layout δ) := do
  layout.connect (← layout.inputLinkByName port destination destinationPort)

/-- The connection from an output of an element to an output of the layout, where all are given by
name. -/
def outputLinkByName (layout : Layout δ) (source sourcePort port : String) :
    Except Error (Connection Anchor) :=
  within (.connectingOutput port layout.typeName) do
    let index ← layout.outputs.find layout.typeName .output port
    let (src, producer) ← layout.placed source
    let srcPort ← producer.element.outputs.find source .output sourcePort
    return ⟨.member src, srcPort, .boundary, index⟩

/-- Connects an output of an element to an output of the layout; all are given by name. -/
def connectToOutputByName (layout : Layout δ) (source sourcePort port : String) :
    Except Error (Layout δ) := do
  layout.connect (← layout.outputLinkByName source sourcePort port)

end RenderGraph.Layout
