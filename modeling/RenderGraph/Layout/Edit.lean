import RenderGraph.Action
import RenderGraph.Layout.AutoConnect

/-!
# Editing a layout in place

The operations on a layout as they change the one that is there. An operation
reads the layout and checks what it is asked to do; only then does it write, and
what it writes stays written.
-/

namespace RenderGraph

variable {δ : Type}

/-- The operations that change a layout. -/
inductive Edit (δ : Type) where
  /-- An input port is declared. -/
  | addInput (name : String)
  /-- An output port is declared. -/
  | addOutput (name : String)
  /-- A filter is added. -/
  | addFilter (name : String) (spec : FilterSpec δ)
  /-- A copy of a layout is added. -/
  | addPipeline (name : String) (nested : Layout δ)
  /-- Two ports are connected. -/
  | connect (c : Connection Anchor)
  /-- Ports of two elements are connected by name. -/
  | connectByName (source sourcePort destination destinationPort : String)
  /-- An input of the layout is connected. -/
  | connectToInput (port destination destinationPort : Nat)
  /-- An input of the layout is connected by name. -/
  | connectToInputByName (port destination destinationPort : String)
  /-- An output of the layout is connected. -/
  | connectToOutput (source sourcePort port : Nat)
  /-- An output of the layout is connected by name. -/
  | connectToOutputByName (source sourcePort port : String)
  /-- All ports without a source are connected at once. -/
  | autoConnect

/-- Writes another port behind those that are there. -/
def Ports.declare (name : String) : Action Ports Error Unit := do
  Action.ofExcept (checkName .port name)
  if name ∈ (← Action.get).names then Action.fail (Cause.portDeclared name)
  else Action.modify fun ports => ⟨ports.names ++ [name]⟩

namespace Layout

/-- Writes another input port. -/
def declareInput (name : String) : Action (Layout δ) Error Unit := do
  let layout ← Action.get
  (Action.zoom Layout.inputs (fun inputs layout => { layout with inputs })
    (Ports.declare name)).mapError (Error.within (.inLayout layout.typeName))

/-- Writes another output port. -/
def declareOutput (name : String) : Action (Layout δ) Error Unit := do
  let layout ← Action.get
  (Action.zoom Layout.outputs (fun outputs layout => { layout with outputs })
    (Ports.declare name)).mapError (Error.within (.inLayout layout.typeName))

/-- Writes another element. -/
def place (name : String) (element : Element δ) : Action (Layout δ) Error Unit := do
  Action.ofExcept (checkName .element name)
  let layout ← Action.get
  if layout.elements.any (fun placed => placed.name = name) then
    Action.fail (Cause.elementExists name layout.typeName)
  else
    Action.modify fun layout => { layout with elements := layout.elements ++ [⟨name, element⟩] }

/-- Writes another connection. -/
def join (c : Connection Anchor) : Action (Layout δ) Error Unit := do
  let layout ← Action.get
  if c.source = .boundary ∧ c.destination = .boundary then
    Action.fail (Cause.inputToOutput layout.typeName)
  else do
    Action.ofExcept (layout.checkEnd c.source c.sourcePort .output)
    Action.ofExcept (layout.checkEnd c.destination c.destinationPort .input)
    if (layout.sourceOf? c.destination c.destinationPort).isSome then
      Action.fail
        (Cause.alreadyConnected (layout.portLabel c.destination c.destinationPort .input))
    else
      Action.modify fun layout => { layout with connections := layout.connections ++ [c] }

/-- Looks up the ends of a connection and writes it. -/
def joinFound (find : Layout δ → Except Error (Connection Anchor)) :
    Action (Layout δ) Error Unit := do
  join (← Action.ofExcept (find (← Action.get)))

/-- Writes a connection into every port without a source, unless one of them has a problem. -/
def joinAll : Action (Layout δ) Error Unit := do
  let layout ← Action.get
  let results := layout.needs.map layout.resolve
  let problems := results.filterMap problem?
  if problems.isEmpty then do
    let pending := results.filterMap Except.toOption
    Action.report [.autoConnected layout.typeName pending.length]
    Action.modify fun layout => { layout with connections := layout.connections ++ pending }
  else Action.fail (Cause.autoConnect layout.typeName problems)

end Layout

/-- Performs an operation on the layout that is there. -/
def Edit.perform : Edit δ → Action (Layout δ) Error Unit
  | addInput name => Layout.declareInput name
  | addOutput name => Layout.declareOutput name
  | addFilter name spec => Layout.place name (.filter spec)
  | addPipeline name nested => Layout.place name (.pipeline nested)
  | connect c => Layout.join c
  | connectByName source sourcePort destination destinationPort =>
    Layout.joinFound fun layout =>
      layout.linkByName source sourcePort destination destinationPort
  | connectToInput port destination destinationPort =>
    Layout.join ⟨.boundary, port, .member destination, destinationPort⟩
  | connectToInputByName port destination destinationPort =>
    Layout.joinFound fun layout => layout.inputLinkByName port destination destinationPort
  | connectToOutput source sourcePort port =>
    Layout.join ⟨.member source, sourcePort, .boundary, port⟩
  | connectToOutputByName source sourcePort port =>
    Layout.joinFound fun layout => layout.outputLinkByName source sourcePort port
  | autoConnect => Layout.joinAll

end RenderGraph
