import RenderGraph.Layout.Connect
import RenderGraph.Event

/-!
# Automatic wiring

Every port that still needs a source is fed by the one port of the same name
that can feed it: for an element input an input of the layout or an output of
another element, for an output of the layout an output of an element. Either
all of them find their source or nothing is connected.
-/

namespace RenderGraph.Layout

variable {δ : Type}

/-- The ports of one node that carry a name. -/
def namesakes (node : Anchor) (ports : Ports) (name : String) : List (Anchor × Nat) :=
  ports.names.zipIdx.filterMap fun (found, port) =>
    if found = name then some (node, port) else none

/-- The ports that provide a texture under a name: inputs of the layout, then outputs of its
elements. -/
def providers (layout : Layout δ) (name : String) : List (Anchor × Nat) :=
  namesakes .boundary layout.inputs name ++
    layout.elements.zipIdx.flatMap fun (placed, index) =>
      namesakes (.member index) placed.element.outputs name

/-- The providers that may feed a node. An element never feeds itself. -/
def candidates (layout : Layout δ) (destination : Anchor) (name : String) :
    List (Anchor × Nat) :=
  (layout.providers name).filter fun (source, _) =>
    source ≠ destination || destination = .boundary

/-- A port that needs a source, with the description a report uses. -/
structure Need where
  /-- The node that the port belongs to. -/
  node : Anchor
  /-- The port. -/
  port : Nat
  /-- Its description. -/
  consumer : Consumer

/-- The ports of one node that no connection feeds. -/
def needsOf (layout : Layout δ) (node : Anchor) (ports : Ports)
    (consumer : String → Consumer) : List Need :=
  ports.names.zipIdx.filterMap fun (name, port) =>
    if (layout.sourceOf? node port).isSome then none else some ⟨node, port, consumer name⟩

/-- The ports that no connection feeds: inputs of the elements, then outputs of the layout. -/
def needs (layout : Layout δ) : List Need :=
  (layout.elements.zipIdx.flatMap fun (placed, index) =>
    layout.needsOf (.member index) placed.element.inputs (.elementInput placed.name)) ++
  layout.needsOf .boundary layout.outputs .boundaryOutput

/-- The connection that feeds a port in need, or why there is none. -/
def resolve (layout : Layout δ) (need : Need) : Except WiringProblem (Connection Anchor) :=
  match layout.candidates need.node need.consumer.port with
  | [] => .error (.noCandidate need.consumer)
  | [(source, port)] =>
    if source = .boundary ∧ need.node = .boundary then .error (.onlyBoundaryInput need.consumer)
    else .ok ⟨source, port, need.node, need.port⟩
  | several => .error (.ambiguous several.length need.consumer)

/-- The problem of a result, if it has one. -/
def problem? (result : Except WiringProblem (Connection Anchor)) : Option WiringProblem :=
  match result with
  | .ok _ => none
  | .error problem => some problem

/-- Feeds every port that has no source by the only port of its name. -/
def autoConnect (layout : Layout δ) : Except Error (Layout δ) :=
  let results := layout.needs.map layout.resolve
  let problems := results.filterMap problem?
  if problems.isEmpty then
    .ok { layout with connections := layout.connections ++ results.filterMap Except.toOption }
  else
    .error (Cause.autoConnect layout.typeName problems)

/-- What is reported when automatic wiring turns one layout into another. -/
def autoConnectEvent (before after : Layout δ) : Event :=
  .autoConnected before.typeName (after.connections.length - before.connections.length)

end RenderGraph.Layout
