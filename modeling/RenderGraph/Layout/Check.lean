import RenderGraph.Layout.Label

/-!
# Checking a layout

A layout is complete when every input of an element and every output of the
layout has a source, and every output of an element and every input of the
layout has a destination, in the layout itself and in every nested one. The
check lists what is missing, one line for each port.
-/

namespace RenderGraph.Layout

variable {δ : Type}

/-- The ports of a list that fail a test, in port order, each turned into a finding. -/
def failing (ports : Ports) (met : Nat → Bool) (finding : String → Diagnostic) :
    List Diagnostic :=
  ports.names.zipIdx.filterMap fun (name, port) =>
    if met port then none else some (finding name)

/-- Whether a connection of the list feeds a port. -/
def isFed (connections : List (Connection Anchor)) (node : Anchor) (port : Nat) : Bool :=
  (RenderGraph.sourceOf? connections node port).isSome

/-- Whether a connection of the list reads a port. -/
def isRead (connections : List (Connection Anchor)) (node : Anchor) (port : Nat) : Bool :=
  !(RenderGraph.destinationsOf connections node port).isEmpty

/-- The findings on the ports of one element. -/
def elementFindings (connections : List (Connection Anchor)) (path : String) (index : Nat)
    (inputs outputs : Ports) : List Diagnostic :=
  failing inputs (isFed connections (.member index)) (.inputWithoutSource path) ++
    failing outputs (isRead connections (.member index)) (.outputNotConnected path)

/-- The findings on the ports of the layout itself. -/
def boundaryFindings (connections : List (Connection Anchor)) (owner : String)
    (inputs outputs : Ports) : List Diagnostic :=
  failing outputs (isFed connections .boundary) (.boundaryOutputWithoutSource owner) ++
    failing inputs (isRead connections .boundary) (.boundaryInputNotConnected owner)

mutual

/-- The findings on a layout. The lead is the path of the layout with a separator behind it, or
empty for the outermost one, which is then called by its type. -/
def findings (lead : String) : Layout δ → List Diagnostic
  | ⟨typeName, inputs, outputs, elements, connections⟩ =>
    let owner := if lead.isEmpty then typeName else Path.trimEnd lead
    elementsFindings lead connections 0 elements ++
      boundaryFindings connections owner inputs outputs

/-- The findings on the elements of a layout from an index on; those inside a nested layout
follow those on its ports. -/
def elementsFindings (lead : String) (connections : List (Connection Anchor)) (index : Nat) :
    List (Placed δ) → List Diagnostic
  | [] => []
  | ⟨name, .filter spec⟩ :: rest =>
    elementFindings connections (lead ++ name) index spec.inputs spec.outputs ++
      elementsFindings lead connections (index + 1) rest
  | ⟨name, .pipeline nested⟩ :: rest =>
    elementFindings connections (lead ++ name) index nested.inputs nested.outputs ++
      nested.findings (lead ++ name ++ Path.separator) ++
      elementsFindings lead connections (index + 1) rest

end

/-- Everything that is missing in a layout. -/
def diagnostics (layout : Layout δ) : List Diagnostic :=
  layout.findings ""

/-- The findings, or a failure that lists them if asked to raise one. -/
def check (layout : Layout δ) (raise : Bool) : Except Error (List Diagnostic) :=
  let found := layout.diagnostics
  if raise ∧ found ≠ [] then .error (Cause.invalidLayout layout.typeName found)
  else .ok found

end RenderGraph.Layout
