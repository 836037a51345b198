import RenderGraph.Filter
import RenderGraph.Connection

/-!
# Layouts

A layout describes a graph of filters as plain data: its own ports, its
elements under unique names, and the connections between them. An element is a
filter or a layout again, so layouts nest to any depth; a nested layout is held
by value, and the layout it was copied from can change freely.
-/

namespace RenderGraph

mutual

/-- A graph of filters and nested layouts, with ports of its own. -/
structure Layout (δ : Type) where
  /-- The name of the layout type. -/
  typeName : String
  /-- The ports through which textures enter. -/
  inputs : Ports
  /-- The ports through which textures leave. -/
  outputs : Ports
  /-- The elements, in the order they were added. -/
  elements : List (Placed δ)
  /-- The connections, in the order they were made. -/
  connections : List (Connection Anchor)

/-- What stands at one place of a layout. -/
inductive Element (δ : Type) where
  /-- A filter. -/
  | filter (spec : FilterSpec δ)
  /-- A nested layout. -/
  | pipeline (layout : Layout δ)

/-- An element under its name in a layout. -/
structure Placed (δ : Type) where
  /-- The name, unique in the layout. -/
  name : String
  /-- The element itself. -/
  element : Element δ

end

namespace Element

variable {δ : Type}

/-- The name of the element's type. -/
def typeName : Element δ → String
  | filter spec => spec.typeName
  | pipeline layout => layout.typeName

/-- The input ports of the element. -/
def inputs : Element δ → Ports
  | filter spec => spec.inputs
  | pipeline layout => layout.inputs

/-- The output ports of the element. -/
def outputs : Element δ → Ports
  | filter spec => spec.outputs
  | pipeline layout => layout.outputs

/-- The filter, if the element is one. -/
def asFilter? : Element δ → Option (FilterSpec δ)
  | filter spec => some spec
  | pipeline _ => none

/-- The nested layout, if the element is one. -/
def asPipeline? : Element δ → Option (Layout δ)
  | filter _ => none
  | pipeline layout => some layout

end Element

namespace Layout

variable {δ : Type}

/-- A layout without ports and elements. -/
def empty (typeName : String) : Layout δ :=
  ⟨typeName, {}, {}, [], []⟩

/-- The number of elements. -/
def size (layout : Layout δ) : Nat :=
  layout.elements.length

/-- Appends an input port. -/
def addInput (layout : Layout δ) (name : String) : Except Error (Layout δ) :=
  within (.inLayout layout.typeName) do
    return { layout with inputs := ← layout.inputs.add name }

/-- Appends an output port. -/
def addOutput (layout : Layout δ) (name : String) : Except Error (Layout δ) :=
  within (.inLayout layout.typeName) do
    return { layout with outputs := ← layout.outputs.add name }

/-- Appends an element, whose index is the former number of elements. A name that cannot stand
in a path or is taken is refused. -/
def add (layout : Layout δ) (name : String) (element : Element δ) :
    Except Error (Layout δ) := do
  checkName .element name
  if layout.elements.any (fun placed => placed.name = name) then
    .error (Cause.elementExists name layout.typeName)
  else
    .ok { layout with elements := layout.elements ++ [⟨name, element⟩] }

/-- The element at an index, which has to exist. -/
def element (layout : Layout δ) (index : Nat) : Except Error (Placed δ) :=
  match layout.elements[index]? with
  | some placed => .ok placed
  | none => .error (Cause.noElement layout.typeName index layout.size)

/-- The element with a name and its index, if there is one. -/
def placed? (layout : Layout δ) (name : String) : Option (Nat × Placed δ) :=
  layout.elements.zipIdx.findSome? fun (placed, index) =>
    if placed.name = name then some (index, placed) else none

/-- The element with a name and its index, which has to exist. -/
def placed (layout : Layout δ) (name : String) : Except Error (Nat × Placed δ) :=
  match layout.placed? name with
  | some found => .ok found
  | none => .error (Cause.noElementNamed layout.typeName name)

/-- The index of the element with a name, which has to exist. -/
def elementIndex (layout : Layout δ) (name : String) : Except Error Nat :=
  (layout.placed name).map Prod.fst

/-- Follows the components of a path through nested layouts. -/
def follow (path : String) (layout : Layout δ) : List String → Except Error (Element δ)
  | [] => .error (Cause.invalidPath path)
  | [name] => do return (← layout.placed name).2.element
  | name :: rest => do
    match (← layout.placed name).2.element with
    | .filter _ => .error (Cause.filterInPath name path)
    | .pipeline nested => nested.follow path rest

/-- The element that a path names. -/
def elementByPath (layout : Layout δ) (path : String) : Except Error (Element δ) := do
  layout.follow path (← splitPath path)

/-- The connection that feeds a port: an input of an element, or an output of the layout. -/
def sourceOf? (layout : Layout δ) (node : Anchor) (port : Nat) : Option (Connection Anchor) :=
  RenderGraph.sourceOf? layout.connections node port

/-- The connections that read a port: an output of an element, or an input of the layout. -/
def destinationsOf (layout : Layout δ) (node : Anchor) (port : Nat) :
    List (Connection Anchor) :=
  RenderGraph.destinationsOf layout.connections node port

mutual

/-- Whether two layouts agree in everything, nested layouts included. -/
def same [DecidableEq δ] : Layout δ → Layout δ → Bool
  | ⟨typeName, inputs, outputs, elements, connections⟩,
    ⟨typeName', inputs', outputs', elements', connections'⟩ =>
    typeName = typeName' && inputs = inputs' && outputs = outputs' &&
      connections = connections' && sameElements elements elements'

/-- Whether two lists of elements agree in everything. -/
def sameElements [DecidableEq δ] : List (Placed δ) → List (Placed δ) → Bool
  | [], [] => true
  | ⟨name, .filter spec⟩ :: rest, ⟨name', .filter spec'⟩ :: rest' =>
    name = name' && spec = spec' && sameElements rest rest'
  | ⟨name, .pipeline layout⟩ :: rest, ⟨name', .pipeline layout'⟩ :: rest' =>
    name = name' && layout.same layout' && sameElements rest rest'
  | _, _ => false

end

mutual

/-- Agreement in everything is equality. -/
theorem same_iff [DecidableEq δ] : ∀ a b : Layout δ, a.same b = true ↔ a = b
  | ⟨_, _, _, elements, _⟩, ⟨_, _, _, elements', _⟩ => by
    have := sameElements_iff elements elements'
    simp only [same, Bool.and_eq_true, decide_eq_true_eq, this, mk.injEq]
    grind

/-- Agreement of all elements is equality. -/
theorem sameElements_iff [DecidableEq δ] :
    ∀ a b : List (Placed δ), sameElements a b = true ↔ a = b
  | [], [] => by simp [sameElements]
  | ⟨name, .filter spec⟩ :: rest, ⟨name', .filter spec'⟩ :: rest' => by
    have := sameElements_iff rest rest'
    simp [sameElements, this]
  | ⟨name, .pipeline layout⟩ :: rest, ⟨name', .pipeline layout'⟩ :: rest' => by
    have := sameElements_iff rest rest'
    have := same_iff layout layout'
    simp [sameElements, *]
  | ⟨_, .filter _⟩ :: _, ⟨_, .pipeline _⟩ :: _ => by simp [sameElements]
  | ⟨_, .pipeline _⟩ :: _, ⟨_, .filter _⟩ :: _ => by simp [sameElements]
  | [], _ :: _ => by simp [sameElements]
  | _ :: _, [] => by simp [sameElements]

end

/-- Layouts can be compared. -/
instance [DecidableEq δ] : DecidableEq (Layout δ) := fun a b =>
  decidable_of_iff _ (same_iff a b)

end Layout

end RenderGraph
