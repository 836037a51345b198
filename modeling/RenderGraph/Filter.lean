import RenderGraph.Ports

/-!
# Filter descriptions

A filter is the smallest element of a graph: a named type with input and output
ports, and a descriptor that only the device understands.
-/

namespace RenderGraph

/-- The description of one filter. -/
structure FilterSpec (δ : Type) where
  /-- The name of the filter type. -/
  typeName : String
  /-- The ports that receive textures, in binding order. -/
  inputs : Ports
  /-- The ports that provide textures, in attachment order. -/
  outputs : Ports
  /-- What the device needs to instantiate the filter. -/
  descriptor : δ
  deriving DecidableEq, Repr

namespace FilterSpec

variable {δ : Type}

/-- A filter without ports. -/
def empty (typeName : String) (descriptor : δ) : FilterSpec δ :=
  ⟨typeName, {}, {}, descriptor⟩

/-- Appends an input port. -/
def addInput (filter : FilterSpec δ) (name : String) : Except Error (FilterSpec δ) := do
  return { filter with inputs := ← filter.inputs.add name }

/-- Appends an output port. -/
def addOutput (filter : FilterSpec δ) (name : String) : Except Error (FilterSpec δ) := do
  return { filter with outputs := ← filter.outputs.add name }

/-- A filter with the given ports; inputs are declared first. -/
def withPorts (typeName : String) (inputs outputs : List String) (descriptor : δ) :
    Except Error (FilterSpec δ) := do
  let inputs ← Ports.addAll {} inputs
  let outputs ← Ports.addAll {} outputs
  return ⟨typeName, inputs, outputs, descriptor⟩

end FilterSpec

end RenderGraph
