/-!
# Connections

A connection leads from an output port to an input port. Its ends are given by
a node type of choice: the elements of one layout, the filters of a flattened
graph, or the intermediate nodes of flattening itself.
-/

namespace RenderGraph

/-- One end of a connection inside a graph: a member of the graph, or its boundary. -/
inductive Anchor where
  /-- The boundary of the graph that owns the connection. -/
  | boundary
  /-- The member with this index. -/
  | member (index : Nat)
  deriving DecidableEq, Repr

/-- A directed edge between two ports. Seen from inside the graph its boundary is a source at
the graph's inputs and a destination at the graph's outputs. -/
structure Connection (ν : Type) where
  /-- The node that provides the texture. -/
  source : ν
  /-- The port of the source. -/
  sourcePort : Nat
  /-- The node that receives the texture. -/
  destination : ν
  /-- The port of the destination. -/
  destinationPort : Nat
  deriving DecidableEq, Repr

namespace Connection

variable {ν μ : Type}

/-- The connection between the images of both ends. -/
def map (f : ν → μ) (c : Connection ν) : Connection μ :=
  ⟨f c.source, c.sourcePort, f c.destination, c.destinationPort⟩

/-- Whether the connection reads the given port. -/
def reads [DecidableEq ν] (c : Connection ν) (node : ν) (port : Nat) : Bool :=
  c.source = node && c.sourcePort = port

/-- Whether the connection feeds the given port. -/
def feeds [DecidableEq ν] (c : Connection ν) (node : ν) (port : Nat) : Bool :=
  c.destination = node && c.destinationPort = port

end Connection

/-- The first connection that feeds a port. -/
def sourceOf? {ν : Type} [DecidableEq ν] (connections : List (Connection ν)) (node : ν)
    (port : Nat) : Option (Connection ν) :=
  connections.find? fun c => c.feeds node port

/-- Every connection that reads a port. -/
def destinationsOf {ν : Type} [DecidableEq ν] (connections : List (Connection ν)) (node : ν)
    (port : Nat) : List (Connection ν) :=
  connections.filter fun c => c.reads node port

end RenderGraph
