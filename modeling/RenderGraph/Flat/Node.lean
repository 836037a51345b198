import RenderGraph.Connection
import RenderGraph.Error

/-!
# Nodes of a graph that is being flattened

While a layout is flattened its connections may still end at the boundary of a
nested pipeline. Each nested pipeline occupies a slot, and an end at its
boundary is seen either from outside, by a connection of the layout around it,
or from inside, by one of its own connections. The end itself only has a mark,
and ends with different marks are taken to see different sides.
-/

namespace RenderGraph.Flat

/-- An end of a connection during flattening. -/
inductive Node (τ : Type) where
  /-- The boundary of the outermost layout. -/
  | boundary
  /-- The filter with this number. -/
  | filter (index : Nat)
  /-- The boundary of the nested pipeline in this slot, with the mark of the end. -/
  | slot (index : Nat) (mark : τ)
  deriving DecidableEq, Repr

namespace Node

variable {τ : Type}

/-- The slot of a nested pipeline, if the node is one. -/
def slot? : Node τ → Option Nat
  | slot index _ => some index
  | _ => none

/-- Whether two ends see the boundary of the same nested pipeline from different sides. -/
def faces [DecidableEq τ] : Node τ → Node τ → Bool
  | slot index mark, slot other view => index = other && mark ≠ view
  | _, _ => false

/-- The node of a flattened graph. A boundary of a nested pipeline is none. -/
def toAnchor : Node τ → Except Error Anchor
  | boundary => .ok .boundary
  | filter index => .ok (.member index)
  | slot index _ => .error (Cause.slotLeft index)

end Node

end RenderGraph.Flat
