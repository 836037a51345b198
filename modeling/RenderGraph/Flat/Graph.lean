import RenderGraph.Flat.Merge
import RenderGraph.Layout.Basic
import RenderGraph.Event

/-!
# Flattening nested layouts

A nested layout cannot be executed as it is. Flattening visits the outermost
layout, then every nested one breadth first. Filters are numbered in the order
they are met, nested layouts get slots the same way, and every connection is
written down between these numbers. Merging then removes the slots.
-/

namespace RenderGraph.Flat

variable {δ : Type}

/-- A filter with its full path. -/
structure Filter (δ : Type) where
  /-- The path from the outermost layout. -/
  path : String
  /-- The filter itself. -/
  spec : FilterSpec δ

/-- A flattened graph. -/
structure Graph (δ : Type) where
  /-- The filters of all levels; their positions are their numbers. -/
  filters : List (Filter δ)
  /-- The connections between filters and with the boundary of the outermost layout. -/
  connections : List (Connection Anchor)

/-- A layout that waits to be visited. -/
structure Pending (δ : Type) where
  /-- The layout. -/
  layout : Layout δ
  /-- Its slot. The outermost layout has none. -/
  slot : Option Nat
  /-- What stands before the names of its elements in a path. -/
  lead : String

/-- What has been found so far. -/
structure Found (δ : Type) where
  /-- The filters, by number. -/
  filters : List (Filter δ)
  /-- The paths of the nested layouts, by slot. -/
  slots : List String
  /-- The connections of the visited layouts. Their ends are marked with the number of the visit. -/
  links : List (Link Nat)
  /-- The number of visits. -/
  visits : Nat

/-- The filters among the elements of a layout. -/
def filtersOf (lead : String) : List (Placed δ) → List (Filter δ)
  | [] => []
  | ⟨name, .filter spec⟩ :: rest => ⟨lead ++ name, spec⟩ :: filtersOf lead rest
  | ⟨_, .pipeline _⟩ :: rest => filtersOf lead rest

/-- The nested layouts among the elements of a layout, in slots from a number on. -/
def nestedOf (lead : String) (slot : Nat) : List (Placed δ) → List (Pending δ)
  | [] => []
  | ⟨_, .filter _⟩ :: rest => nestedOf lead slot rest
  | ⟨name, .pipeline layout⟩ :: rest =>
    ⟨layout, some slot, lead ++ name ++ Path.separator⟩ :: nestedOf lead (slot + 1) rest

/-- The paths of the nested layouts among the elements of a layout. -/
def slotsOf (lead : String) : List (Placed δ) → List String
  | [] => []
  | ⟨_, .filter _⟩ :: rest => slotsOf lead rest
  | ⟨name, .pipeline _⟩ :: rest => (lead ++ name) :: slotsOf lead rest

/-- The nodes of the elements of a layout, when filters and slots are numbered from the given
numbers on. -/
def nodesOf (visit filter slot : Nat) : List (Placed δ) → List (Node Nat)
  | [] => []
  | ⟨_, .filter _⟩ :: rest => .filter filter :: nodesOf visit (filter + 1) slot rest
  | ⟨_, .pipeline _⟩ :: rest => .slot slot visit :: nodesOf visit filter (slot + 1) rest

/-- The node at an end of a connection of a layout, whose own boundary is the first argument.
An element that does not exist is read as the boundary; connecting ports never names one. -/
def nodeAt (own : Node Nat) (nodes : List (Node Nat)) : Anchor → Node Nat
  | .boundary => own
  | .member index => nodes[index]?.getD own

/-- The connections of a layout between numbered nodes. -/
def linksOf (own : Node Nat) (nodes : List (Node Nat)) (connections : List (Connection Anchor)) :
    List (Link Nat) :=
  connections.map fun c => c.map (nodeAt own nodes)

/-- The boundary of a layout in the visit with a number. -/
def Pending.boundary (pending : Pending δ) (visit : Nat) : Node Nat :=
  pending.slot.elim .boundary fun slot => .slot slot visit

namespace Found

/-- Nothing yet. -/
def none : Found δ := ⟨[], [], [], 0⟩

/-- Adds what one layout contains. -/
def visit (found : Found δ) (pending : Pending δ) : Found δ :=
  let elements := pending.layout.elements
  let nodes := nodesOf found.visits found.filters.length found.slots.length elements
  { filters := found.filters ++ filtersOf pending.lead elements
    slots := found.slots ++ slotsOf pending.lead elements
    links := found.links ++
      linksOf (pending.boundary found.visits) nodes pending.layout.connections
    visits := found.visits + 1 }

end Found

mutual

/-- The number of layouts in a layout, itself included. -/
def occurrences : Layout δ → Nat
  | ⟨_, _, _, elements, _⟩ => 1 + occurrencesIn elements

/-- The number of layouts in a list of elements. -/
def occurrencesIn : List (Placed δ) → Nat
  | [] => 0
  | ⟨_, .filter _⟩ :: rest => occurrencesIn rest
  | ⟨_, .pipeline layout⟩ :: rest => occurrences layout + occurrencesIn rest

end

/-- The number of layouts that are still to be visited. -/
def workload : List (Pending δ) → Nat
  | [] => 0
  | pending :: queue => occurrences pending.layout + workload queue

/-- The layouts of two queues add up. -/
theorem workload_append (queue more : List (Pending δ)) :
    workload (queue ++ more) = workload queue + workload more := by
  induction queue with
  | nil => simp [workload]
  | cons pending queue ih =>
    simp only [List.cons_append, workload, ih]
    omega

/-- A layout counts itself and what its elements contain. -/
theorem occurrences_eq (layout : Layout δ) :
    occurrences layout = 1 + occurrencesIn layout.elements := by
  cases layout
  rfl

/-- The nested layouts of a list of elements hold all layouts in it. -/
theorem workload_nestedOf (lead : String) (slot : Nat) (elements : List (Placed δ)) :
    workload (nestedOf lead slot elements) = occurrencesIn elements := by
  fun_induction nestedOf lead slot elements with
  | case1 => rfl
  | case2 slot _ _ rest ih => simpa [occurrencesIn] using ih
  | case3 slot name layout rest ih =>
    simp only [workload, occurrencesIn, ih]

/-- Visits the layouts of a queue; nested ones are put behind all others. -/
def explore (found : Found δ) : List (Pending δ) → Found δ
  | [] => found
  | pending :: queue =>
    let nested := nestedOf pending.lead found.slots.length pending.layout.elements
    explore (found.visit pending) (queue ++ nested)
termination_by queue => workload queue
decreasing_by
  have h := workload_nestedOf pending.lead found.slots.length pending.layout.elements
  have := occurrences_eq pending.layout
  simp only [workload, workload_append]
  omega

/-- Everything in a layout. -/
def survey (layout : Layout δ) : Found δ :=
  explore .none [⟨layout, none, ""⟩]

/-- What flattening a layout reports. -/
def surveyEvent (layout : Layout δ) : Event :=
  let found := survey layout
  .flattened layout.typeName found.filters.length found.slots.length found.links.length

/-- The paths of slots, for a message. -/
def slotPaths (slots : List String) (indices : List Nat) : List String :=
  indices.filterMap fun index => slots[index]?

/-- A connection of the flattened graph. -/
def toConnection {τ : Type} (link : Link τ) : Except Error (Connection Anchor) := do
  let source ← link.source.toAnchor
  let destination ← link.destination.toAnchor
  return ⟨source, link.sourcePort, destination, link.destinationPort⟩

/-- The connections that remain after merging. -/
def connectionsOf (found : Found δ) : Except Error (List (Connection Anchor)) :=
  match merge found.links with
  | .error stuck => .error (Cause.stuckMerging (slotPaths found.slots stuck))
  | .ok links => links.mapM toConnection

/-- Flattens a layout. -/
def flatten (layout : Layout δ) : Except Error (Graph δ) := do
  let found := survey layout
  return ⟨found.filters, ← connectionsOf found⟩

end RenderGraph.Flat
