import RenderGraph.Flat.Node

/-!
# Splicing connections through nested pipelines

A connection that ends at the boundary of a nested pipeline is continued by the
connections that leave the same port on the other side. Splicing replaces the
one and the others by direct connections, one for each continuation. It is
repeated until no connection touches a nested pipeline; when a whole scan over
the list splices nothing although one still does, merging is stuck.

Every splice makes the list shorter by one, so the loops end.
-/

namespace RenderGraph.Flat

/-- A connection during flattening. -/
abbrev Link (τ : Type) := Connection (Node τ)

variable {τ : Type}

/-- Whether one of the ends is the boundary of a nested pipeline. -/
def touchesSlot (link : Link τ) : Bool :=
  link.source.slot?.isSome || link.destination.slot?.isSome

/-- The direct connection through the boundary where two connections meet. -/
def splicePair (incoming outgoing : Link τ) : Link τ :=
  ⟨incoming.source, incoming.sourcePort, outgoing.destination, outgoing.destinationPort⟩

/-- The slots that the connections still touch, source before destination. -/
def touchedSlots (links : List (Link τ)) : List Nat :=
  links.flatMap fun link => link.source.slot?.toList ++ link.destination.slot?.toList

variable [DecidableEq τ]

/-- Whether a connection goes on where another one ends: at the same port of the same nested
pipeline, on the other side of its boundary. -/
def continues (incoming link : Link τ) : Bool :=
  incoming.destination.faces link.source && link.sourcePort = incoming.destinationPort

/-- Splices a connection with all that continue it among the others. The direct connections
come last. -/
def splice (incoming : Link τ) (others : List (Link τ)) : List (Link τ) :=
  others.filter (fun link => !continues incoming link) ++
    (others.filter (continues incoming)).map (splicePair incoming)

/-- A splice keeps the number of the other connections. -/
@[simp]
theorem length_splice (incoming : Link τ) (others : List (Link τ)) :
    (splice incoming others).length = others.length := by
  induction others with
  | nil => rfl
  | cons link rest ih =>
    simp only [splice, List.length_append, List.length_map] at ih ⊢
    by_cases h : continues incoming link <;> simp [h] <;> omega

/-- Splices once through the list from an index on. A spliced connection leaves its place to
the next one, which is then looked at. -/
def scan (links : List (Link τ)) (index : Nat) : List (Link τ) :=
  if h : index < links.length then
    let others := links.eraseIdx index
    if others.any (continues links[index]) then scan (splice links[index] others) index
    else scan links (index + 1)
  else links
termination_by (links.length, links.length - index)
decreasing_by
  · simp only [length_splice, List.length_eraseIdx_of_lt h]
    exact Prod.Lex.left _ _ (by omega)
  · exact Prod.Lex.right _ (by omega)

/-- A scan adds no connections. -/
theorem length_scan_le (links : List (Link τ)) (index : Nat) :
    (scan links index).length ≤ links.length := by
  fun_induction scan links index with
  | case1 links index h others _ ih =>
    refine Nat.le_trans ih ?_
    simp only [length_splice, others, List.length_eraseIdx_of_lt h]
    omega
  | case2 links index h others _ ih => exact ih
  | case3 links index h => exact Nat.le_refl _

/-- Splices until no connection touches a nested pipeline, or gives the slots that are still
touched when a scan changes nothing. -/
def merge (links : List (Link τ)) : Except (List Nat) (List (Link τ)) :=
  if links.any touchesSlot then
    if (scan links 0).length < links.length then merge (scan links 0)
    else .error (touchedSlots links)
  else .ok links
termination_by links.length

end RenderGraph.Flat
