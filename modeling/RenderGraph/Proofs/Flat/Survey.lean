import RenderGraph.Proofs.Flat.Numbering
import RenderGraph.Proofs.Flat.Sides

/-!
# What a survey finds

The survey numbers filters and nested layouts in the order of the visits and
writes every connection down between numbers. Its links are therefore the
connections of all levels, with a node in place of each spot.
-/

namespace RenderGraph.Flat

variable {δ : Type}

/-- The node that stands for a spot, when filters and nested layouts with the given addresses
have their positions as numbers. -/
inductive Marks (filters slots : List (List Nat)) : Node Side → Spot → Prop
  /-- The boundary of the outermost layout. -/
  | boundary : Marks filters slots .boundary ⟨[], .inside⟩
  /-- A filter is seen from outside only. -/
  | filter {index : Nat} {address : List Nat} : filters[index]? = some address →
    Marks filters slots (.filter index) ⟨address, .outside⟩
  /-- A nested layout is seen from both sides. -/
  | slot {index : Nat} {address : List Nat} {side : Side} : slots[index]? = some address →
    Marks filters slots (.slot index side) ⟨address, side⟩

/-- The link that stands for a connection. -/
structure Draws (filters slots : List (List Nat)) (l : Link Side) (c : Connection Spot) : Prop where
  /-- The source stands for the source. -/
  source : Marks filters slots l.source c.source
  /-- The port of the source is the same. -/
  sourcePort : l.sourcePort = c.sourcePort
  /-- The destination stands for the destination. -/
  destination : Marks filters slots l.destination c.destination
  /-- The port of the destination is the same. -/
  destinationPort : l.destinationPort = c.destinationPort

/-- What has been found stands for filters, nested layouts and connections, in the same order. -/
structure Surveys (found : Found δ) (filters : List (List Nat × FilterSpec δ))
    (slots : List (List Nat)) (connections : List (Connection Spot)) : Prop where
  /-- The filters are the same. -/
  specs : found.filters.map Filter.spec = filters.map Prod.snd
  /-- There are as many slots. -/
  slotCount : found.slots.length = slots.length
  /-- The links stand for the connections, each end for the side from which it is seen. -/
  links : List.Forall₂ (Draws (filters.map Prod.fst) slots) (sided found.links) connections

section Numbers

variable {filters slots : List (List Nat)} {node : Node Side} {spot : Spot}

/-- New numbers do not change the old ones. -/
theorem Marks.append (h : Marks filters slots node spot) (filters' slots' : List (List Nat)) :
    Marks (filters ++ filters') (slots ++ slots') node spot := by
  cases h with
  | boundary => exact .boundary
  | filter h =>
    have hl := (List.getElem?_eq_some_iff.mp h).1
    exact .filter (by rw [List.getElem?_append_left hl, h])
  | slot h =>
    have hl := (List.getElem?_eq_some_iff.mp h).1
    exact .slot (by rw [List.getElem?_append_left hl, h])

/-- New numbers do not change what links stand for. -/
theorem Draws.append {l : Link Side} {c : Connection Spot} (h : Draws filters slots l c)
    (filters' slots' : List (List Nat)) : Draws (filters ++ filters') (slots ++ slots') l c :=
  ⟨h.source.append _ _, h.sourcePort, h.destination.append _ _, h.destinationPort⟩

/-- The elements of a layout get the next numbers, in their order. -/
theorem nodesOf_marks (visit : Nat) (address : List Nat) (elements : List (Placed δ))
    (index : Nat) (filters slots : List (List Nat)) (hvisit : visit ≤ slots.length) (i : Nat)
    (hi : i < elements.length) :
    ∃ node, (nodesOf visit filters.length slots.length elements)[i]? = some node ∧
      Marks (filters ++ ((elements.zipIdx index).filterMap (filterAt address)).map Prod.fst)
        (slots ++ ((elements.zipIdx index).filterMap (nestedAt address)).map Occurrence.address)
        (node.remark sideOf) ⟨address ++ [index + i], .outside⟩ := by
  induction elements generalizing index filters slots i with
  | nil => exact absurd hi (Nat.not_lt_zero i)
  | cons placed rest ih =>
    obtain ⟨name, spec | layout⟩ := placed
    · have hn := fun i hi => ih (index + 1) (filters ++ [address ++ [index]]) slots hvisit i hi
      simp only [List.length_append, List.length_singleton, List.append_assoc] at hn
      simp only [List.zipIdx_cons, List.filterMap_cons, filterAt, nestedAt, Element.asFilter?,
        Element.asPipeline?, Option.map_some, Option.map_none, List.map_cons, nodesOf]
      cases i with
      | zero => exact ⟨_, rfl, .filter (by simp)⟩
      | succ i =>
        obtain ⟨node, hg, hm⟩ := hn i (by simpa using hi)
        refine ⟨node, hg, ?_⟩
        rw [show index + (i + 1) = index + 1 + i by omega]
        exact hm
    · have hbehind : visit ≤ (slots ++ [address ++ [index]]).length :=
        Nat.le_trans hvisit (by simp)
      have hn := fun i hi => ih (index + 1) filters (slots ++ [address ++ [index]]) hbehind i hi
      simp only [List.length_append, List.length_singleton, List.append_assoc] at hn
      simp only [List.zipIdx_cons, List.filterMap_cons, filterAt, nestedAt, Element.asFilter?,
        Element.asPipeline?, Option.map_some, Option.map_none, List.map_cons, nodesOf]
      cases i with
      | zero =>
        refine ⟨_, rfl, ?_⟩
        rw [Node.remark, sideOf_of_le hvisit]
        exact .slot (by simp)
      | succ i =>
        obtain ⟨node, hg, hm⟩ := hn i (by simpa using hi)
        refine ⟨node, hg, ?_⟩
        rw [show index + (i + 1) = index + 1 + i by omega]
        exact hm

end Numbers

section Visit

variable {found : Found δ} {filters : List (List Nat × FilterSpec δ)} {slots : List (List Nat)}
  {connections : List (Connection Spot)}

/-- The filters found in a layout are its filters. -/
theorem map_spec_filtersOf (lead : String) (address : List Nat) (elements : List (Placed δ))
    (index : Nat) : (filtersOf lead elements).map Filter.spec =
      ((elements.zipIdx index).filterMap (filterAt address)).map Prod.snd := by
  induction elements generalizing index with
  | nil => rfl
  | cons placed rest ih =>
    obtain ⟨name, spec | layout⟩ := placed <;>
      simp [filtersOf, List.zipIdx_cons, List.filterMap_cons, filterAt, Element.asFilter?,
        ih (index + 1)]

/-- A layout gets as many slots as layouts are nested in it. -/
theorem length_slotsOf (lead : String) (address : List Nat) (elements : List (Placed δ))
    (index : Nat) : (slotsOf lead elements).length =
      ((elements.zipIdx index).filterMap (nestedAt address)).length := by
  induction elements generalizing index with
  | nil => rfl
  | cons placed rest ih =>
    obtain ⟨name, spec | layout⟩ := placed <;>
      simp [slotsOf, List.zipIdx_cons, List.filterMap_cons, nestedAt, Element.asPipeline?,
        ih (index + 1)]

/-- The layout that waits is the one at an address, and its boundary is numbered. -/
structure Waits (filters slots : List (List Nat)) (pending : Pending δ) (o : Occurrence δ) :
    Prop where
  /-- It is the same layout. -/
  layout : pending.layout = o.layout
  /-- Its boundary is numbered. -/
  boundary : Marks filters slots (pending.slot.elim .boundary fun slot => .slot slot .inside)
    ⟨o.address, .inside⟩

/-- The nested layouts wait with the slots they got. -/
theorem nestedOf_waits (lead : String) (address : List Nat) (elements : List (Placed δ))
    (index : Nat) (filters slots : List (List Nat)) :
    List.Forall₂ (Waits filters
        (slots ++ ((elements.zipIdx index).filterMap (nestedAt address)).map Occurrence.address))
      (nestedOf lead slots.length elements)
      ((elements.zipIdx index).filterMap (nestedAt address)) := by
  induction elements generalizing index slots with
  | nil => exact .nil
  | cons placed rest ih =>
    obtain ⟨name, spec | layout⟩ := placed
    · simpa [nestedOf, List.zipIdx_cons, List.filterMap_cons, nestedAt, Element.asPipeline?]
        using ih (index + 1) slots
    · have hr := ih (index + 1) (slots ++ [address ++ [index]])
      simp only [List.length_append, List.length_singleton, List.append_assoc] at hr
      simp only [nestedOf, List.zipIdx_cons, List.filterMap_cons, nestedAt, Element.asPipeline?,
        Option.map_some, List.map_cons]
      exact .cons ⟨rfl, .slot (by simp)⟩ hr

/-- Visiting a layout adds its filters, its nested layouts and its connections. -/
theorem Surveys.visit (h : Surveys found filters slots connections) {pending : Pending δ}
    {o : Occurrence δ} (hw : Waits (filters.map Prod.fst) slots pending o)
    (hslot : pending.slot = slotOf found.visits) (hvisits : found.visits ≤ found.slots.length)
    (wired : o.layout.Wired) :
    Surveys (found.visit pending) (filters ++ o.filters)
      (slots ++ o.nested.map Occurrence.address) (connections ++ o.authored) := by
  have hl : found.filters.length = (filters.map Prod.fst).length := by
    simpa using congrArg List.length h.specs
  have hmark : ∀ anchor role port, o.layout.HasPort anchor role port →
      Marks ((filters ++ o.filters).map Prod.fst) (slots ++ o.nested.map Occurrence.address)
        ((nodeAt (pending.boundary found.visits) (nodesOf found.visits found.filters.length
          found.slots.length o.layout.elements) anchor).remark sideOf) (anchor.spot o.address) := by
    intro anchor role port hp
    rw [List.map_append]
    cases anchor with
    | boundary =>
      rw [nodeAt, remark_boundary hslot]
      exact hw.boundary.append _ _
    | member index =>
      obtain ⟨node, hn, hm⟩ := nodesOf_marks found.visits o.address o.layout.elements 0
        (filters.map Prod.fst) slots (h.slotCount ▸ hvisits) index hp.lt_length
      rw [← hl, ← h.slotCount] at hn
      rw [Nat.zero_add] at hm
      simp only [nodeAt, hn, Option.getD_some]
      exact hm
  constructor
  case specs =>
    rw [Found.visit, hw.layout, List.map_append, List.map_append, h.specs,
      map_spec_filtersOf _ o.address _ 0]
    rfl
  case slotCount =>
    rw [Found.visit, hw.layout, List.length_append, List.length_append, h.slotCount,
      length_slotsOf _ o.address _ 0, List.length_map]
    rfl
  case links =>
    simp only [Found.visit, hw.layout, sided, List.map_append]
    refine List.rel_append ?_ ?_
    · exact h.links.imp fun l c hd => hd.append _ _
    · rw [linksOf, Occurrence.authored, List.forall₂_map_left_iff, List.forall₂_map_left_iff,
        List.forall₂_map_right_iff, List.forall₂_same]
      intro c hc
      rw [← List.map_append]
      exact ⟨hmark _ _ _ (wired.source c hc), rfl, hmark _ _ _ (wired.destination c hc), rfl⟩

/-- Exploring from a queue on adds everything that is visited from there. -/
theorem Surveys.explore (h : Surveys found filters slots connections)
    {queue : List (Pending δ)} {occurrences : List (Occurrence δ)}
    (hq : List.Forall₂ (Waits (filters.map Prod.fst) slots) queue occurrences)
    (inTurn : InTurn found queue) (wired : ∀ o ∈ visits occurrences, o.layout.Wired) :
    Surveys (explore found queue) (filters ++ (visits occurrences).flatMap Occurrence.filters)
      (slots ++ (visits occurrences).flatMap fun o => o.nested.map Occurrence.address)
      (connections ++ (visits occurrences).flatMap Occurrence.authored) := by
  fun_induction Flat.explore found queue generalizing filters slots connections occurrences with
  | case1 found =>
    cases hq
    simpa [visits] using h
  | case2 found pending queue nested =>
    rename_i ih
    cases hq with
    | @cons _ o _ rest hw hq =>
      rw [visits] at wired ⊢
      obtain ⟨hslot, hvisits, hnext⟩ := inTurn.visit
      have hv := h.visit hw hslot hvisits (wired o List.mem_cons_self)
      simp only [List.flatMap_cons, ← List.append_assoc]
      refine ih hv ?_ hnext fun x hx => wired x (List.mem_cons_of_mem o hx)
      refine List.rel_append ?_ ?_
      · rw [List.map_append]
        exact hq.imp fun p x hx => ⟨hx.layout, hx.boundary.append _ _⟩
      · have hn := nestedOf_waits pending.lead o.address o.layout.elements 0
          ((filters ++ o.filters).map Prod.fst) slots
        rw [← h.slotCount, ← hw.layout] at hn
        simpa only [Occurrence.nested, ← hw.layout] using hn

/-- The survey of a layout that can be constructed finds all its filters, nested layouts and
connections. -/
theorem survey_surveys {layout : Layout δ} (h : layout.Constructed) :
    Surveys (survey layout) (filtersIn layout) (slotAddresses layout) (authoredIn layout) := by
  have hstart : Surveys (Found.none : Found δ) [] [] [] := ⟨rfl, rfl, .nil⟩
  have hq : List.Forall₂ (Waits (([] : List (List Nat × FilterSpec δ)).map Prod.fst) [])
      [⟨layout, none, ""⟩] [⟨[], layout⟩] := .cons ⟨rfl, .boundary⟩ .nil
  exact hstart.explore hq ⟨rfl, rfl⟩ fun o ho => (h.at? (mem_visited_iff.mp ho)).wired

end Visit

end RenderGraph.Flat
