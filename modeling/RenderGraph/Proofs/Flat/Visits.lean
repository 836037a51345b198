import RenderGraph.Flat.Graph
import RenderGraph.Proofs.Layout.Address
import Mathlib.Algebra.Ring.Nat

/-!
# The layouts that flattening visits

Flattening meets every layout nested in the outermost one exactly once, in
breadth-first order. The order in which it meets filters and nested layouts gives
each of them its number.
-/

namespace RenderGraph.Flat

variable {δ : Type}

/-- A layout at a place of the outermost one. -/
structure Occurrence (δ : Type) where
  /-- Its address. -/
  address : List Nat
  /-- The layout. -/
  layout : Layout δ

/-- The nested layout at an index of the layout at an address, if it is one. -/
def nestedAt (address : List Nat) (entry : Placed δ × Nat) : Option (Occurrence δ) :=
  entry.1.element.asPipeline?.map fun layout => ⟨address ++ [entry.2], layout⟩

/-- The filter at an index of the layout at an address, if it is one. -/
def filterAt (address : List Nat) (entry : Placed δ × Nat) : Option (List Nat × FilterSpec δ) :=
  entry.1.element.asFilter?.map fun spec => (address ++ [entry.2], spec)

namespace Occurrence

/-- The nested layouts of a layout. -/
def nested (o : Occurrence δ) : List (Occurrence δ) :=
  o.layout.elements.zipIdx.filterMap (nestedAt o.address)

/-- The filters of a layout, with their addresses. -/
def filters (o : Occurrence δ) : List (List Nat × FilterSpec δ) :=
  o.layout.elements.zipIdx.filterMap (filterAt o.address)

/-- The connections of a layout, between spots. -/
def authored (o : Occurrence δ) : List (Connection Spot) :=
  o.layout.connections.map fun c => c.map (Anchor.spot o.address)

variable {o x : Occurrence δ}

/-- The nested layouts are the elements that are layouts. -/
theorem mem_nested : x ∈ o.nested ↔ ∃ index placed, o.layout.elements[index]? = some placed ∧
    placed.element = .pipeline x.layout ∧ x.address = o.address ++ [index] := by
  simp only [nested, nestedAt, List.mem_filterMap, Prod.exists, List.mem_zipIdx_iff_getElem?,
    Option.map_eq_some_iff]
  constructor
  · rintro ⟨placed, index, hp, layout, he, rfl⟩
    refine ⟨index, placed, hp, ?_, rfl⟩
    cases h : placed.element with
    | filter spec => simp [h, Element.asPipeline?] at he
    | pipeline found => simpa [h, Element.asPipeline?] using he
  · rintro ⟨index, placed, hp, he, ha⟩
    refine ⟨placed, index, hp, x.layout, by rw [he]; rfl, ?_⟩
    rw [← ha]

/-- The filters are the elements that are filters. -/
theorem mem_filters {a : List Nat} {spec : FilterSpec δ} :
    (a, spec) ∈ o.filters ↔ ∃ index placed, o.layout.elements[index]? = some placed ∧
      placed.element = .filter spec ∧ a = o.address ++ [index] := by
  simp only [filters, filterAt, List.mem_filterMap, Prod.exists, List.mem_zipIdx_iff_getElem?,
    Option.map_eq_some_iff, Prod.mk.injEq]
  constructor
  · rintro ⟨placed, index, hp, found, he, rfl, rfl⟩
    refine ⟨index, placed, hp, ?_, rfl⟩
    cases h : placed.element with
    | filter spec => simpa [h, Element.asFilter?] using he
    | pipeline layout => simp [h, Element.asFilter?] at he
  · rintro ⟨index, placed, hp, he, rfl⟩
    exact ⟨placed, index, hp, spec, by rw [he]; rfl, rfl, rfl⟩

end Occurrence

/-- The number of layouts in the layouts of a queue. -/
def load (queue : List (Occurrence δ)) : Nat :=
  (queue.map fun o => occurrences o.layout).sum

/-- The nested layouts of a list of elements hold all layouts in it. -/
theorem load_nestedAt (address : List Nat) (elements : List (Placed δ)) (index : Nat) :
    load ((elements.zipIdx index).filterMap (nestedAt address)) = occurrencesIn elements := by
  induction elements generalizing index with
  | nil => rfl
  | cons placed rest ih =>
    have hr := ih (index + 1)
    simp only [load] at hr
    obtain ⟨name, spec | layout⟩ := placed <;>
      simp [List.zipIdx_cons, List.filterMap_cons, nestedAt, Element.asPipeline?, occurrencesIn,
        load, hr]

/-- The layouts in the order they are visited, when those of a queue wait. -/
def visits : List (Occurrence δ) → List (Occurrence δ)
  | [] => []
  | o :: queue => o :: visits (queue ++ o.nested)
termination_by queue => load queue
decreasing_by
  have h := load_nestedAt o.address o.layout.elements 0
  have he := occurrences_eq o.layout
  simp only [load, Occurrence.nested, List.map_append, List.sum_append, List.map_cons,
    List.sum_cons] at h ⊢
  omega

/-- The layouts in the order they are visited, the outermost one first. -/
def visited (layout : Layout δ) : List (Occurrence δ) :=
  visits [⟨[], layout⟩]

/-- The filters of all levels by number, with their addresses. -/
def filtersIn (layout : Layout δ) : List (List Nat × FilterSpec δ) :=
  (visited layout).flatMap Occurrence.filters

/-- The addresses of the filters, by number. -/
def filterAddresses (layout : Layout δ) : List (List Nat) :=
  (filtersIn layout).map Prod.fst

/-- The addresses of the nested layouts, by slot. -/
def slotAddresses (layout : Layout δ) : List (List Nat) :=
  (visited layout).flatMap fun o => o.nested.map Occurrence.address

/-- The connections of all levels, in the order they are met. -/
def authoredIn (layout : Layout δ) : List (Connection Spot) :=
  (visited layout).flatMap Occurrence.authored

section Reached

variable {queue : List (Occurrence δ)} {o x : Occurrence δ}

/-- What waits is visited. -/
theorem mem_visits_of_mem (h : o ∈ queue) : o ∈ visits queue := by
  fun_induction visits queue with
  | case1 => cases h
  | case2 first queue ih =>
    rcases List.mem_cons.mp h with rfl | h
    · exact List.mem_cons_self
    · exact List.mem_cons_of_mem _ (ih (List.mem_append_left _ h))

/-- What is nested in a visited layout is visited. -/
theorem mem_visits_of_nested (h : o ∈ visits queue) (hx : x ∈ o.nested) : x ∈ visits queue := by
  fun_induction visits queue with
  | case1 => cases h
  | case2 first queue ih =>
    rcases List.mem_cons.mp h with rfl | h
    · exact List.mem_cons_of_mem _ (mem_visits_of_mem (List.mem_append_right _ hx))
    · exact List.mem_cons_of_mem _ (ih h)

/-- What holds of the layouts that wait, and passes on to nested ones, holds of all that are
visited. -/
theorem forall_mem_visits {P : Occurrence δ → Prop} (hq : ∀ o ∈ queue, P o)
    (hn : ∀ o x, P o → x ∈ o.nested → P x) : ∀ o ∈ visits queue, P o := by
  fun_induction visits queue with
  | case1 => exact fun o ho => by cases ho
  | case2 first queue ih =>
    have hf : P first := hq first List.mem_cons_self
    intro o ho
    rcases List.mem_cons.mp ho with rfl | ho
    · exact hf
    · refine ih (fun x hx => ?_) o ho
      rcases List.mem_append.mp hx with hx | hx
      · exact hq x (List.mem_cons_of_mem _ hx)
      · exact hn first x hf hx

variable {layout : Layout δ}

/-- The visited layouts are those that stand somewhere in the outermost one. -/
theorem mem_visited_iff :
    o ∈ visited layout ↔ layout.at? o.address = some (.pipeline o.layout) := by
  constructor
  · refine forall_mem_visits (P := fun o => layout.at? o.address = some (.pipeline o.layout))
      ?_ ?_ o
    · intro o ho
      rw [List.mem_singleton.mp ho]
      rfl
    · intro o x ho hx
      obtain ⟨index, placed, hp, he, ha⟩ := Occurrence.mem_nested.mp hx
      rw [ha, Layout.at?_concat]
      exact ⟨o.layout, placed, ho, hp, he⟩
  · obtain ⟨address, nested⟩ := o
    simp only
    intro ha
    induction address using List.reverseRecOn generalizing nested with
    | nil =>
      obtain rfl := Element.pipeline.inj (Option.some.inj ha)
      exact mem_visits_of_mem (List.mem_singleton.mpr rfl)
    | append_singleton address index ih =>
      obtain ⟨outer, placed, ho, hp, he⟩ := Layout.at?_concat.mp ha
      exact mem_visits_of_nested (ih outer ho)
        (Occurrence.mem_nested.mpr ⟨index, placed, hp, he, rfl⟩)

/-- The numbered filters are all filters in the layout. -/
theorem mem_filtersIn_iff {a : List Nat} {spec : FilterSpec δ} :
    (a, spec) ∈ filtersIn layout ↔ layout.at? a = some (.filter spec) := by
  simp only [filtersIn, List.mem_flatMap, Occurrence.mem_filters, mem_visited_iff]
  constructor
  · rintro ⟨o, ho, index, placed, hp, he, rfl⟩
    exact Layout.at?_concat.mpr ⟨o.layout, placed, ho, hp, he⟩
  · intro ha
    induction a using List.reverseRecOn with
    | nil => cases Option.some.inj ha
    | append_singleton address index =>
      obtain ⟨outer, placed, ho, hp, he⟩ := Layout.at?_concat.mp ha
      exact ⟨⟨address, outer⟩, ho, index, placed, hp, he, rfl⟩

/-- The slots belong to all nested layouts. -/
theorem mem_slotAddresses_iff {a : List Nat} : a ∈ slotAddresses layout ↔
    a ≠ [] ∧ ∃ nested, layout.at? a = some (.pipeline nested) := by
  simp only [slotAddresses, List.mem_flatMap, List.mem_map, Occurrence.mem_nested,
    mem_visited_iff]
  constructor
  · rintro ⟨o, ho, x, ⟨index, placed, hp, he, ha⟩, rfl⟩
    rw [ha]
    exact ⟨by simp, x.layout, Layout.at?_concat.mpr ⟨o.layout, placed, ho, hp, he⟩⟩
  · rintro ⟨hne, nested, ha⟩
    induction a using List.reverseRecOn with
    | nil => exact absurd rfl hne
    | append_singleton address index =>
      obtain ⟨outer, placed, ho, hp, he⟩ := Layout.at?_concat.mp ha
      exact ⟨⟨address, outer⟩, ho, ⟨address ++ [index], nested⟩, ⟨index, placed, hp, he, rfl⟩, rfl⟩

/-- The connections that are met are all that were made. -/
theorem mem_authoredIn_iff {c : Connection Spot} :
    c ∈ authoredIn layout ↔ layout.Authored c := by
  simp only [authoredIn, List.mem_flatMap, mem_visited_iff, Occurrence.authored, List.mem_map,
    Layout.Authored]
  constructor
  · rintro ⟨o, ho, d, hd, rfl⟩
    exact ⟨o.address, o.layout, ho, d, hd, rfl⟩
  · rintro ⟨address, nested, ha, d, hd, rfl⟩
    exact ⟨⟨address, nested⟩, ha, d, hd, rfl⟩

end Reached

end RenderGraph.Flat
