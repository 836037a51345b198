import RenderGraph.Proofs.Flat.Numbering
import RenderGraph.Proofs.Layout.Names
import RenderGraph.Proofs.Order

/-!
# The paths of a flattened graph

Flattening gives every filter the names along its address, joined to a path. The
filters of the graph therefore have different paths exactly when paths run
together nowhere in the layout.
-/

namespace RenderGraph.Flat

variable {δ : Type} {layout : Layout δ}

/-- What stands in a path before the names of the elements of a layout. -/
def leadOf (names : List String) : String :=
  if names = [] then "" else Path.join names ++ Path.separator

/-- A path ends with the name of an element. -/
theorem join_concat (names : List String) (name : String) :
    Path.join (names ++ [name]) = leadOf names ++ name := by
  unfold leadOf
  by_cases h : names = []
  · rw [h, if_pos rfl, String.empty_append]
    exact String.intercalate_singleton
  · rw [if_neg h, Path.join_append h (List.cons_ne_nil _ _)]
    exact congrArg _ String.intercalate_singleton

/-- The elements of a nested layout have the path of the layout before their names. -/
theorem leadOf_concat (names : List String) (name : String) :
    leadOf (names ++ [name]) = leadOf names ++ name ++ Path.separator := by
  have hne : names ++ [name] ≠ [] := by simp
  rw [leadOf, if_neg hne, join_concat]

/-- A filter of a graph stands for a filter of the layout, and its path leads there. -/
structure Carries (layout : Layout δ) (flat : Filter δ) (entry : List Nat × FilterSpec δ) :
    Prop where
  /-- It is the same filter. -/
  spec : flat.spec = entry.2
  /-- The path joins the names along the address. -/
  path : ∃ names, layout.names? entry.1 = some names ∧ flat.path = Path.join names

/-- A layout waits with the path that leads to it. -/
structure Leads (layout : Layout δ) (pending : Pending δ) (o : Occurrence δ) : Prop where
  /-- It is the same layout. -/
  same : pending.layout = o.layout
  /-- It stands at its address. -/
  stands : layout.at? o.address = some (.pipeline o.layout)
  /-- The names along the address come before those of its elements. -/
  lead : ∃ names, layout.names? o.address = some names ∧ pending.lead = leadOf names

/-- What some elements of a layout, counted from an index on, are and how they are called. -/
def Lists (layout : Layout δ) (address : List Nat) (names : List String) (index : Nat)
    (elements : List (Placed δ)) : Prop :=
  ∀ offset placed, elements[offset]? = some placed →
    layout.at? (address ++ [index + offset]) = some placed.element ∧
      layout.names? (address ++ [index + offset]) = some (names ++ [placed.name])

section Exploring

variable {address : List Nat} {names : List String} {index : Nat} {elements : List (Placed δ)}

/-- The elements of a layout are listed from the first one on. -/
theorem lists_elements {outer : Layout δ} (ha : layout.at? address = some (.pipeline outer))
    (hn : layout.names? address = some names) : Lists layout address names 0 outer.elements := by
  intro offset placed hp
  rw [Nat.zero_add]
  exact ⟨Layout.at?_concat.mpr ⟨outer, placed, ha, hp, rfl⟩, Layout.names?_concat ha hn hp⟩

/-- The elements behind the first one are counted from the next index on. -/
theorem Lists.tail {placed : Placed δ} (h : Lists layout address names index (placed :: elements)) :
    Lists layout address names (index + 1) elements := by
  intro offset other ho
  have hother := h (offset + 1) other ho
  rwa [show index + (offset + 1) = index + 1 + offset by omega] at hother

/-- The filters among listed elements get their paths. -/
theorem Lists.carries (h : Lists layout address names index elements) :
    List.Forall₂ (Carries layout) (filtersOf (leadOf names) elements)
      ((elements.zipIdx index).filterMap (filterAt address)) := by
  induction elements generalizing index with
  | nil => exact .nil
  | cons placed rest ih =>
    have hfirst := (h 0 placed rfl).2
    have hrest := ih h.tail
    obtain ⟨name, element⟩ := placed
    cases element with
    | filter spec =>
      simp only [filtersOf, List.zipIdx_cons, List.filterMap_cons, filterAt, Element.asFilter?,
        Option.map_some]
      exact .cons ⟨rfl, names ++ [name], hfirst, (join_concat names name).symm⟩ hrest
    | pipeline nested =>
      simp only [filtersOf, List.zipIdx_cons, List.filterMap_cons, filterAt, Element.asFilter?,
        Option.map_none]
      exact hrest

/-- The layouts among listed elements wait with the paths that lead to them. -/
theorem Lists.leads (h : Lists layout address names index elements) (slot : Nat) :
    List.Forall₂ (Leads layout) (nestedOf (leadOf names) slot elements)
      ((elements.zipIdx index).filterMap (nestedAt address)) := by
  induction elements generalizing index slot with
  | nil => exact .nil
  | cons placed rest ih =>
    have hfirst := h 0 placed rfl
    obtain ⟨name, element⟩ := placed
    cases element with
    | filter spec =>
      simp only [nestedOf, List.zipIdx_cons, List.filterMap_cons, nestedAt, Element.asPipeline?,
        Option.map_none]
      exact ih h.tail slot
    | pipeline nested =>
      simp only [nestedOf, List.zipIdx_cons, List.filterMap_cons, nestedAt, Element.asPipeline?,
        Option.map_some]
      exact .cons ⟨rfl, hfirst.1, names ++ [name], hfirst.2, (leadOf_concat names name).symm⟩
        (ih h.tail (slot + 1))

/-- Exploring from a queue on gives all filters that are visited from there their paths. -/
theorem explore_carries {found : Found δ} {filters : List (List Nat × FilterSpec δ)}
    (h : List.Forall₂ (Carries layout) found.filters filters) {queue : List (Pending δ)}
    {occurrences : List (Occurrence δ)} (hq : List.Forall₂ (Leads layout) queue occurrences) :
    List.Forall₂ (Carries layout) (explore found queue).filters
      (filters ++ (visits occurrences).flatMap Occurrence.filters) := by
  fun_induction explore found queue generalizing filters occurrences with
  | case1 found =>
    cases hq
    simpa [visits] using h
  | case2 found pending queue nested =>
    rename_i ih
    cases hq with
    | @cons _ o _ rest hlead hq =>
      obtain ⟨names, hn, hl⟩ := hlead.lead
      have hlists := lists_elements hlead.stands hn
      rw [visits, List.flatMap_cons, ← List.append_assoc]
      refine ih ?_ ?_
      · rw [Found.visit, hlead.same, hl]
        exact List.rel_append h hlists.carries
      · have hnested := hlists.leads found.slots.length
        rw [← hl, ← hlead.same] at hnested
        rw [Occurrence.nested, ← hlead.same]
        exact List.rel_append hq hnested

/-- The filters found in a layout have the paths that lead to them. -/
theorem survey_carries (layout : Layout δ) :
    List.Forall₂ (Carries layout) (survey layout).filters (filtersIn layout) := by
  have hstart : Leads layout ⟨layout, none, ""⟩ ⟨[], layout⟩ :=
    ⟨rfl, rfl, [], rfl, rfl⟩
  have hnone : List.Forall₂ (Carries layout) (Found.none : Found δ).filters [] := .nil
  exact explore_carries hnone (.cons hstart .nil)

end Exploring

section Graphs

variable {graph : Graph δ}

/-- The filters of a flattened graph are those that are found in the layout. -/
theorem filters_of_flatten (h : flatten layout = .ok graph) :
    graph.filters = (survey layout).filters := by
  obtain ⟨connections, -, hg⟩ := bind_eq_ok_iff.mp h
  exact congrArg Graph.filters (Except.ok.inj hg).symm

/-- A filter of a flattened graph has the path of the filter at its address. -/
theorem exists_filterPath (h : flatten layout = .ok graph) {i : Nat} {flat : Filter δ}
    (hi : graph.filters[i]? = some flat) : ∃ address,
      (filterAddresses layout)[i]? = some address ∧ layout.FilterPath address flat.path := by
  rw [filters_of_flatten h] at hi
  obtain ⟨⟨address, spec⟩, hf, hspec, names, hn, hpath⟩ :=
    getElem?_of_forall₂ (survey_carries layout) hi
  have ha := mem_filtersIn_iff.mp (List.mem_of_getElem? hf)
  refine ⟨address, ?_, spec, names, ha, hn, hpath⟩
  rw [filterAddresses, List.getElem?_map, hf, Option.map_some]

/-- The filter of the layout with a number is kept under this number, with its path. -/
theorem exists_names_of_getElem? {i : Nat} {address : List Nat} {spec : FilterSpec δ}
    (h : (filtersIn layout)[i]? = some (address, spec)) : ∃ names,
      layout.names? address = some names ∧
        (survey layout).filters[i]? = some ⟨Path.join names, spec⟩ := by
  obtain ⟨⟨path, found⟩, hf, rfl, names, hn, rfl⟩ :=
    getElem?_of_forall₂ (survey_carries layout).flip h
  exact ⟨names, hn, hf⟩

/-- Every filter of the layout has a number in the survey, under which its path is kept. -/
theorem exists_number {address : List Nat} {spec : FilterSpec δ} {names : List String}
    (ha : layout.at? address = some (.filter spec)) (hn : layout.names? address = some names) :
    ∃ i : Nat, (filterAddresses layout)[i]? = some address ∧
      (survey layout).filters[i]? = some ⟨Path.join names, spec⟩ := by
  obtain ⟨i, hi⟩ := List.mem_iff_getElem?.mp (mem_filtersIn_iff.mpr ha)
  obtain ⟨names', hnames, hf⟩ := exists_names_of_getElem? hi
  obtain rfl := Option.some.inj (hn.symm.trans hnames)
  refine ⟨i, ?_, hf⟩
  rw [filterAddresses, List.getElem?_map, hi, Option.map_some]

/-- A path of a filter of the layout is the path of its counterpart in the flattened graph. -/
theorem exists_flat_of_filterPath (h : flatten layout = .ok graph) {address : List Nat}
    {path : String} (hp : layout.FilterPath address path) : ∃ (i : Nat) (flat : Filter δ),
      graph.filters[i]? = some flat ∧ (filterAddresses layout)[i]? = some address ∧
        flat.path = path := by
  obtain ⟨spec, names, ha, hn, rfl⟩ := hp
  obtain ⟨i, hi, hf⟩ := exists_number ha hn
  exact ⟨i, _, filters_of_flatten h ▸ hf, hi, rfl⟩

/-- The filters of a flattened graph have different paths exactly when paths run together nowhere
in the layout. -/
theorem nodup_paths_iff (constructed : layout.Constructed) (h : flatten layout = .ok graph) :
    (graph.filters.map Filter.path).Nodup ↔ layout.Unambiguous := by
  rw [← constructed.filterPath_injective_iff, nodup_map_iff_index]
  constructor
  · intro hindex a b path ha hb
    obtain ⟨i, flat, hi, hia, hpi⟩ := exists_flat_of_filterPath h ha
    obtain ⟨j, other, hj, hjb, hpj⟩ := exists_flat_of_filterPath h hb
    have hij := hindex i j flat other hi hj (hpi.trans hpj.symm)
    rw [hij, hjb] at hia
    exact (Option.some.inj hia).symm
  · intro hinj i j flat other hi hj he
    obtain ⟨a, hia, ha⟩ := exists_filterPath h hi
    obtain ⟨b, hjb, hb⟩ := exists_filterPath h hj
    rw [he] at ha
    have hab := hinj a b other.path ha hb
    have hl := (List.getElem?_eq_some_iff.mp hia).1
    exact (List.getElem?_inj hl (nodup_filterAddresses layout)).mp
      (hia.trans ((congrArg some hab).trans hjb.symm))

end Graphs

end RenderGraph.Flat
