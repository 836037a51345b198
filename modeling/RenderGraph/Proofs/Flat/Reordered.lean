import RenderGraph.Proofs.Layout.Reordered
import RenderGraph.Proofs.Flat.DataFlow
import RenderGraph.Proofs.Flat.Paths

/-!
# Flattening does not depend on the order of connections

Splicing works through a list, and its intermediate lists depend on the order in
which connections were made. What remains does not: the filters get the same
numbers and paths, and the connections between them are those that chains of the
layout ask for.
-/

namespace RenderGraph.Flat

variable {δ : Type}

/-- Layouts at the same address that agree up to the order of connections. -/
structure Occurrence.Reordered (o p : Occurrence δ) : Prop where
  /-- The addresses are the same. -/
  address : o.address = p.address
  /-- The layouts agree. -/
  layout : o.layout.Reordered p.layout

section Numbers

variable {elements others : List (Placed δ)}

/-- Among elements that agree the nested layouts agree. -/
theorem nestedAt_reordered (h : Layout.ElementsReordered elements others) (address : List Nat)
    (index : Nat) : List.Forall₂ Occurrence.Reordered
      ((elements.zipIdx index).filterMap (nestedAt address))
      ((others.zipIdx index).filterMap (nestedAt address)) := by
  induction elements generalizing others index with
  | nil =>
    cases h
    exact .nil
  | cons placed rest ih =>
    cases h with
    | cons hab hr =>
      have hrest := ih hr (index + 1)
      cases hab with
      | filter spec =>
        simpa [List.zipIdx_cons, List.filterMap_cons, nestedAt, Element.asPipeline?] using hrest
      | pipeline hl =>
        simp only [List.zipIdx_cons, List.filterMap_cons, nestedAt, Element.asPipeline?,
          Option.map_some]
        exact .cons ⟨rfl, hl⟩ hrest

/-- Among elements that agree the filters are the same. -/
theorem filterAt_reordered (h : Layout.ElementsReordered elements others) (address : List Nat)
    (index : Nat) : (elements.zipIdx index).filterMap (filterAt address) =
      (others.zipIdx index).filterMap (filterAt address) := by
  induction elements generalizing others index with
  | nil =>
    cases h
    rfl
  | cons placed rest ih =>
    cases h with
    | cons hab hr =>
      have hrest := ih hr (index + 1)
      cases hab with
      | filter spec => simp [List.zipIdx_cons, filterAt, Element.asFilter?, hrest]
      | pipeline hl =>
        simpa [List.zipIdx_cons, List.filterMap_cons, filterAt, Element.asFilter?] using hrest

/-- Layouts that agree contain nested layouts that agree. -/
theorem Occurrence.Reordered.nested {o p : Occurrence δ} (h : o.Reordered p) :
    List.Forall₂ Occurrence.Reordered o.nested p.nested := by
  rw [Occurrence.nested, Occurrence.nested, h.address]
  exact nestedAt_reordered h.layout.elements p.address 0

/-- Layouts that agree contain the same filters. -/
theorem Occurrence.Reordered.filters {o p : Occurrence δ} (h : o.Reordered p) :
    o.filters = p.filters := by
  rw [Occurrence.filters, Occurrence.filters, h.address]
  exact filterAt_reordered h.layout.elements p.address 0

/-- From queues that agree the same places are visited. -/
theorem visits_reordered {queue queue' : List (Occurrence δ)}
    (h : List.Forall₂ Occurrence.Reordered queue queue') :
    List.Forall₂ Occurrence.Reordered (visits queue) (visits queue') := by
  fun_induction visits queue generalizing queue' with
  | case1 =>
    cases h
    rw [visits]
    exact .nil
  | case2 o queue ih =>
    cases h with
    | cons hop hq =>
      rw [visits]
      exact .cons hop (ih (List.rel_append hq hop.nested))

end Numbers

variable {a b : Layout δ}

/-- The filters have the same numbers. -/
theorem filtersIn_reordered (h : a.Reordered b) : filtersIn a = filtersIn b := by
  have hroot : Occurrence.Reordered ⟨[], a⟩ ⟨[], b⟩ := ⟨rfl, h⟩
  have hvisits : List.Forall₂ Occurrence.Reordered (visited a) (visited b) :=
    visits_reordered (.cons hroot .nil)
  unfold filtersIn
  generalize visited a = found at hvisits ⊢
  generalize visited b = found' at hvisits ⊢
  induction hvisits with
  | nil => rfl
  | cons hop _ ih => rw [List.flatMap_cons, List.flatMap_cons, hop.filters, ih]

/-- The filters have the same paths. -/
theorem survey_filters_reordered (h : a.Reordered b) :
    (survey a).filters = (survey b).filters := by
  have hb : List.Forall₂ (Carries a) (survey b).filters (filtersIn a) := by
    rw [filtersIn_reordered h]
    refine (survey_carries b).imp fun flat entry hc => ⟨hc.spec, ?_⟩
    obtain ⟨names, hn, hp⟩ := hc.path
    exact ⟨names, Element.Reordered.names? (.pipeline h.symm) hn, hp⟩
  -- Address and filter leave no choice but for one filter with its path.
  have hunique : Relator.LeftUnique (Carries a) := by
    rintro ⟨path, spec⟩ entry ⟨path', spec'⟩ hc hc'
    obtain ⟨names, hn, hp⟩ := hc.path
    obtain ⟨names', hn', hp'⟩ := hc'.path
    obtain rfl := Option.some.inj (hn.symm.trans hn')
    exact Filter.mk.injEq .. ▸ ⟨hp.trans hp'.symm, hc.spec.trans hc'.spec.symm⟩
  exact List.left_unique_forall₂' hunique (survey_carries a) hb

/-- Numbers stand for the same places. -/
theorem placeIn_reordered (h : a.Reordered b) : placeIn a = placeIn b := by
  funext anchor
  cases anchor with
  | boundary => rfl
  | member index =>
    simp only [placeIn, Anchor.node, spotIn, filterAddresses, filtersIn_reordered h]

/-- A connection that is there after flattening one layout is there after flattening the other. -/
theorem mem_connections_reordered (h : a.Reordered b) {graph other : Graph δ}
    (flattened : Flattened a graph) (flattened' : Flattened b other) {c : Connection Anchor}
    (hc : c ∈ graph.connections) : c ∈ other.connections := by
  obtain ⟨path, chain⟩ := flattened.sound c hc
  obtain ⟨d, hd, he⟩ := flattened'.complete path _ (h.chain chain)
  rw [placeIn_reordered h] at he
  exact flattened'.eq_of_map hd he ▸ hd

/-- Layouts that agree up to the order of connections are both flattened or both not. Then the
filters of the graphs are the same, and so are the connections, in some order. -/
theorem flatten_reordered (ha : a.Constructed) (hb : b.Constructed) (h : a.Reordered b) :
    (∃ graph connections, flatten a = .ok graph ∧ flatten b = .ok { graph with connections } ∧
      FedOnce graph.connections ∧ graph.connections.Perm connections) ∨
    ∃ e e', flatten a = .error e ∧ flatten b = .error e' ∧ e.kind = .build ∧ e'.kind = .build := by
  rcases flatten_cases ha with ⟨hm, graph, hg, flattened⟩ | ⟨hm, e, he, hk⟩
  · rcases flatten_cases hb with ⟨-, other, ho, flattened'⟩ | ⟨hn, -⟩
    · refine Or.inl ⟨graph, other.connections, hg, ?_, flattened.fedOnce, ?_⟩
      · rw [ho, filters_of_flatten hg, survey_filters_reordered h, ← filters_of_flatten ho]
      · refine (List.perm_ext_iff_of_nodup flattened.fedOnce.nodup flattened'.fedOnce.nodup).mpr ?_
        exact fun c => ⟨mem_connections_reordered h flattened flattened',
          mem_connections_reordered h.symm flattened' flattened⟩
    · exact absurd (h.matched hm) hn
  · rcases flatten_cases hb with ⟨hn, -⟩ | ⟨-, e', he', hk'⟩
    · exact absurd (h.symm.matched hn) hm
    · exact Or.inr ⟨e, e', he, he', hk, hk'⟩

end RenderGraph.Flat
