import RenderGraph.Proofs.Flat.Outcome

/-!
# Flattening keeps the data flow

A flattened graph has exactly one connection for every chain of connections in
the nested layout, and nothing else.
-/

namespace RenderGraph.Flat

variable {δ : Type} {layout : Layout δ} {graph : Graph δ}

/-- The outermost boundary stands for itself. -/
theorem stands_boundary : Stands layout Anchor.boundary.node ⟨[], .inside⟩ :=
  .boundary

/-- A filter stands for what is at its address. -/
theorem stands_member {index : Nat} {address : List Nat} {spec : FilterSpec δ}
    (h : (filtersIn layout)[index]? = some (address, spec)) :
    Stands layout (Anchor.member index).node ⟨address, .outside⟩ :=
  .filter (by rw [filterAddresses, List.getElem?_map, h, Option.map_some])

/-- A node that stands for a filter or the outermost boundary is one of them. -/
theorem stands_placeIn {anchor : Anchor} (h : layout.Terminal (placeIn layout anchor)) :
    Stands layout anchor.node (placeIn layout anchor) := by
  cases anchor with
  | boundary => exact .boundary
  | member index =>
    cases hg : (filterAddresses layout)[index]? with
    | some address =>
      have hs : Stands layout (Anchor.member index).node ⟨address, .outside⟩ := .filter hg
      rw [placeIn, hs.spotIn_eq]
      exact hs
    | none =>
      -- There is no such filter; the outermost layout stands in its place.
      simp only [placeIn, spotIn, Anchor.node, hg, Option.getD_none] at h
      rcases h with h | ⟨-, spec, h⟩
      · cases h
      · cases Option.some.inj h

/-- Different nodes of connections of a flattened graph stand for different places. -/
theorem placeIn_inj {a b : Anchor} (ha : layout.Terminal (placeIn layout a))
    (he : placeIn layout a = placeIn layout b) : a = b := by
  have hb : layout.Terminal (placeIn layout b) := he ▸ ha
  exact Anchor.node_injective (Stands.eq_of_spot (stands_placeIn ha) (he ▸ stands_placeIn hb))

/-- A connection of a flattened graph stands for one chain only, and no other connection stands for
that chain. -/
theorem Flattened.eq_of_map (flattened : Flattened layout graph) {c d : Connection Anchor}
    (hc : c ∈ graph.connections) (he : c.map (placeIn layout) = d.map (placeIn layout)) :
    c = d := by
  obtain ⟨path, chain⟩ := flattened.sound c hc
  obtain ⟨hs, hp, ht, hq⟩ := Connection.mk.inj he
  exact Connection.ext_ends (Prod.ext (placeIn_inj chain.departs hs) hp)
    (Prod.ext (placeIn_inj chain.arrives ht) hq)

/-- Flattening keeps exactly the data flow of a layout. It succeeds when every boundary port of a
nested layout that is used on one side is also used on the other, and it fails with a build error
otherwise. The filters of the result are those of all levels, and its connections stand for the
chains of the layout, one for each, without duplicates and with one source for a port. -/
theorem flatten_keeps_data_flow (layout : Layout δ) (constructed : layout.Constructed) :
    ((∃ graph, flatten layout = .ok graph) ↔ layout.Matched) ∧
    (∀ error, flatten layout = .error error → error.kind = .build) ∧
    ∀ graph, flatten layout = .ok graph →
      graph.filters.map Filter.spec = (filtersIn layout).map Prod.snd ∧
      (filterAddresses layout).Nodup ∧
      (∀ address spec, (address, spec) ∈ filtersIn layout ↔
        layout.at? address = some (.filter spec)) ∧
      (∀ path c, layout.Chain path c →
        ∃! d, d ∈ graph.connections ∧ d.map (placeIn layout) = c) ∧
      (∀ d ∈ graph.connections, ∃! path, layout.Chain path (d.map (placeIn layout))) ∧
      graph.connections.Nodup ∧ FedOnce graph.connections := by
  rcases flatten_cases constructed with ⟨hm, graph, hg, flattened⟩ | ⟨hm, error, he, hk⟩
  · refine ⟨iff_of_true ⟨graph, hg⟩ hm, ?_, ?_⟩
    · intro error he
      rw [hg] at he
      cases he
    · intro graph' hg'
      obtain rfl : graph = graph' := Except.ok.inj (hg.symm.trans hg')
      refine ⟨flattened.specs, nodup_filterAddresses layout, fun address spec => mem_filtersIn_iff,
        ?_, ?_, flattened.fedOnce.nodup, flattened.fedOnce⟩
      · intro path c chain
        obtain ⟨d, hd, rfl⟩ := flattened.complete path c chain
        exact ⟨d, ⟨hd, rfl⟩, fun e ⟨he, hmap⟩ => flattened.eq_of_map he hmap⟩
      · intro d hd
        obtain ⟨path, chain⟩ := flattened.sound d hd
        exact ⟨path, chain, fun path' chain' =>
          chain'.walk.unique constructed chain.walk chain'.departs rfl rfl⟩
  · refine ⟨iff_of_false ?_ hm, ?_, ?_⟩
    · rintro ⟨graph, hg⟩
      rw [he] at hg
      cases hg
    · intro error' he'
      rw [← Except.error.inj (he.symm.trans he')]
      exact hk
    · intro graph hg
      rw [he] at hg
      cases hg

/-- A layout with one element between its only input and its only output. -/
def framed (typeName name : String) (element : Element δ) : Layout δ where
  typeName
  inputs := ⟨["in"]⟩
  outputs := ⟨["out"]⟩
  elements := [⟨name, element⟩]
  connections := [⟨.boundary, 0, .member 0, 0⟩, ⟨.member 0, 0, .boundary, 0⟩]

/-- A filter in a nested layout. -/
def box (descriptor : δ) : Layout δ :=
  framed "Box" "blur" (.filter ⟨"Blur", ⟨["in"]⟩, ⟨["out"]⟩, descriptor⟩)

/-- The layout with the box in it. -/
def picture (descriptor : δ) : Layout δ :=
  framed "Picture" "box" (.pipeline (box descriptor))

/-- A layout with one element in it can be constructed, whatever admissible name the element has. -/
theorem framed_element_constructed (typeName : String) {name : String}
    (hn : checkName .element name = .ok ()) {element : Element δ} (he : element.Constructed)
    (hi : element.inputs = ⟨["in"]⟩) (ho : element.outputs = ⟨["out"]⟩) :
    (framed typeName name element).Constructed := by
  have hp : Layout.Constructed (⟨typeName, ⟨["in"]⟩, ⟨["out"]⟩, [], []⟩ : Layout δ) :=
    Layout.constructed_of_declared typeName (Ports.declared_singleton rfl)
      (Ports.declared_singleton rfl)
  cases element with
  | filter spec =>
    obtain ⟨filterType, inputs, outputs, descriptor⟩ := spec
    obtain rfl : inputs = _ := hi
    obtain rfl : outputs = _ := ho
    have hf := hp.addFilter he (Layout.add_eq_ok_iff.mpr ⟨hn, nofun, rfl⟩)
    have hin := hf.connectToInput (show Layout.connectToInput _ 0 0 0 = .ok _ from rfl)
    exact hin.connectToOutput (show Layout.connectToOutput _ 0 0 0 = .ok _ from rfl)
  | pipeline nested =>
    obtain ⟨nestedType, inputs, outputs, elements, connections⟩ := nested
    obtain rfl : inputs = _ := hi
    obtain rfl : outputs = _ := ho
    have hl := hp.addPipeline he (Layout.add_eq_ok_iff.mpr ⟨hn, nofun, rfl⟩)
    have hin := hl.connectToInput (show Layout.connectToInput _ 0 0 0 = .ok _ from rfl)
    exact hin.connectToOutput (show Layout.connectToOutput _ 0 0 0 = .ok _ from rfl)

/-- A layout with one filter in it can be constructed. -/
theorem framed_constructed (typeName : String) {name : String}
    (hn : checkName .element name = .ok ()) (filterType : String) (descriptor : δ) :
    (framed typeName name
      (.filter ⟨filterType, ⟨["in"]⟩, ⟨["out"]⟩, descriptor⟩)).Constructed :=
  framed_element_constructed typeName hn
    (FilterSpec.constructed_of_declared filterType (Ports.declared_singleton rfl)
      (Ports.declared_singleton rfl) descriptor) rfl rfl

/-- The box can be constructed. -/
theorem box_constructed (descriptor : δ) : (box descriptor).Constructed :=
  framed_constructed "Box" rfl "Blur" descriptor

/-- So can the layout around it. -/
theorem picture_constructed (descriptor : δ) : (picture descriptor).Constructed :=
  framed_element_constructed "Picture" rfl (box_constructed descriptor) rfl rfl

/-- The box is used on both sides of its boundary. -/
theorem picture_matched (descriptor : δ) : (picture descriptor).Matched := by
  have hsame : ∀ port, (∃ c ∈ (picture descriptor).connections, c.target = (.member 0, port)) ↔
      ∃ c ∈ (box descriptor).connections, c.origin = (.boundary, port) := by
    simp [picture, box, framed, Connection.target, Connection.origin]
  have hback : ∀ port, (∃ c ∈ (box descriptor).connections, c.target = (.boundary, port)) ↔
      ∃ c ∈ (picture descriptor).connections, c.origin = (.member 0, port) := by
    simp [picture, box, framed, Connection.target, Connection.origin]
  intro address outer index placed nested ha hp he port
  -- Only the picture itself and its box are layouts; in the box there is one filter.
  cases address with
  | nil =>
    obtain rfl := Element.pipeline.inj (Option.some.inj ha)
    cases index with
    | zero =>
      obtain rfl := Option.some.inj hp
      obtain rfl := Element.pipeline.inj he
      exact ⟨hsame port, hback port⟩
    | succ index => cases hp
  | cons first rest =>
    cases first with
    | zero =>
      cases rest with
      | nil =>
        obtain rfl := Element.pipeline.inj (Option.some.inj ha)
        cases index with
        | zero =>
          obtain rfl := Option.some.inj hp
          cases he
        | succ index => cases hp
      | cons second rest => cases second <;> cases rest <;> cases ha
    | succ first => cases ha

/-- From the input of the picture two connections lead to the filter in the box, and one connection
of the flattened graph stands for both. -/
theorem picture_keeps_data_flow : (picture ()).Constructed ∧
    ∃ graph, flatten (picture ()) = .ok graph ∧ ∃! d, d ∈ graph.connections ∧
      d.map (placeIn (picture ())) = ⟨⟨[], .inside⟩, 0, ⟨[0, 0], .outside⟩, 0⟩ := by
  have constructed := picture_constructed ()
  obtain ⟨hok, -, hkeeps⟩ := flatten_keeps_data_flow (picture ()) constructed
  obtain ⟨graph, hg⟩ := hok.mpr (picture_matched ())
  obtain ⟨-, -, -, hchain, -⟩ := hkeeps graph hg
  have hout : (picture ()).Authored ⟨⟨[], .inside⟩, 0, ⟨[0], .outside⟩, 0⟩ :=
    ⟨[], picture (), rfl, ⟨.boundary, 0, .member 0, 0⟩, by simp [picture, framed], rfl⟩
  have hin : (picture ()).Authored ⟨⟨[0], .inside⟩, 0, ⟨[0, 0], .outside⟩, 0⟩ :=
    ⟨[0], box (), rfl, ⟨.boundary, 0, .member 0, 0⟩, by simp [box, framed], rfl⟩
  have hwalk := Layout.Walk.extend (.single hout) hin rfl
  exact ⟨constructed, graph, hg, hchain _ _ ⟨hwalk, Or.inl rfl, Or.inr ⟨rfl, _, rfl⟩⟩⟩

end RenderGraph.Flat
