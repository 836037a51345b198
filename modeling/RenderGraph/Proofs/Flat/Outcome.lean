import RenderGraph.Proofs.Flat.Merge
import RenderGraph.Proofs.Flat.Survey

/-!
# What flattening makes of a layout

The links of a survey are tidy, so merging them succeeds or fails as it should.
What it keeps is read back in terms of the layout: a connection of the flattened
graph stands for a chain of connections of the layout, and the other way round.
-/

namespace RenderGraph

/-- The level of a spot: how deep it lies, with the sign of the side it is seen from. -/
def Spot.level (spot : Spot) : Int :=
  match spot.side with
  | .inside => spot.address.length
  | .outside => -spot.address.length

/-- Crossing a boundary changes the sign. -/
theorem Spot.level_across (spot : Spot) : spot.across.level = -spot.level := by
  obtain ⟨address, side⟩ := spot
  cases side <;> simp [level, across, Flat.Side.opposite]

variable {δ : Type} {layout : Layout δ}

/-- The ends of a connection are on levels that add up to less than nothing: only one of them can
be the boundary of the layout, and elements lie deeper than the boundary. -/
theorem Layout.Authored.onwards (h : layout.Constructed) {c : Connection Spot}
    (hc : layout.Authored c) : c.source.level + c.destination.level < 0 := by
  obtain ⟨address, nested, ha, d, hd, rfl⟩ := hc
  have hcross := (h.at? ha).wired.crossing d hd
  cases hs : d.source <;> cases ht : d.destination <;>
    simp only [Connection.map, hs, ht, Anchor.spot, Spot.level, List.length_append,
      List.length_singleton]
  · exact absurd ⟨hs, ht⟩ hcross
  all_goals omega

/-- The node of a flattened graph as one of a graph that is being flattened. -/
def Anchor.node : Anchor → Flat.Node Flat.Side
  | .boundary => .boundary
  | .member index => .filter index

/-- A node of the flattened graph is no slot. -/
theorem Anchor.slot?_node (anchor : Anchor) : anchor.node.slot? = none := by
  cases anchor <;> rfl

/-- Different nodes of the flattened graph are different before. -/
theorem Anchor.node_injective : Function.Injective Anchor.node := by
  intro a b h
  cases a <;> cases b <;> simp_all [Anchor.node]

namespace Flat

/-- The spot that a node stands for in the survey of a layout. -/
def spotIn (layout : Layout δ) : Node Side → Spot
  | .boundary => ⟨[], .inside⟩
  | .filter index => ⟨(filterAddresses layout)[index]?.getD [], .outside⟩
  | .slot index side => ⟨(slotAddresses layout)[index]?.getD [], side⟩

/-- The spot that a node of the flattened graph stands for: the filter with that number, or the
boundary of the outermost layout. -/
def placeIn (layout : Layout δ) (anchor : Anchor) : Spot :=
  spotIn layout anchor.node

/-- A node stands for a spot of a layout. -/
def Stands (layout : Layout δ) (node : Node Side) (spot : Spot) : Prop :=
  Marks (filterAddresses layout) (slotAddresses layout) node spot

/-- A link stands for a connection of a layout. -/
def Pictures (layout : Layout δ) (l : Link Side) (c : Connection Spot) : Prop :=
  Draws (filterAddresses layout) (slotAddresses layout) l c

/-- The levels of the spots that nodes stand for. -/
def levels (layout : Layout δ) : Levels where
  level := fun node => (spotIn layout node).level
  across := by
    intro node hs
    cases node with
    | slot index side => exact Spot.level_across (spotIn layout (.slot index side))
    | boundary => cases hs
    | filter index => cases hs

section Standing

variable {node other : Node Side} {spot : Spot}

/-- A node stands for one spot only. -/
theorem Stands.spotIn_eq (h : Stands layout node spot) : spotIn layout node = spot := by
  cases h with
  | boundary => rfl
  | filter h => simp [spotIn, h]
  | slot h => simp [spotIn, h]

/-- The outermost layout is not a filter. -/
theorem nil_not_mem_filterAddresses : [] ∉ filterAddresses layout := by
  intro hm
  obtain ⟨⟨a, spec⟩, hm, he⟩ := List.mem_map.mp hm
  obtain rfl : a = [] := he
  cases Option.some.inj (mem_filtersIn_iff.mp hm)

/-- The outermost layout has no slot. -/
theorem nil_not_mem_slotAddresses : [] ∉ slotAddresses layout :=
  fun hm => (mem_slotAddresses_iff.mp hm).1 rfl

/-- Only one node stands for a spot. -/
theorem Stands.eq_of_spot (h : Stands layout node spot) (k : Stands layout other spot) :
    node = other := by
  cases h with
  | boundary =>
    cases k with
    | boundary => rfl
    | slot k => exact absurd (List.mem_of_getElem? k) nil_not_mem_slotAddresses
  | @filter i a h =>
    cases k with
    | @filter j _ k =>
      have hl := (List.getElem?_eq_some_iff.mp h).1
      rw [(List.getElem?_inj hl (nodup_filterAddresses layout)).mp (h.trans k.symm)]
    | slot k =>
      exact (disjoint_addresses layout (List.mem_of_getElem? h) (List.mem_of_getElem? k)).elim
  | @slot i a side h =>
    cases k with
    | boundary => exact absurd (List.mem_of_getElem? h) nil_not_mem_slotAddresses
    | filter k =>
      exact (disjoint_addresses layout (List.mem_of_getElem? k) (List.mem_of_getElem? h)).elim
    | @slot j _ _ k =>
      have hl := (List.getElem?_eq_some_iff.mp h).1
      rw [(List.getElem?_inj hl (nodup_slotAddresses layout)).mp (h.trans k.symm)]

/-- The other side of a nested pipeline stands for the other side of its spot. -/
theorem Stands.across (h : Stands layout node spot) (hs : node.slot?.isSome = true) :
    Stands layout node.across spot.across := by
  cases h with
  | boundary => cases hs
  | filter h => cases hs
  | slot h => exact .slot h

/-- A spot that is seen from both sides belongs to a nested pipeline. -/
theorem Stands.of_across (h : Stands layout node spot) (k : Stands layout other spot.across) :
    node.slot?.isSome = true ∧ other = node.across := by
  cases h with
  | boundary =>
    cases k with
    | filter k => exact absurd (List.mem_of_getElem? k) nil_not_mem_filterAddresses
    | slot k => exact absurd (List.mem_of_getElem? k) nil_not_mem_slotAddresses
  | filter h =>
    cases k with
    | boundary => exact absurd (List.mem_of_getElem? h) nil_not_mem_filterAddresses
    | slot k =>
      exact (disjoint_addresses layout (List.mem_of_getElem? h) (List.mem_of_getElem? k)).elim
  | slot h => exact ⟨rfl, Stands.eq_of_spot k (Marks.slot h)⟩

/-- Filters and the boundary of the outermost layout are the nodes that are no slots. -/
theorem Stands.terminal_iff (h : Stands layout node spot) :
    layout.Terminal spot ↔ node.slot?.isSome = false := by
  cases h with
  | boundary => exact ⟨fun _ => rfl, fun _ => Or.inl rfl⟩
  | filter h =>
    obtain ⟨⟨a, spec⟩, hm, rfl⟩ := List.mem_map.mp (List.mem_of_getElem? h)
    exact ⟨fun _ => rfl, fun _ => Or.inr ⟨rfl, spec, mem_filtersIn_iff.mp hm⟩⟩
  | slot h =>
    obtain ⟨hne, nested, ha⟩ := mem_slotAddresses_iff.mp (List.mem_of_getElem? h)
    refine ⟨?_, nofun⟩
    rintro (ht | ⟨-, spec, ht⟩)
    · exact absurd (Spot.mk.inj ht).1 hne
    · rw [ha] at ht
      cases ht

end Standing

section Links

variable (constructed : layout.Constructed)
include constructed

/-- A link stands for a connection that was made. -/
theorem exists_authored {l : Link Side} (hl : l ∈ linksIn layout) :
    ∃ c, layout.Authored c ∧ Pictures layout l c := by
  obtain ⟨c, hc, hd⟩ := exists_left_of_forall₂ (survey_surveys constructed).links.flip hl
  exact ⟨c, mem_authoredIn_iff.mp hc, hd⟩

/-- A connection that was made has a link. -/
theorem exists_link {c : Connection Spot} (hc : layout.Authored c) :
    ∃ l ∈ linksIn layout, Pictures layout l c :=
  exists_left_of_forall₂ (survey_surveys constructed).links (mem_authoredIn_iff.mpr hc)

/-- The links of a survey are tidy. -/
theorem tidy_survey : Tidy (levels layout) (linksIn layout) where
  fedOnce := by
    have hn := List.pairwise_map.mp (fedOnce_authoredIn constructed)
    refine List.pairwise_map.mpr (pairwise_of_forall₂ (survey_surveys constructed).links hn ?_)
    intro l l' c c' hl hl' hne he
    obtain ⟨hd, hp⟩ := Prod.mk.inj he
    have hlc : spotIn layout l.destination = c.destination := Stands.spotIn_eq hl.destination
    have hlc' : spotIn layout l'.destination = c'.destination := Stands.spotIn_eq hl'.destination
    refine hne (Prod.ext ?_ ?_)
    · exact hlc.symm.trans ((congrArg (spotIn layout) hd).trans hlc')
    · exact hl.destinationPort.symm.trans (hp.trans hl'.destinationPort)
  onwards := by
    intro l hl
    obtain ⟨c, hc, hd⟩ := exists_authored constructed hl
    have hs : spotIn layout l.source = c.source := Stands.spotIn_eq hd.source
    have ht : spotIn layout l.destination = c.destination := Stands.spotIn_eq hd.destination
    simp only [levels, hs, ht]
    exact hc.onwards constructed

/-- A port is fed by a link exactly when the port it stands for is fed. -/
theorem fed_iff {node : Node Side} {spot : Spot} (hs : Stands layout node spot) {port : Nat} :
    Fed (linksIn layout) (node, port) ↔
      ∃ c, layout.Authored c ∧ c.target = (spot, port) := by
  constructor
  · rintro ⟨l, hl, ht⟩
    obtain ⟨hn, hp⟩ := Prod.mk.inj ht
    obtain ⟨c, hc, hd⟩ := exists_authored constructed hl
    have hlc : spotIn layout l.destination = c.destination := Stands.spotIn_eq hd.destination
    refine ⟨c, hc, Prod.ext ?_ (hd.destinationPort.symm.trans hp)⟩
    rw [← hs.spotIn_eq, ← hn]
    exact hlc.symm
  · rintro ⟨c, hc, ht⟩
    obtain ⟨hn, hp⟩ := Prod.mk.inj ht
    obtain ⟨l, hl, hd⟩ := exists_link constructed hc
    refine ⟨l, hl, Prod.ext ?_ (hd.destinationPort.trans hp)⟩
    exact Stands.eq_of_spot hd.destination (hn ▸ hs)

/-- A port is read by a link exactly when the port it stands for is read. -/
theorem read_iff {node : Node Side} {spot : Spot} (hs : Stands layout node spot) {port : Nat} :
    Read (linksIn layout) (node, port) ↔
      ∃ c, layout.Authored c ∧ c.origin = (spot, port) := by
  constructor
  · rintro ⟨l, hl, ht⟩
    obtain ⟨hn, hp⟩ := Prod.mk.inj ht
    obtain ⟨c, hc, hd⟩ := exists_authored constructed hl
    have hlc : spotIn layout l.source = c.source := Stands.spotIn_eq hd.source
    refine ⟨c, hc, Prod.ext ?_ (hd.sourcePort.symm.trans hp)⟩
    rw [← hs.spotIn_eq, ← hn]
    exact hlc.symm
  · rintro ⟨c, hc, ht⟩
    obtain ⟨hn, hp⟩ := Prod.mk.inj ht
    obtain ⟨l, hl, hd⟩ := exists_link constructed hc
    refine ⟨l, hl, Prod.ext ?_ (hd.sourcePort.trans hp)⟩
    exact Stands.eq_of_spot hd.source (hn ▸ hs)

/-- A way through the links stands for a sequence of connections that meet. -/
theorem exists_walk {l : Link Side} (h : Route (linksIn layout) l) :
    ∃ path c, layout.Walk path c ∧ Pictures layout l c := by
  induction h with
  | single hl =>
    obtain ⟨c, hc, hd⟩ := exists_authored constructed hl
    exact ⟨[c], c, .single hc, hd⟩
  | @extend l m _ hm hlm ih =>
    obtain ⟨path, c, hw, hl⟩ := ih
    obtain ⟨d, hd, hmd⟩ := exists_authored constructed hm
    obtain ⟨hslot, ho⟩ := continues_iff.mp hlm
    obtain ⟨hs, hp⟩ := Prod.mk.inj ho
    have hacross : Stands layout m.source c.destination.across :=
      hs ▸ Stands.across hl.destination hslot
    have hmeet : c.Meets d := by
      refine Prod.ext ?_ ?_
      · exact (Stands.spotIn_eq hmd.source).symm.trans hacross.spotIn_eq
      · exact hmd.sourcePort.symm.trans (hp.trans hl.destinationPort)
    exact ⟨_, _, .extend hw hd hmeet,
      ⟨hl.source, hl.sourcePort, hmd.destination, hmd.destinationPort⟩⟩

/-- A sequence of connections that meet has a way through the links. -/
theorem exists_route {path : List (Connection Spot)} {c : Connection Spot}
    (h : layout.Walk path c) : ∃ l, Route (linksIn layout) l ∧ Pictures layout l c := by
  induction h with
  | single hc =>
    obtain ⟨l, hl, hd⟩ := exists_link constructed hc
    exact ⟨l, .single hl, hd⟩
  | @extend path c d _ hd hmeet ih =>
    obtain ⟨l, hr, hl⟩ := ih
    obtain ⟨m, hm, hmd⟩ := exists_link constructed hd
    obtain ⟨hs, hp⟩ := Prod.mk.inj hmeet
    have hsource : Stands layout m.source c.destination.across := hs ▸ hmd.source
    obtain ⟨hslot, hn⟩ := Stands.of_across hl.destination hsource
    have hlm : continues l m = true := by
      refine continues_iff.mpr ⟨hslot, Prod.ext hn ?_⟩
      exact hmd.sourcePort.trans (hp.trans hl.destinationPort.symm)
    exact ⟨_, .extend hr hm hlm,
      ⟨hl.source, hl.sourcePort, hmd.destination, hmd.destinationPort⟩⟩

/-- The links are balanced exactly when nested layouts are used on both sides or on neither. -/
theorem balanced_survey_iff : Balanced (linksIn layout) ↔ layout.Matched := by
  rw [Layout.matched_iff]
  constructor
  · intro hb address nested hne ha side port
    obtain ⟨slot, hs⟩ :=
      List.mem_iff_getElem?.mp (mem_slotAddresses_iff.mpr ⟨hne, nested, ha⟩)
    have hstands : ∀ side, Stands layout (.slot slot side) ⟨address, side⟩ := fun _ => .slot hs
    have h := hb (.slot slot side, port) rfl
    rwa [show opposite (.slot slot side, port) = (.slot slot side.opposite, port) from rfl,
      fed_iff constructed (hstands _), read_iff constructed (hstands _)] at h
  · rintro hm ⟨node, port⟩ hslot
    cases node with
    | boundary => cases hslot
    | filter index => cases hslot
    | slot slot side =>
      rw [show opposite (.slot slot side, port) = (.slot slot side.opposite, port) from rfl]
      cases hs : (slotAddresses layout)[slot]? with
      | none =>
        -- No link touches a slot that does not exist.
        have hfree : ∀ side spot, ¬ Stands layout (.slot slot side) spot := by
          intro side spot h
          cases h with
          | slot h => simp [hs] at h
        refine iff_of_false ?_ ?_
        · rintro ⟨l, hl, ht⟩
          obtain ⟨c, -, hd⟩ := exists_authored constructed hl
          have hn : l.destination = .slot slot side := congrArg Prod.fst ht
          exact hfree _ _ (hn ▸ hd.destination)
        · rintro ⟨l, hl, ho⟩
          obtain ⟨c, -, hd⟩ := exists_authored constructed hl
          have hn : l.source = .slot slot side.opposite := congrArg Prod.fst ho
          exact hfree _ _ (hn ▸ hd.source)
      | some address =>
        have hstands : ∀ side, Stands layout (.slot slot side) ⟨address, side⟩ := fun _ => .slot hs
        rw [fed_iff constructed (hstands _), read_iff constructed (hstands _)]
        obtain ⟨hne, nested, ha⟩ := mem_slotAddresses_iff.mp (List.mem_of_getElem? hs)
        exact hm address nested hne ha side port

end Links

section Result

/-- A link is a connection of the flattened graph when no slot is left in it. -/
theorem toConnection_eq_ok_iff {l : Link Side} {c : Connection Anchor} :
    toConnection l = .ok c ↔ l = c.map Anchor.node := by
  obtain ⟨source, sourcePort, destination, destinationPort⟩ := l
  obtain ⟨source', sourcePort', destination', destinationPort'⟩ := c
  cases source <;> cases destination <;> cases source' <;> cases destination' <;>
    simp [toConnection, Node.toAnchor, Connection.map, Anchor.node, bind, Except.bind, pure,
      Except.pure]

/-- A link that touches no slot is a connection of the flattened graph. -/
theorem exists_toConnection {l : Link Side} (h : touchesSlot l = false) :
    ∃ c, toConnection l = .ok c := by
  obtain ⟨source, sourcePort, destination, destinationPort⟩ := l
  cases source <;> cases destination <;> first
    | exact ⟨_, rfl⟩
    | cases h

/-- What a flattened graph keeps of a layout. -/
structure Flattened (layout : Layout δ) (graph : Graph δ) : Prop where
  /-- Its filters are those of all levels. -/
  specs : graph.filters.map Filter.spec = (filtersIn layout).map Prod.snd
  /-- No port is fed twice. -/
  fedOnce : FedOnce graph.connections
  /-- No connection leads from the boundary to the boundary. -/
  crossing : ∀ c ∈ graph.connections, ¬ (c.source = .boundary ∧ c.destination = .boundary)
  /-- Every connection stands for a chain. -/
  sound : ∀ c ∈ graph.connections, ∃ path, layout.Chain path (c.map (placeIn layout))
  /-- Every chain has its connection. -/
  complete : ∀ path c, layout.Chain path c →
    ∃ d ∈ graph.connections, d.map (placeIn layout) = c
  /-- The ports that are fed are fed at their level. -/
  fed : ∀ anchor spot, Stands layout anchor.node spot → ∀ port,
    ((∃ c ∈ graph.connections, c.target = (anchor, port)) ↔
      ∃ c, layout.Authored c ∧ c.target = (spot, port))
  /-- The ports that are read are read at their level. -/
  read : ∀ anchor spot, Stands layout anchor.node spot → ∀ port,
    ((∃ c ∈ graph.connections, c.origin = (anchor, port)) ↔
      ∃ c, layout.Authored c ∧ c.origin = (spot, port))

/-- A link between nodes of the flattened graph stands for what these stand for. -/
theorem Pictures.map_placeIn {c : Connection Anchor} {d : Connection Spot}
    (h : Pictures layout (c.map Anchor.node) d) : c.map (placeIn layout) = d := by
  refine Connection.ext_ends (Prod.ext ?_ h.sourcePort) (Prod.ext ?_ h.destinationPort)
  · exact Stands.spotIn_eq h.source
  · exact Stands.spotIn_eq h.destination

section Nodes

variable {connections : List (Connection Anchor)} {anchor : Anchor} {port : Nat}

/-- A port is fed whether its node is written as an anchor or not. -/
theorem target_map_node_iff :
    (∃ l ∈ connections.map fun c => c.map Anchor.node, l.target = (anchor.node, port)) ↔
      ∃ c ∈ connections, c.target = (anchor, port) := by
  constructor
  · rintro ⟨l, hm, ht⟩
    obtain ⟨c, hc, rfl⟩ := List.mem_map.mp hm
    obtain ⟨hn, hp⟩ := Prod.mk.inj ht
    exact ⟨c, hc, Prod.ext (Anchor.node_injective hn) hp⟩
  · rintro ⟨c, hc, ht⟩
    obtain ⟨hn, hp⟩ := Prod.mk.inj ht
    exact ⟨_, List.mem_map_of_mem hc, Prod.ext (congrArg Anchor.node hn) hp⟩

/-- So it is read. -/
theorem origin_map_node_iff :
    (∃ l ∈ connections.map fun c => c.map Anchor.node, l.origin = (anchor.node, port)) ↔
      ∃ c ∈ connections, c.origin = (anchor, port) := by
  constructor
  · rintro ⟨l, hm, ht⟩
    obtain ⟨c, hc, rfl⟩ := List.mem_map.mp hm
    obtain ⟨hn, hp⟩ := Prod.mk.inj ht
    exact ⟨c, hc, Prod.ext (Anchor.node_injective hn) hp⟩
  · rintro ⟨c, hc, ht⟩
    obtain ⟨hn, hp⟩ := Prod.mk.inj ht
    exact ⟨_, List.mem_map_of_mem hc, Prod.ext (congrArg Anchor.node hn) hp⟩

end Nodes

/-- What merging the links of a survey gives is what flattening has to give. -/
theorem Merged.flattened (constructed : layout.Constructed) {last : List (Link Side)}
    (merged : Merged (levels layout) (linksIn layout) last)
    {connections : List (Connection Anchor)}
    (hl : last = connections.map fun c => c.map Anchor.node) :
    Flattened layout ⟨(survey layout).filters, connections⟩ where
  specs := (survey_surveys constructed).specs
  fedOnce := by
    have hn := merged.tidy.fedOnce
    rw [hl, FedOnce, List.map_map] at hn
    refine List.Nodup.of_map (fun port => (port.1.node, port.2)) ?_
    rw [List.map_map]
    exact hn
  crossing := by
    rintro c hc ⟨hs, ht⟩
    have hm : c.map Anchor.node ∈ last := hl ▸ List.mem_map_of_mem hc
    have hlow := merged.tidy.onwards _ hm
    simp [Connection.map, hs, ht, Anchor.node, levels, spotIn, Spot.level] at hlow
  sound := by
    intro c hc
    have hm : c.map Anchor.node ∈ last := hl ▸ List.mem_map_of_mem hc
    obtain ⟨hr, -⟩ := (merged.mem_iff _).mp hm
    obtain ⟨path, d, hw, hd⟩ := exists_walk constructed hr
    have hs := (Stands.terminal_iff hd.source).mpr (by simp [Connection.map, Anchor.slot?_node])
    have ht := (Stands.terminal_iff hd.destination).mpr
      (by simp [Connection.map, Anchor.slot?_node])
    exact ⟨path, hd.map_placeIn ▸ ⟨hw, hs, ht⟩⟩
  complete := by
    intro path c hc
    obtain ⟨l, hr, hd⟩ := exists_route constructed hc.walk
    have hfree : touchesSlot l = false := touchesSlot_eq_false_iff.mpr
      ⟨(Stands.terminal_iff hd.source).mp hc.departs,
        (Stands.terminal_iff hd.destination).mp hc.arrives⟩
    have hm := (merged.mem_iff l).mpr ⟨hr, hfree⟩
    rw [hl] at hm
    obtain ⟨d, hdm, rfl⟩ := List.mem_map.mp hm
    exact ⟨d, hdm, hd.map_placeIn⟩
  fed := by
    intro anchor spot hs port
    have hfree : onSlot (anchor.node, port) = false := by simp [onSlot, Anchor.slot?_node]
    rw [← fed_iff constructed hs, ← merged.fed _ hfree, hl]
    exact target_map_node_iff.symm
  read := by
    intro anchor spot hs port
    have hfree : onSlot (anchor.node, port) = false := by simp [onSlot, Anchor.slot?_node]
    rw [← read_iff constructed hs, ← merged.read _ hfree, hl]
    exact origin_map_node_iff.symm

/-- Flattening succeeds when nested layouts are used on both sides or on neither, and it fails with
a build error otherwise. -/
theorem flatten_cases (constructed : layout.Constructed) :
    (layout.Matched ∧ ∃ graph, flatten layout = .ok graph ∧ Flattened layout graph) ∨
      (¬ layout.Matched ∧ ∃ error, flatten layout = .error error ∧ error.kind = .build) := by
  rw [← balanced_survey_iff constructed]
  rcases (tidy_survey constructed).merge with ⟨hb, last, hm, merged⟩ | ⟨hb, stuck, hm⟩
  · refine Or.inl ⟨hb, ?_⟩
    have hfree : ∀ l ∈ last, ∃ c, toConnection l = .ok c :=
      fun l hl => exists_toConnection ((merged.mem_iff l).mp hl).2
    obtain ⟨connections, hc⟩ := exists_mapM_eq_ok hfree
    have hl : last = connections.map fun c => c.map Anchor.node := by
      rw [← List.forall₂_eq_eq_eq, List.forall₂_map_right_iff]
      exact (mapM_eq_ok_iff.mp hc).imp fun l c h => toConnection_eq_ok_iff.mp h
    refine ⟨_, ?_, merged.flattened constructed hl⟩
    simp [flatten, connectionsOf_survey, hm, hc, bind, Except.bind, pure, Except.pure]
  · refine Or.inr ⟨hb, ?_⟩
    refine ⟨⟨.stuckMerging (slotPaths (survey layout).slots stuck), []⟩, ?_, rfl⟩
    simp [flatten, connectionsOf_survey, hm, bind, Except.bind]

/-- A graph that a layout is flattened to is its flattened graph. -/
theorem flattened_of_eq_ok (constructed : layout.Constructed) {graph : Graph δ}
    (h : flatten layout = .ok graph) : Flattened layout graph := by
  rcases flatten_cases constructed with ⟨-, found, hf, flattened⟩ | ⟨-, e, he, -⟩
  · obtain rfl : found = graph := Except.ok.inj (hf.symm.trans h)
    exact flattened
  · rw [h] at he
    cases he

end Result

end Flat

end RenderGraph
