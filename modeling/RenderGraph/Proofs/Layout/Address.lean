import RenderGraph.Proofs.Layout.Wired
import Mathlib.Data.List.Induction

/-!
# Places in a nested layout

An element at any depth has an address: the indices of the elements that lead to
it from the outermost layout. A connection of a nested layout then leads from one
spot to another, where a spot is an element seen from the layout around it, or a
layout seen from its own connections.
-/

namespace RenderGraph

variable {δ : Type}

/-- The element at an address below an element. -/
def Element.at? : Element δ → List Nat → Option (Element δ)
  | element, [] => some element
  | .filter _, _ :: _ => none
  | .pipeline layout, index :: rest =>
    layout.elements[index]?.bind fun placed => placed.element.at? rest

/-- Addresses are followed one part after the other. -/
theorem Element.at?_append (element : Element δ) (address rest : List Nat) :
    element.at? (address ++ rest) = (element.at? address).bind fun found => found.at? rest := by
  induction address generalizing element with
  | nil => rfl
  | cons index address ih =>
    cases element with
    | filter spec => rfl
    | pipeline layout =>
      simp only [List.cons_append, at?]
      cases layout.elements[index]? with
      | none => rfl
      | some placed => exact ih placed.element

/-- From where the boundary of a nested layout is seen. -/
inductive Flat.Side where
  /-- From within the nested layout. -/
  | inside
  /-- From the layout that contains it. -/
  | outside
  deriving DecidableEq, Repr

/-- The other side of a boundary. -/
def Flat.Side.opposite : Flat.Side → Flat.Side
  | inside => outside
  | outside => inside

/-- Crossing a boundary twice leads back. -/
@[simp]
theorem Flat.Side.opposite_opposite (side : Flat.Side) : side.opposite.opposite = side := by
  cases side <;> rfl

/-- Where the connections of a layout end. -/
structure Spot where
  /-- The address of an element; the outermost layout has the empty one. -/
  address : List Nat
  /-- From where the element is seen. -/
  side : Flat.Side
  deriving DecidableEq, Repr

/-- The same place seen from the other side. -/
def Spot.across (spot : Spot) : Spot :=
  ⟨spot.address, spot.side.opposite⟩

/-- Different spots are different from the other side, too. -/
theorem Spot.across_injective : Function.Injective Spot.across := by
  intro a b h
  have ha : a.address = b.address := (Spot.mk.inj h).1
  have hs : a.side.opposite = b.side.opposite := (Spot.mk.inj h).2
  have hside := congrArg Flat.Side.opposite hs
  rw [Flat.Side.opposite_opposite, Flat.Side.opposite_opposite] at hside
  cases a
  cases b
  exact Spot.mk.injEq .. ▸ And.intro ha hside

/-- Where an end of a connection is, given the address of the layout that owns the connection. -/
def Anchor.spot (address : List Nat) : Anchor → Spot
  | .boundary => ⟨address, .inside⟩
  | .member index => ⟨address ++ [index], .outside⟩

/-- Different ends in one layout are different spots. -/
theorem Anchor.spot_injective (address : List Nat) : Function.Injective (Anchor.spot address) := by
  intro a b h
  cases a <;> cases b <;> simp_all [Anchor.spot]

/-- Ends of connections of different layouts are different spots. -/
theorem Anchor.spot_inj {address other : List Nat} {a b : Anchor}
    (h : a.spot address = b.spot other) : address = other ∧ a = b := by
  cases a <;> cases b <;> simp_all [Anchor.spot]

namespace Layout

variable {layout : Layout δ}

/-- The element at an address. The layout itself stands at the empty one. -/
def at? (layout : Layout δ) (address : List Nat) : Option (Element δ) :=
  (Element.pipeline layout).at? address

/-- What stands below an index of a layout. -/
theorem at?_cons {index : Nat} {address : List Nat} {element : Element δ} :
    layout.at? (index :: address) = some element ↔ ∃ placed,
      layout.elements[index]? = some placed ∧ placed.element.at? address = some element :=
  Option.bind_eq_some_iff

/-- An element below the outermost layout is an element of the layout at the address without its
last index. -/
theorem at?_concat {address : List Nat} {index : Nat} {element : Element δ} :
    layout.at? (address ++ [index]) = some element ↔ ∃ outer placed,
      layout.at? address = some (.pipeline outer) ∧ outer.elements[index]? = some placed ∧
        placed.element = element := by
  rw [at?, Element.at?_append, Option.bind_eq_some_iff]
  constructor
  · rintro ⟨found, hf, he⟩
    cases found with
    | filter spec => cases he
    | pipeline outer =>
      obtain ⟨placed, hp, he⟩ := Option.bind_eq_some_iff.mp he
      exact ⟨outer, placed, hf, hp, Option.some.inj he⟩
  · rintro ⟨outer, placed, hf, hp, he⟩
    exact ⟨_, hf, by simp [Element.at?, hp, he]⟩

/-- Every layout in a layout that can be constructed can be constructed. -/
theorem Constructed.at? (h : layout.Constructed) {address : List Nat} {nested : Layout δ}
    (ha : layout.at? address = some (.pipeline nested)) : nested.Constructed := by
  induction address using List.reverseRecOn generalizing nested with
  | nil => exact Element.pipeline.inj (Option.some.inj ha) ▸ h
  | append_singleton address index ih =>
    obtain ⟨outer, placed, ho, hp, he⟩ := at?_concat.mp ha
    exact (ih ho).nested placed (List.mem_of_getElem? hp) nested he

/-- A connection that was made in the layout itself or in one that is nested in it. -/
def Authored (layout : Layout δ) (c : Connection Spot) : Prop :=
  ∃ address nested, layout.at? address = some (.pipeline nested) ∧
    ∃ d ∈ nested.connections, c = d.map (Anchor.spot address)

/-- A filter, or the boundary of the outermost layout. Textures come from there and end there. -/
def Terminal (layout : Layout δ) (spot : Spot) : Prop :=
  spot = ⟨[], .inside⟩ ∨
    spot.side = .outside ∧ ∃ spec, layout.at? spot.address = some (.filter spec)

/-- A port is fed by one connection only, at every level. -/
theorem Authored.eq_of_target (h : layout.Constructed) {c d : Connection Spot}
    (hc : layout.Authored c) (hd : layout.Authored d) (he : c.target = d.target) : c = d := by
  obtain ⟨address, nested, ha, c, hc, rfl⟩ := hc
  obtain ⟨other, nested', ha', d, hd, rfl⟩ := hd
  obtain ⟨hs, hp⟩ := Prod.mk.inj he
  obtain ⟨rfl, hn⟩ := Anchor.spot_inj hs
  have hl : nested = nested' := by
    rw [ha, Option.some.injEq] at ha'
    exact Element.pipeline.inj ha'
  subst hl
  have ht : c.target = d.target := Prod.ext hn hp
  rw [(h.at? ha).wired.fedOnce.eq_of_target hc hd ht]

/-- A connection that reads a filter reads one of its outputs. -/
theorem Authored.sourcePort_lt (h : layout.Constructed) {c : Connection Spot}
    (hc : layout.Authored c) {spec : FilterSpec δ}
    (hf : layout.at? c.source.address = some (.filter spec)) :
    c.sourcePort < spec.outputs.size := by
  obtain ⟨address, nested, ha, d, hd, rfl⟩ := hc
  have hp := (h.at? ha).wired.source d hd
  cases hs : d.source with
  | boundary =>
    simp only [Connection.map, hs, Anchor.spot, ha] at hf
    cases hf
  | member index =>
    simp only [Connection.map, hs, Anchor.spot] at hf
    rw [hs] at hp
    obtain ⟨placed, hg, hlt⟩ := hasPort_member_output.mp hp
    rw [at?_concat.mpr ⟨nested, placed, ha, hg, rfl⟩] at hf
    rwa [Option.some.inj hf] at hlt

/-- A connection that feeds a filter feeds one of its inputs. -/
theorem Authored.destinationPort_lt (h : layout.Constructed) {c : Connection Spot}
    (hc : layout.Authored c) {spec : FilterSpec δ}
    (hf : layout.at? c.destination.address = some (.filter spec)) :
    c.destinationPort < spec.inputs.size := by
  obtain ⟨address, nested, ha, d, hd, rfl⟩ := hc
  have hp := (h.at? ha).wired.destination d hd
  cases hs : d.destination with
  | boundary =>
    simp only [Connection.map, hs, Anchor.spot, ha] at hf
    cases hf
  | member index =>
    simp only [Connection.map, hs, Anchor.spot] at hf
    rw [hs] at hp
    obtain ⟨placed, hg, hlt⟩ := hasPort_member_input.mp hp
    rw [at?_concat.mpr ⟨nested, placed, ha, hg, rfl⟩] at hf
    rwa [Option.some.inj hf] at hlt

/-- A connection that feeds the outermost boundary feeds one of the outputs of the layout. -/
theorem Authored.output_lt (h : layout.Constructed) {c : Connection Spot}
    (hc : layout.Authored c) (hb : c.destination = ⟨[], .inside⟩) :
    c.destinationPort < layout.outputs.size := by
  obtain ⟨address, nested, ha, d, hd, rfl⟩ := hc
  have hp := (h.at? ha).wired.destination d hd
  have hspot : d.destination.spot address = Anchor.boundary.spot [] := hb
  obtain ⟨rfl, hs⟩ := Anchor.spot_inj hspot
  obtain rfl := Element.pipeline.inj (Option.some.inj ha)
  rw [hs] at hp
  exact hasPort_boundary_input.mp hp

/-- A connection that reads the outermost boundary reads one of the inputs of the layout. -/
theorem Authored.input_lt (h : layout.Constructed) {c : Connection Spot}
    (hc : layout.Authored c) (hb : c.source = ⟨[], .inside⟩) :
    c.sourcePort < layout.inputs.size := by
  obtain ⟨address, nested, ha, d, hd, rfl⟩ := hc
  have hp := (h.at? ha).wired.source d hd
  obtain ⟨rfl, hs⟩ := Anchor.spot_inj (show d.source.spot address = Anchor.boundary.spot [] from hb)
  obtain rfl := Element.pipeline.inj (Option.some.inj ha)
  rw [hs] at hp
  exact hasPort_boundary_output.mp hp

/-- A port of a layout is fed by a connection of that layout or by none. -/
theorem authored_target_iff {address : List Nat} {nested : Layout δ}
    (ha : layout.at? address = some (.pipeline nested)) (anchor : Anchor) (port : Nat) :
    (∃ c, layout.Authored c ∧ c.target = (anchor.spot address, port)) ↔
      ∃ c ∈ nested.connections, c.target = (anchor, port) := by
  constructor
  · rintro ⟨-, ⟨other, nested', ha', c, hc, rfl⟩, ht⟩
    obtain ⟨hs, hp⟩ := Prod.mk.inj ht
    obtain ⟨rfl, hn⟩ := Anchor.spot_inj hs
    obtain rfl := Element.pipeline.inj (Option.some.inj (ha.symm.trans ha'))
    exact ⟨c, hc, Prod.ext hn hp⟩
  · rintro ⟨c, hc, ht⟩
    obtain ⟨hs, hp⟩ := Prod.mk.inj ht
    refine ⟨_, ⟨address, nested, ha, c, hc, rfl⟩, Prod.ext ?_ hp⟩
    exact congrArg (Anchor.spot address) hs

/-- A port of a layout is read by connections of that layout only. -/
theorem authored_origin_iff {address : List Nat} {nested : Layout δ}
    (ha : layout.at? address = some (.pipeline nested)) (anchor : Anchor) (port : Nat) :
    (∃ c, layout.Authored c ∧ c.origin = (anchor.spot address, port)) ↔
      ∃ c ∈ nested.connections, c.origin = (anchor, port) := by
  constructor
  · rintro ⟨-, ⟨other, nested', ha', c, hc, rfl⟩, ht⟩
    obtain ⟨hs, hp⟩ := Prod.mk.inj ht
    obtain ⟨rfl, hn⟩ := Anchor.spot_inj hs
    obtain rfl := Element.pipeline.inj (Option.some.inj (ha.symm.trans ha'))
    exact ⟨c, hc, Prod.ext hn hp⟩
  · rintro ⟨c, hc, ht⟩
    obtain ⟨hs, hp⟩ := Prod.mk.inj ht
    refine ⟨_, ⟨address, nested, ha, c, hc, rfl⟩, Prod.ext ?_ hp⟩
    exact congrArg (Anchor.spot address) hs

/-- Every boundary port of a nested layout that is fed on one side is read on the other one, and
the other way round. -/
def Matched (layout : Layout δ) : Prop :=
  ∀ address outer index placed nested, layout.at? address = some (.pipeline outer) →
    outer.elements[index]? = some placed → placed.element = .pipeline nested → ∀ port,
      ((∃ c ∈ outer.connections, c.target = (.member index, port)) ↔
        ∃ c ∈ nested.connections, c.origin = (.boundary, port)) ∧
      ((∃ c ∈ nested.connections, c.target = (.boundary, port)) ↔
        ∃ c ∈ outer.connections, c.origin = (.member index, port))

/-- Nested layouts are used on both sides of their boundaries or on neither, whatever the level of
the connections that use them. -/
theorem matched_iff : layout.Matched ↔ ∀ address nested, address ≠ [] →
    layout.at? address = some (.pipeline nested) → ∀ side port,
      ((∃ c, layout.Authored c ∧ c.target = (⟨address, side⟩, port)) ↔
        ∃ c, layout.Authored c ∧ c.origin = (⟨address, side.opposite⟩, port)) := by
  have hsides : ∀ {address outer index placed nested} (port : Nat),
      layout.at? address = some (.pipeline outer) → outer.elements[index]? = some placed →
      placed.element = .pipeline nested →
      ((∃ c, layout.Authored c ∧ c.target = (⟨address ++ [index], .outside⟩, port)) ↔
        ∃ c ∈ outer.connections, c.target = (.member index, port)) ∧
      ((∃ c, layout.Authored c ∧ c.origin = (⟨address ++ [index], .outside⟩, port)) ↔
        ∃ c ∈ outer.connections, c.origin = (.member index, port)) ∧
      ((∃ c, layout.Authored c ∧ c.target = (⟨address ++ [index], .inside⟩, port)) ↔
        ∃ c ∈ nested.connections, c.target = (.boundary, port)) ∧
      ((∃ c, layout.Authored c ∧ c.origin = (⟨address ++ [index], .inside⟩, port)) ↔
        ∃ c ∈ nested.connections, c.origin = (.boundary, port)) := by
    intro address outer index placed nested port ha hp he
    have hn : layout.at? (address ++ [index]) = some (.pipeline nested) :=
      at?_concat.mpr ⟨outer, placed, ha, hp, he⟩
    exact ⟨authored_target_iff ha (.member index) port, authored_origin_iff ha (.member index) port,
      authored_target_iff hn .boundary port, authored_origin_iff hn .boundary port⟩
  constructor
  · intro hm address nested hne ha side port
    induction address using List.reverseRecOn with
    | nil => exact absurd rfl hne
    | append_singleton address index =>
      obtain ⟨outer, placed, ho, hp, he⟩ := at?_concat.mp ha
      obtain ⟨houter, hinner⟩ := hm address outer index placed nested ho hp he port
      obtain ⟨hto, hoo, hti, hoi⟩ := hsides port ho hp he
      cases side with
      | outside => exact hto.trans (houter.trans hoi.symm)
      | inside => exact hti.trans (hinner.trans hoo.symm)
  · intro hm address outer index placed nested ha hp he port
    have hn : layout.at? (address ++ [index]) = some (.pipeline nested) :=
      at?_concat.mpr ⟨outer, placed, ha, hp, he⟩
    have hsame := hm (address ++ [index]) nested (by simp) hn
    obtain ⟨hto, hoo, hti, hoi⟩ := hsides port ha hp he
    exact ⟨hto.symm.trans ((hsame .outside port).trans hoi),
      hti.symm.trans ((hsame .inside port).trans hoo)⟩

end Layout

/-- Two connections meet: the second reads what the first feeds, from the other side. -/
def Connection.Meets (c d : Connection Spot) : Prop :=
  d.origin = (c.destination.across, c.destinationPort)

namespace Layout

variable {layout : Layout δ} {c d : Connection Spot} {path : List (Connection Spot)}

/-- A sequence of connections, possibly of different layouts, each of which meets the next one,
and the connection from its start to its end. -/
inductive Walk (layout : Layout δ) : List (Connection Spot) → Connection Spot → Prop
  /-- A connection by itself. -/
  | single {c : Connection Spot} : layout.Authored c → Walk layout [c] c
  /-- Another connection goes on where the sequence ends. -/
  | extend {path : List (Connection Spot)} {c d : Connection Spot} : Walk layout path c →
    layout.Authored d → c.Meets d →
    Walk layout (path ++ [d]) ⟨c.source, c.sourcePort, d.destination, d.destinationPort⟩

/-- A chain of connections, possibly of different layouts, that carries a texture from a filter
or an input of the outermost layout to a filter or an output of the outermost layout. -/
structure Chain (layout : Layout δ) (path : List (Connection Spot)) (c : Connection Spot) :
    Prop where
  /-- The connections were made somewhere in the layout, and each meets the next one. -/
  walk : layout.Walk path c
  /-- The chain begins where textures come from. -/
  departs : layout.Terminal c.source
  /-- The chain ends where textures are used. -/
  arrives : layout.Terminal c.destination

/-- A sequence of connections ends where its last connection does. -/
theorem Walk.exists_last (walk : layout.Walk path c) :
    ∃ d, layout.Authored d ∧ d.target = c.target := by
  cases walk with
  | single ha => exact ⟨_, ha, rfl⟩
  | extend _ ha _ => exact ⟨_, ha, rfl⟩

/-- Nothing meets a connection from a filter or an input of the outermost layout. -/
theorem Terminal.ne_across (ht : layout.Terminal c.source) (hd : layout.Authored d) :
    c.source ≠ d.destination.across := by
  obtain ⟨address, nested, ha, e, -, rfl⟩ := hd
  intro he
  rw [he] at ht
  cases hn : e.destination with
  | boundary =>
    simp only [Connection.map, hn, Anchor.spot, Spot.across, Terminal, Flat.Side.opposite] at ht
    rcases ht with ht | ⟨-, spec, hf⟩
    · cases ht
    · rw [ha] at hf
      cases hf
  | member index =>
    simp only [Connection.map, hn, Anchor.spot, Spot.across, Terminal, Flat.Side.opposite] at ht
    rcases ht with ht | ⟨hs, -⟩
    · simp at ht
    · cases hs

/-- The connections of a chain are determined by its start and its end. -/
theorem Walk.unique (h : layout.Constructed) {path' : List (Connection Spot)}
    {c' : Connection Spot} (walk : layout.Walk path c) (walk' : layout.Walk path' c')
    (ht : layout.Terminal c.source) (ho : c.origin = c'.origin) (he : c.target = c'.target) :
    path = path' := by
  have hsource : c.source = c'.source := congrArg Prod.fst ho
  have ht' : layout.Terminal c'.source := hsource ▸ ht
  induction walk generalizing path' c' with
  | @single c hc =>
    cases walk' with
    | single hc' => rw [hc.eq_of_target h hc' he]
    | @extend path' e d' walk' hd' hm =>
      obtain rfl := hc.eq_of_target h hd' he
      obtain ⟨f, hf, hfe⟩ := walk'.exists_last
      exfalso
      apply ht.ne_across hf
      rw [show f.destination = e.destination from congrArg Prod.fst hfe]
      exact congrArg Prod.fst hm
  | @extend path e d walk hd hm ih =>
    cases walk' with
    | @single c' hc' =>
      obtain rfl := hd.eq_of_target h hc' he
      obtain ⟨f, hf, hfe⟩ := walk.exists_last
      exfalso
      apply ht'.ne_across hf
      rw [show f.destination = e.destination from congrArg Prod.fst hfe]
      exact congrArg Prod.fst hm
    | @extend path' e' d' walk' hd' hm' =>
      obtain rfl := hd.eq_of_target h hd' he
      obtain ⟨hs, hp⟩ := Prod.mk.inj (hm.symm.trans hm')
      have hdest : e.destination = e'.destination := Spot.across_injective hs
      rw [ih walk' ht ho (Prod.ext hdest hp) hsource ht']

end Layout

end RenderGraph
