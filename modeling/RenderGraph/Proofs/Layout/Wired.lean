import RenderGraph.Proofs.Layout.Construction
import RenderGraph.Proofs.Wiring
import RenderGraph.Proofs.Order
import Mathlib.Data.List.Sigma

/-!
# What construction guarantees about connections

In a layout that can be constructed every connection leads from an existing port
to an existing port, not from the boundary to the boundary, and no port has two
sources. The same holds in everything nested in it.
-/

namespace RenderGraph

/-- Ports are checked against their number. -/
theorem Ports.check_eq_ok_iff {ports : Ports} {owner : String} {direction : Direction}
    {port : Nat} : ports.check owner direction port = .ok () ↔ port < ports.size := by
  simp [Ports.check]

namespace Layout

variable {δ : Type} {layout next : Layout δ}

/-- A node has a port in one role: inside the layout an output provides a texture and an input
receives one, so the boundary plays each role with the layout's ports of the other kind. -/
def HasPort (layout : Layout δ) (node : Anchor) (role : Direction) (port : Nat) : Prop :=
  ∃ owner ports, layout.portsOf? node role = some (owner, ports) ∧ port < ports.size

/-- The boundary provides the inputs of the layout. -/
theorem hasPort_boundary_output {port : Nat} :
    layout.HasPort .boundary .output port ↔ port < layout.inputs.size := by
  simp [HasPort, portsOf?]

/-- The boundary receives the outputs of the layout. -/
theorem hasPort_boundary_input {port : Nat} :
    layout.HasPort .boundary .input port ↔ port < layout.outputs.size := by
  simp [HasPort, portsOf?]

/-- An element provides its outputs. -/
theorem hasPort_member_output {index port : Nat} : layout.HasPort (.member index) .output port ↔
    ∃ placed, layout.elements[index]? = some placed ∧ port < placed.element.outputs.size := by
  simp [HasPort, portsOf?]

/-- An element receives its inputs. -/
theorem hasPort_member_input {index port : Nat} : layout.HasPort (.member index) .input port ↔
    ∃ placed, layout.elements[index]? = some placed ∧ port < placed.element.inputs.size := by
  simp [HasPort, portsOf?]

/-- A node with a port is the boundary or an element. -/
theorem HasPort.lt_length {index port : Nat} {role : Direction}
    (h : layout.HasPort (.member index) role port) : index < layout.elements.length := by
  cases role with
  | input =>
    obtain ⟨placed, hp, -⟩ := hasPort_member_input.mp h
    exact (List.getElem?_eq_some_iff.mp hp).1
  | output =>
    obtain ⟨placed, hp, -⟩ := hasPort_member_output.mp h
    exact (List.getElem?_eq_some_iff.mp hp).1

/-- A node has a port of a name in one role. -/
def HasPortNamed (layout : Layout δ) (node : Anchor) (role : Direction) (port : Nat)
    (name : String) : Prop :=
  ∃ owner ports, layout.portsOf? node role = some (owner, ports) ∧ ports.names[port]? = some name

/-- The ports of a node are those that have a name. -/
theorem hasPort_iff_exists_named {node : Anchor} {role : Direction} {port : Nat} :
    layout.HasPort node role port ↔ ∃ name, layout.HasPortNamed node role port name := by
  constructor
  · rintro ⟨owner, ports, hp, hlt⟩
    exact ⟨_, owner, ports, hp, List.getElem?_eq_getElem hlt⟩
  · rintro ⟨name, owner, ports, hp, hn⟩
    exact ⟨owner, ports, hp, (List.getElem?_eq_some_iff.mp hn).1⟩

/-- Connections that may be made in a layout, all at once. -/
structure Admissible (layout : Layout δ) (added : List (Connection Anchor)) : Prop where
  /-- Every source exists. -/
  source : ∀ c ∈ added, layout.HasPort c.source .output c.sourcePort
  /-- Every destination exists. -/
  destination : ∀ c ∈ added, layout.HasPort c.destination .input c.destinationPort
  /-- No connection leads from the boundary to the boundary. -/
  crossing : ∀ c ∈ added, ¬ (c.source = .boundary ∧ c.destination = .boundary)
  /-- No port is fed twice. -/
  fedOnce : FedOnce added
  /-- No port is fed that has a source already. -/
  fresh : ∀ c ∈ added, layout.sourceOf? c.destination c.destinationPort = none

section Connecting

/-- An end is accepted exactly when it exists. -/
theorem checkEnd_eq_ok_iff {node : Anchor} {port : Nat} {role : Direction} :
    layout.checkEnd node port role = .ok () ↔ layout.HasPort node role port := by
  cases node with
  | boundary => cases role <;> simp [checkEnd, HasPort, portsOf?, Ports.check_eq_ok_iff]
  | member index =>
    cases h : layout.elements[index]? with
    | none =>
      cases role <;> simp [checkEnd, HasPort, portsOf?, element, h, bind, Except.bind]
    | some placed =>
      cases role <;>
        simp [checkEnd, HasPort, portsOf?, element, h, bind, Except.bind,
          Ports.check_eq_ok_iff]

/-- A connection that is accepted may be made, and is put behind the others. -/
theorem connect_eq_ok {c : Connection Anchor} (h : layout.connect c = .ok next) :
    layout.Admissible [c] ∧
      next = { layout with connections := layout.connections ++ [c] } := by
  rw [connect] at h
  split at h
  · cases h
  case isFalse hcross =>
    obtain ⟨⟨⟩, hs, h⟩ := bind_eq_ok_iff.mp h
    obtain ⟨⟨⟩, hd, h⟩ := bind_eq_ok_iff.mp h
    split at h
    · cases h
    case isFalse hfree =>
      have hnone : layout.sourceOf? c.destination c.destinationPort = none := by
        simpa using hfree
      refine ⟨⟨?_, ?_, ?_, ?_, ?_⟩, (Except.ok.inj h).symm⟩
      · simpa using checkEnd_eq_ok_iff.mp hs
      · simpa using checkEnd_eq_ok_iff.mp hd
      · simpa using hcross
      · exact List.nodup_singleton _
      · simpa using hnone

end Connecting

section Automatic

/-- The port that is in need. -/
def Need.key (need : Need) : Anchor × Nat := (need.node, need.port)

/-- The ports in need of one node are ports of that node without a source. -/
theorem mem_needsOf {node : Anchor} {ports : Ports} {consumer : String → Consumer} {need : Need} :
    need ∈ layout.needsOf node ports consumer ↔ layout.sourceOf? node need.port = none ∧
      ∃ name, ports.names[need.port]? = some name ∧ need = ⟨node, need.port, consumer name⟩ := by
  simp only [needsOf, List.mem_filterMap, Prod.exists, List.mem_zipIdx_iff_getElem?,
    Option.ite_none_left_eq_some, Option.some.injEq, Bool.not_eq_true, Option.isSome_eq_false_iff,
    Option.isNone_iff_eq_none]
  constructor
  · rintro ⟨name, port, hm, hfree, rfl⟩
    exact ⟨hfree, name, hm, rfl⟩
  · rintro ⟨hfree, name, hm, he⟩
    exact ⟨name, need.port, hm, hfree, he.symm⟩

/-- A port in need of a node belongs to that node. -/
theorem node_of_mem_needsOf {node : Anchor} {ports : Ports} {consumer : String → Consumer}
    {need : Need} (h : need ∈ layout.needsOf node ports consumer) : need.node = node := by
  obtain ⟨-, name, -, he⟩ := mem_needsOf.mp h
  rw [he]

/-- No port of a node is in need twice. -/
theorem needsOf_pairwise (node : Anchor) (ports : Ports) (consumer : String → Consumer) :
    (layout.needsOf node ports consumer).Pairwise fun a b => a.key ≠ b.key := by
  have hp := List.pairwise_map.mp (List.nodup_zipIdx_map_snd ports.names)
  apply hp.filterMap
  intro a b hab need hn need' hn' he
  simp only [Option.ite_none_left_eq_some, Option.some.injEq] at hn hn'
  obtain ⟨-, rfl⟩ := hn
  obtain ⟨-, rfl⟩ := hn'
  exact hab (Prod.mk.inj he).2

/-- A port in need has the name that its source has to carry, and has no source. -/
theorem mem_needs {need : Need} (h : need ∈ layout.needs) :
    layout.HasPortNamed need.node .input need.port need.consumer.port ∧
      layout.sourceOf? need.node need.port = none := by
  rcases List.mem_append.mp h with h | h
  · obtain ⟨⟨placed, index⟩, hm, h⟩ := List.mem_flatMap.mp h
    rw [List.mem_zipIdx_iff_getElem?] at hm
    obtain ⟨hs, name, hname, hneed⟩ := mem_needsOf.mp h
    rw [hneed]
    exact ⟨⟨placed.name, placed.element.inputs, by simp [portsOf?, hm], hname⟩, hs⟩
  · obtain ⟨hs, name, hname, hneed⟩ := mem_needsOf.mp h
    rw [hneed]
    exact ⟨⟨layout.typeName, layout.outputs, rfl, hname⟩, hs⟩

/-- Every port that receives a texture and has no source is in need. -/
theorem exists_need {node : Anchor} {port : Nat} {name : String}
    (h : layout.HasPortNamed node .input port name) (hs : layout.sourceOf? node port = none) :
    ∃ need ∈ layout.needs, need.key = (node, port) ∧ need.consumer.port = name := by
  obtain ⟨owner, ports, hp, hname⟩ := h
  cases node with
  | boundary =>
    obtain ⟨-, rfl⟩ := Prod.mk.inj (Option.some.inj hp)
    refine ⟨⟨.boundary, port, .boundaryOutput name⟩, List.mem_append_right _ ?_, rfl, rfl⟩
    exact mem_needsOf.mpr ⟨hs, name, hname, rfl⟩
  | member index =>
    obtain ⟨placed, hplaced, he⟩ := Option.map_eq_some_iff.mp hp
    obtain ⟨-, rfl⟩ := Prod.mk.inj he
    refine ⟨⟨.member index, port, .elementInput placed.name name⟩, List.mem_append_left _ ?_,
      rfl, rfl⟩
    refine List.mem_flatMap.mpr ⟨(placed, index), List.mem_zipIdx_iff_getElem?.mpr hplaced, ?_⟩
    exact mem_needsOf.mpr ⟨hs, name, hname, rfl⟩

/-- No port is in need twice. -/
theorem needs_pairwise : layout.needs.Pairwise fun a b => a.key ≠ b.key := by
  refine List.pairwise_append.mpr ⟨?_, needsOf_pairwise _ _ _, ?_⟩
  · refine List.pairwise_flatMap.mpr ⟨fun entry _ => needsOf_pairwise _ _ _, ?_⟩
    have hp := List.pairwise_map.mp (List.nodup_zipIdx_map_snd layout.elements)
    apply hp.imp
    intro entry entry' hne a ha b hb he
    have hn : a.node = b.node := congrArg Prod.fst he
    rw [node_of_mem_needsOf ha, node_of_mem_needsOf hb, Anchor.member.injEq] at hn
    exact hne hn
  · intro a ha b hb he
    obtain ⟨entry, -, ha⟩ := List.mem_flatMap.mp ha
    have hn : a.node = b.node := congrArg Prod.fst he
    rw [node_of_mem_needsOf ha, node_of_mem_needsOf hb] at hn
    cases hn

/-- The ports of a node that carry a name. -/
theorem mem_namesakes {node source : Anchor} {ports : Ports} {name : String} {port : Nat} :
    (source, port) ∈ namesakes node ports name ↔
      source = node ∧ ports.names[port]? = some name := by
  simp only [namesakes, List.mem_filterMap, Prod.exists, List.mem_zipIdx_iff_getElem?,
    Option.ite_none_right_eq_some, Option.some.injEq, Prod.mk.injEq]
  constructor
  · rintro ⟨found, index, hm, rfl, rfl, rfl⟩
    exact ⟨rfl, hm⟩
  · rintro ⟨rfl, hm⟩
    exact ⟨name, port, hm, rfl, rfl, rfl⟩

/-- The ports that provide a texture under a name. -/
theorem mem_providers {name : String} {source : Anchor} {port : Nat} :
    (source, port) ∈ layout.providers name ↔ layout.HasPortNamed source .output port name := by
  simp only [providers, List.mem_append, List.mem_flatMap, Prod.exists, mem_namesakes,
    List.mem_zipIdx_iff_getElem?]
  cases source with
  | boundary => simp [HasPortNamed, portsOf?]
  | member index => simp [HasPortNamed, portsOf?]

/-- A candidate carries the name. It belongs to another node, or to the boundary if the boundary
is to be fed. -/
theorem mem_candidates {node : Anchor} {name : String} {source : Anchor × Nat} :
    source ∈ layout.candidates node name ↔
      layout.HasPortNamed source.1 .output source.2 name ∧
        (source.1 ≠ node ∨ node = .boundary) := by
  obtain ⟨other, port⟩ := source
  simp [candidates, mem_providers]

/-- A port in need is resolved by its only candidate, unless both belong to the boundary. -/
theorem resolve_eq_ok_iff_candidates {need : Need} {c : Connection Anchor} :
    layout.resolve need = .ok c ↔ c.target = need.key ∧
      layout.candidates need.node need.consumer.port = [c.origin] ∧
        ¬ (c.source = .boundary ∧ need.node = .boundary) := by
  rw [resolve]
  constructor
  · intro h
    split at h
    · cases h
    case h_2 source port hcand =>
      split at h
      · cases h
      case isFalse hcross =>
        obtain rfl := Except.ok.inj h
        exact ⟨rfl, hcand, hcross⟩
    · cases h
  · rintro ⟨ht, hcand, hcross⟩
    rw [hcand]
    obtain ⟨source, sourcePort, destination, destinationPort⟩ := c
    obtain ⟨rfl, rfl⟩ := Prod.mk.inj ht
    exact if_neg hcross

/-- A port in need is fed from a port that exists, and not from the boundary if it is part of the
boundary. -/
theorem resolve_eq_ok {need : Need} {c : Connection Anchor}
    (h : layout.resolve need = .ok c) :
    c.target = need.key ∧ layout.HasPort c.source .output c.sourcePort ∧
      ¬ (c.source = .boundary ∧ c.destination = .boundary) := by
  obtain ⟨ht, hcand, hcross⟩ := resolve_eq_ok_iff_candidates.mp h
  have hm : c.origin ∈ layout.candidates need.node need.consumer.port := by
    rw [hcand]
    exact List.mem_singleton.mpr rfl
  have hd : c.destination = need.node := congrArg Prod.fst ht
  rw [hd]
  exact ⟨ht, hasPort_iff_exists_named.mpr ⟨_, (mem_candidates.mp hm).1⟩, hcross⟩

/-- The connections that feed some ports in need. -/
def Resolved (layout : Layout δ) (needs : List Need) (added : List (Connection Anchor)) : Prop :=
  List.Forall₂ (fun need c => layout.resolve need = .ok c) needs added

/-- There is no problem exactly when every port in need has its connection. -/
theorem problems_eq_nil_iff {needs : List Need} :
    (needs.map layout.resolve).filterMap problem? = [] ↔ ∃ added, layout.Resolved needs added := by
  induction needs with
  | nil => exact iff_of_true rfl ⟨[], .nil⟩
  | cons need rest ih =>
    cases hr : layout.resolve need with
    | error problem =>
      refine iff_of_false (by simp [hr, problem?]) ?_
      rintro ⟨-, _ | ⟨hok, -⟩⟩
      rw [hr] at hok
      cases hok
    | ok c =>
      rw [List.map_cons, List.filterMap_cons, hr]
      refine ih.trans ⟨fun ⟨added, hz⟩ => ⟨c :: added, .cons hr hz⟩, ?_⟩
      rintro ⟨-, _ | ⟨-, hz⟩⟩
      exact ⟨_, hz⟩

/-- The connections are read off the results. -/
theorem Resolved.eq {needs : List Need} {added : List (Connection Anchor)}
    (h : layout.Resolved needs added) :
    (needs.map layout.resolve).filterMap Except.toOption = added := by
  induction h with
  | nil => rfl
  | cons hr _ ih => simp [hr, Except.toOption, ih]

/-- Automatic wiring succeeds when every port in need has its connection, and puts these behind
the others. -/
theorem autoConnect_eq_ok_iff : layout.autoConnect = .ok next ↔
    ∃ added, layout.Resolved layout.needs added ∧
      next = { layout with connections := layout.connections ++ added } := by
  simp only [autoConnect, List.isEmpty_iff]
  constructor
  · intro h
    split at h
    case isFalse => cases h
    case isTrue hp =>
      obtain ⟨added, hz⟩ := problems_eq_nil_iff.mp hp
      rw [hz.eq] at h
      exact ⟨added, hz, (Except.ok.inj h).symm⟩
  · rintro ⟨added, hz, rfl⟩
    rw [if_pos (problems_eq_nil_iff.mpr ⟨added, hz⟩), hz.eq]

/-- The ports in need are fed in their order. -/
theorem Resolved.map_target {needs : List Need} {added : List (Connection Anchor)}
    (h : layout.Resolved needs added) : added.map Connection.target = needs.map Need.key := by
  rw [eq_comm, ← List.forall₂_eq_eq_eq, List.forall₂_map_left_iff, List.forall₂_map_right_iff]
  exact h.imp fun need c hr => (resolve_eq_ok hr).1.symm

/-- The connections that feed the ports in need may be made, all at once. -/
theorem Resolved.admissible {added : List (Connection Anchor)}
    (h : layout.Resolved layout.needs added) : layout.Admissible added := by
  have hneed : ∀ c ∈ added, ∃ need ∈ layout.needs, layout.resolve need = .ok c :=
    fun c hc => exists_left_of_forall₂ h hc
  have hfed : ∀ c ∈ added, layout.HasPort c.destination .input c.destinationPort ∧
      layout.sourceOf? c.destination c.destinationPort = none := by
    intro c hc
    obtain ⟨need, hn, hr⟩ := hneed c hc
    obtain ⟨hd, hp⟩ := Prod.mk.inj (resolve_eq_ok hr).1
    obtain ⟨hnamed, hs⟩ := mem_needs hn
    rw [hd, hp]
    exact ⟨hasPort_iff_exists_named.mpr ⟨_, hnamed⟩, hs⟩
  constructor
  case source =>
    intro c hc
    obtain ⟨need, -, hr⟩ := hneed c hc
    exact (resolve_eq_ok hr).2.1
  case destination => exact fun c hc => (hfed c hc).1
  case crossing =>
    intro c hc
    obtain ⟨need, -, hr⟩ := hneed c hc
    exact (resolve_eq_ok hr).2.2
  case fedOnce =>
    rw [FedOnce, h.map_target]
    exact List.pairwise_map.mpr needs_pairwise
  case fresh => exact fun c hc => (hfed c hc).2

/-- Automatic wiring makes connections that may be made, all at once, and puts them behind the
others. -/
theorem autoConnect_eq_ok (h : layout.autoConnect = .ok next) :
    ∃ added, layout.Admissible added ∧
      next = { layout with connections := layout.connections ++ added } := by
  obtain ⟨added, hz, hnext⟩ := autoConnect_eq_ok_iff.mp h
  exact ⟨added, hz.admissible, hnext⟩

end Automatic

/-- What every operation that succeeds preserves, and a layout without anything satisfies, holds of
every layout that can be constructed. -/
theorem Constructed.induction {motive : Layout δ → Prop}
    (empty : ∀ typeName, motive (.empty typeName))
    (inputs : ∀ (layout : Layout δ) (name : String) (ports : Ports),
      layout.inputs.add name = .ok ports → motive layout → motive { layout with inputs := ports })
    (outputs : ∀ (layout : Layout δ) (name : String) (ports : Ports),
      layout.outputs.add name = .ok ports → motive layout →
      motive { layout with outputs := ports })
    (element : ∀ (layout : Layout δ) (placed : Placed δ),
      checkName .element placed.name = .ok () →
      (∀ other ∈ layout.elements, other.name ≠ placed.name) →
      placed.element.Constructed →
      motive layout → motive { layout with elements := layout.elements ++ [placed] })
    (connections : ∀ (layout : Layout δ) (added : List (Connection Anchor)),
      layout.Admissible added →
      motive layout → motive { layout with connections := layout.connections ++ added })
    (h : layout.Constructed) : motive layout := by
  have connect : ∀ {layout next : Layout δ} {c : Connection Anchor},
      motive layout → layout.connect c = .ok next → motive next := by
    intro layout next c hm hc
    obtain ⟨ha, rfl⟩ := connect_eq_ok hc
    exact connections layout [c] ha hm
  induction h with
  | empty typeName => exact empty typeName
  | addInput _ hr ih =>
    obtain ⟨ports, ha, rfl⟩ := addInput_eq_ok_iff.mp hr
    exact inputs _ _ ports ha ih
  | addOutput _ hr ih =>
    obtain ⟨ports, ha, rfl⟩ := addOutput_eq_ok_iff.mp hr
    exact outputs _ _ ports ha ih
  | addFilter _ hf hr ih =>
    obtain ⟨hc, hn, rfl⟩ := add_eq_ok_iff.mp hr
    exact element _ _ hc hn hf ih
  | addPipeline _ hp hr ih _ =>
    obtain ⟨hc, hn, rfl⟩ := add_eq_ok_iff.mp hr
    exact element _ _ hc hn hp ih
  | connect _ hr ih => exact connect ih hr
  | connectByName _ hr ih =>
    obtain ⟨c, hc⟩ := exists_connect_of_connectByName hr
    exact connect ih hc
  | connectToInput _ hr ih => exact connect ih hr
  | connectToInputByName _ hr ih =>
    obtain ⟨c, hc⟩ := exists_connect_of_connectToInputByName hr
    exact connect ih hc
  | connectToOutput _ hr ih => exact connect ih hr
  | connectToOutputByName _ hr ih =>
    obtain ⟨c, hc⟩ := exists_connect_of_connectToOutputByName hr
    exact connect ih hc
  | autoConnect _ hr ih =>
    obtain ⟨added, ha, rfl⟩ := autoConnect_eq_ok hr
    exact connections _ added ha ih

/-- The elements of a layout that can be constructed can be constructed. -/
theorem Constructed.members (h : layout.Constructed) :
    ∀ placed ∈ layout.elements, placed.element.Constructed := by
  refine h.induction (motive := fun layout => ∀ placed ∈ layout.elements,
    placed.element.Constructed) ?empty ?inputs ?outputs ?element ?connections
  case empty => exact fun typeName placed hp => by cases hp
  case inputs => exact fun layout name ports _ ih => ih
  case outputs => exact fun layout name ports _ ih => ih
  case element =>
    intro layout placed _ _ hn ih other ho
    rcases List.mem_append.mp ho with ho | ho
    · exact ih other ho
    · exact List.mem_singleton.mp ho ▸ hn
  case connections => exact fun layout added _ ih => ih

/-- What is nested in a layout that can be constructed can be constructed. -/
theorem Constructed.nested (h : layout.Constructed) : ∀ placed ∈ layout.elements, ∀ nested,
    placed.element = .pipeline nested → nested.Constructed := by
  intro placed hp nested he
  have hc := h.members placed hp
  rw [he] at hc
  exact hc

/-- The connections of a layout fit its ports and its elements. -/
structure Wired (layout : Layout δ) : Prop where
  /-- No port has two sources. -/
  fedOnce : FedOnce layout.connections
  /-- Every source exists. -/
  source : ∀ c ∈ layout.connections, layout.HasPort c.source .output c.sourcePort
  /-- Every destination exists. -/
  destination : ∀ c ∈ layout.connections, layout.HasPort c.destination .input c.destinationPort
  /-- No connection leads from the boundary to the boundary. -/
  crossing : ∀ c ∈ layout.connections, ¬ (c.source = .boundary ∧ c.destination = .boundary)

/-- A change that takes no port away keeps the connections fitting. -/
theorem Wired.grow (wired : layout.Wired) (hc : next.connections = layout.connections)
    (hp : ∀ node role port, layout.HasPort node role port → next.HasPort node role port) :
    next.Wired where
  fedOnce := hc ▸ wired.fedOnce
  source := fun c hm => hp _ _ _ (wired.source c (hc ▸ hm))
  destination := fun c hm => hp _ _ _ (wired.destination c (hc ▸ hm))
  crossing := fun c hm => wired.crossing c (hc ▸ hm)

/-- Connections that may be made fit together with those that are there. -/
theorem Wired.connect (wired : layout.Wired) {added : List (Connection Anchor)}
    (ha : layout.Admissible added) :
    Wired { layout with connections := layout.connections ++ added } where
  fedOnce := by
    rw [FedOnce, List.map_append, List.nodup_append]
    refine ⟨wired.fedOnce, ha.fedOnce, ?_⟩
    intro t ht t' ht' he
    obtain ⟨c, hc, rfl⟩ := List.mem_map.mp ht
    obtain ⟨d, hd, rfl⟩ := List.mem_map.mp ht'
    exact sourceOf?_eq_none_iff.mp (ha.fresh d hd) ⟨c, hc, he⟩
  source := by
    intro c hc
    rcases List.mem_append.mp hc with hc | hc
    · exact wired.source c hc
    · exact ha.source c hc
  destination := by
    intro c hc
    rcases List.mem_append.mp hc with hc | hc
    · exact wired.destination c hc
    · exact ha.destination c hc
  crossing := by
    intro c hc
    rcases List.mem_append.mp hc with hc | hc
    · exact wired.crossing c hc
    · exact ha.crossing c hc

/-- The connections of a layout that can be constructed fit. -/
theorem Constructed.wired (h : layout.Constructed) : layout.Wired := by
  refine h.induction (motive := Wired) ?empty ?inputs ?outputs ?element ?connections
  case empty => exact fun typeName => ⟨List.nodup_nil, nofun, nofun, nofun⟩
  case inputs =>
    intro layout name ports ha wired
    have hl := Ports.size_le_of_add ha
    refine wired.grow rfl ?_
    rintro node role port ⟨owner, found, hp, hlt⟩
    cases node with
    | member index => cases role <;> exact ⟨owner, found, hp, hlt⟩
    | boundary =>
      cases role with
      | input => exact ⟨owner, found, hp, hlt⟩
      | output =>
        obtain ⟨-, rfl⟩ := Prod.mk.inj (Option.some.inj hp)
        exact ⟨_, ports, rfl, Nat.lt_of_lt_of_le hlt hl⟩
  case outputs =>
    intro layout name ports ha wired
    have hl := Ports.size_le_of_add ha
    refine wired.grow rfl ?_
    rintro node role port ⟨owner, found, hp, hlt⟩
    cases node with
    | member index => cases role <;> exact ⟨owner, found, hp, hlt⟩
    | boundary =>
      cases role with
      | output => exact ⟨owner, found, hp, hlt⟩
      | input =>
        obtain ⟨-, rfl⟩ := Prod.mk.inj (Option.some.inj hp)
        exact ⟨_, ports, rfl, Nat.lt_of_lt_of_le hlt hl⟩
  case element =>
    intro layout placed _ _ _ wired
    refine wired.grow rfl ?_
    rintro node role port ⟨owner, found, hp, hlt⟩
    refine ⟨owner, found, ?_, hlt⟩
    cases node with
    | boundary => cases role <;> exact hp
    | member index =>
      have hi : ∀ entry, layout.elements[index]? = some entry →
          (layout.elements ++ [placed])[index]? = some entry := by
        intro entry he
        rw [List.getElem?_append_left (List.getElem?_eq_some_iff.mp he).1, he]
      cases role <;>
      · simp only [portsOf?, Option.map_eq_some_iff] at hp ⊢
        obtain ⟨entry, he, ht⟩ := hp
        exact ⟨entry, hi entry he, ht⟩
  case connections => exact fun layout added ha wired => wired.connect ha

end Layout

end RenderGraph
