import RenderGraph.Proofs.Layout.Edits

/-!
# What automatic wiring completes

A port that has no source is to be fed by the only port of its name on another
node: for an input of an element an input of the layout or an output of another
element, for an output of the layout an output of an element. Automatic wiring
succeeds when there is one such port for each, and then nothing in the layout is
left without a source. In one case it fails although there is such a port: for an
output of the layout that shares its name with an input of the layout, which
counts among the ports of that name and could never feed it.
-/

namespace RenderGraph.Layout

variable {δ : Type} {layout next : Layout δ}

section Eligibility

/-- A port may feed a port of a node under a name: it carries the name and belongs to another
node. Neither an element nor the boundary feeds itself. -/
def Eligible (layout : Layout δ) (node : Anchor) (name : String) (source : Anchor × Nat) : Prop :=
  source.1 ≠ node ∧ layout.HasPortNamed source.1 .output source.2 name

/-- Every port without a source could be fed: exactly one port is eligible under its name. -/
def Wirable (layout : Layout δ) : Prop :=
  ∀ node port name, layout.HasPortNamed node .input port name →
    layout.sourceOf? node port = none → ∃! source, layout.Eligible node name source

/-- The ports of one node that carry a name are different. -/
theorem nodup_namesakes (node : Anchor) (ports : Ports) (name : String) :
    (namesakes node ports name).Nodup := by
  have hp := List.pairwise_map.mp (List.nodup_zipIdx_map_snd ports.names)
  apply hp.filterMap
  intro a b hab source hs other ho he
  simp only [Option.ite_none_right_eq_some, Option.some.injEq] at hs ho
  rw [← hs.2, ← ho.2] at he
  exact hab (Prod.mk.inj he).2

/-- No port is a candidate twice. -/
theorem nodup_candidates (layout : Layout δ) (node : Anchor) (name : String) :
    (layout.candidates node name).Nodup := by
  apply List.Nodup.filter
  refine List.nodup_append.mpr ⟨nodup_namesakes _ _ _, ?_, ?_⟩
  · refine List.pairwise_flatMap.mpr ⟨fun entry _ => nodup_namesakes _ _ _, ?_⟩
    have hp := List.pairwise_map.mp (List.nodup_zipIdx_map_snd layout.elements)
    apply hp.imp
    rintro entry other hne ⟨a, port⟩ ha ⟨b, port'⟩ hb he
    rw [(mem_namesakes.mp ha).1, (mem_namesakes.mp hb).1] at he
    exact hne (Anchor.member.inj (Prod.mk.inj he).1)
  · rintro ⟨a, port⟩ ha ⟨b, port'⟩ hb he
    obtain ⟨entry, -, hb⟩ := List.mem_flatMap.mp hb
    rw [(mem_namesakes.mp ha).1, (mem_namesakes.mp hb).1] at he
    cases (Prod.mk.inj he).1

/-- A port in need is fed from a port when this is the only eligible one. For an output of the
layout no input of the layout may have its name in addition. -/
theorem resolve_eq_ok_iff {need : Need} {c : Connection Anchor} :
    layout.resolve need = .ok c ↔ c.target = need.key ∧
      (∀ source, layout.Eligible need.node need.consumer.port source ↔ source = c.origin) ∧
      (need.node = .boundary → ∀ port,
        ¬ layout.HasPortNamed .boundary .output port need.consumer.port) := by
  rw [resolve_eq_ok_iff_candidates, eq_singleton_iff (nodup_candidates _ _ _)]
  simp only [mem_candidates, Eligible]
  refine and_congr_right fun ht => ?_
  -- The boundary is the only node whose own ports are among the candidates.
  by_cases hb : need.node = .boundary
  · rw [hb]
    constructor
    · rintro ⟨hall, hcross⟩
      have hsource : c.origin.1 ≠ .boundary := fun h => hcross ⟨h, rfl⟩
      have hnone : ∀ port, ¬ layout.HasPortNamed .boundary .output port need.consumer.port := by
        intro port hp
        have he := (hall (.boundary, port)).mp ⟨hp, .inr rfl⟩
        exact hsource (he ▸ rfl)
      refine ⟨fun source => ⟨fun h => (hall source).mp ⟨h.2, .inr rfl⟩, ?_⟩, fun _ => hnone⟩
      rintro rfl
      exact ⟨hsource, ((hall _).mpr rfl).1⟩
    · rintro ⟨hall, hnone⟩
      have hsource := (hall c.origin).mpr rfl
      refine ⟨fun source => ⟨fun h => (hall source).mp ⟨fun he => ?_, h.1⟩, ?_⟩,
        fun h => hsource.1 h.1⟩
      · exact hnone rfl source.2 (he ▸ h.1)
      · rintro rfl
        exact ⟨hsource.2, .inr rfl⟩
  · simp only [hb, or_false, and_false, not_false_eq_true, and_true, false_imp_iff]
    exact forall_congr' fun source => by rw [and_comm]

end Eligibility

section Success

/-- A port in need can be fed when exactly one port is eligible. For an output of the layout no
input of the layout may have its name in addition. -/
theorem exists_resolve_iff {need : Need} : (∃ c, layout.resolve need = .ok c) ↔
    (∃! source, layout.Eligible need.node need.consumer.port source) ∧
      (need.node = .boundary → need.consumer.port ∉ layout.inputs.names) := by
  have hinputs : (∀ port, ¬ layout.HasPortNamed .boundary .output port need.consumer.port) ↔
      need.consumer.port ∉ layout.inputs.names := by
    simp [HasPortNamed, portsOf?, List.mem_iff_getElem?]
  simp only [resolve_eq_ok_iff, hinputs]
  constructor
  · rintro ⟨c, -, honly, hnone⟩
    exact ⟨⟨c.origin, (honly c.origin).mpr rfl, fun source => (honly source).mp⟩, hnone⟩
  · rintro ⟨⟨source, he, honly⟩, hnone⟩
    refine ⟨⟨source.1, source.2, need.node, need.port⟩, rfl, fun other => ⟨honly other, ?_⟩, hnone⟩
    rintro rfl
    exact he

/-- Automatic wiring succeeds when every port in need can be fed. -/
theorem exists_autoConnect_iff : (∃ next, layout.autoConnect = .ok next) ↔
    ∀ need ∈ layout.needs, ∃ c, layout.resolve need = .ok c := by
  simp only [autoConnect_eq_ok_iff]
  constructor
  · rintro ⟨-, added, hz, -⟩ need hn
    obtain ⟨c, -, hr⟩ := exists_left_of_forall₂ hz.flip hn
    exact ⟨c, hr⟩
  · intro h
    obtain ⟨added, hz⟩ := exists_forall₂_of_forall h
    exact ⟨_, added, hz, rfl⟩

/-- Automatic wiring succeeds exactly when every port without a source could be fed, and no output
of the layout without a source has the name of an input of the layout. -/
theorem autoConnect_succeeds_iff (layout : Layout δ) : (∃ next, layout.autoConnect = .ok next) ↔
    layout.Wirable ∧ ∀ port name, layout.HasPortNamed .boundary .input port name →
      layout.sourceOf? .boundary port = none → name ∉ layout.inputs.names := by
  simp only [exists_autoConnect_iff, exists_resolve_iff]
  constructor
  · intro h
    constructor
    · intro node port name hnamed hfree
      obtain ⟨need, hn, hkey, rfl⟩ := exists_need hnamed hfree
      rw [← show need.node = node from congrArg Prod.fst hkey]
      exact (h need hn).1
    · intro port name hnamed hfree
      obtain ⟨need, hn, hkey, rfl⟩ := exists_need hnamed hfree
      exact (h need hn).2 (congrArg Prod.fst hkey)
  · rintro ⟨wirable, hnone⟩ need hn
    obtain ⟨hnamed, hfree⟩ := mem_needs hn
    refine ⟨wirable _ _ _ hnamed hfree, fun hb => ?_⟩
    rw [hb] at hnamed hfree
    exact hnone _ _ hnamed hfree

/-- A filter that keeps the name of what it reads, in a layout that does the same. -/
def passing : Layout Unit where
  typeName := "Passing"
  inputs := ⟨["image"]⟩
  outputs := ⟨["image"]⟩
  elements := [⟨"blur", .filter ⟨"Blur", ⟨["image"]⟩, ⟨["image"]⟩, ()⟩⟩]
  connections := []

/-- Each of its two free ports has one port that could feed it, but the input of the layout counts
as a second source of the output. -/
theorem passing_refused : passing.Constructed ∧ passing.Wirable ∧
    passing.autoConnect =
      .error (Cause.autoConnect "Passing" [.ambiguous 2 (.boundaryOutput "image")]) := by
  refine ⟨?constructed, ?wirable, rfl⟩
  case constructed =>
    have himage : Ports.Declared ⟨["image"]⟩ := Ports.declared_singleton rfl
    have hf := FilterSpec.constructed_of_declared "Blur" himage himage ()
    have hp : Layout.Constructed (⟨"Passing", ⟨["image"]⟩, ⟨["image"]⟩, [], []⟩ : Layout Unit) :=
      constructed_of_declared "Passing" himage himage
    exact hp.addFilter hf (show Layout.add _ "blur" _ = .ok _ from rfl)
  case wirable =>
    have heligible : ∀ node source, passing.Eligible node "image" source ↔
        source.1 ≠ node ∧ (source = (.boundary, 0) ∨ source = (.member 0, 0)) := by
      rintro node ⟨other, port⟩
      have hproviders : passing.providers "image" = [(.boundary, 0), (.member 0, 0)] := rfl
      rw [Eligible, ← mem_providers, hproviders, List.mem_pair]
    have hneeds : passing.needs = [⟨.member 0, 0, .elementInput "blur" "image"⟩,
      ⟨.boundary, 0, .boundaryOutput "image"⟩] := rfl
    intro node port name hnamed hfree
    obtain ⟨need, hn, hkey, rfl⟩ := exists_need hnamed hfree
    obtain ⟨rfl, rfl⟩ := Prod.mk.inj hkey
    rcases List.mem_pair.mp (hneeds ▸ hn) with rfl | rfl
    · refine ⟨(.boundary, 0), (heligible _ _).mpr (by simp), fun source he => ?_⟩
      obtain ⟨hne, rfl | rfl⟩ := (heligible _ _).mp he
      · rfl
      · exact absurd rfl hne
    · refine ⟨(.member 0, 0), (heligible _ _).mpr (by simp), fun source he => ?_⟩
      obtain ⟨hne, rfl | rfl⟩ := (heligible _ _).mp he
      · exact absurd rfl hne
      · rfl

end Success

section Completion

/-- Connections that feed what had no source, each from the only port that may feed it. -/
structure Completion (layout : Layout δ) (added : List (Connection Anchor)) : Prop where
  /-- No port is fed twice. -/
  fedOnce : FedOnce added
  /-- Just those ports are fed that receive a texture and had no source. -/
  fed : ∀ node port, (∃ c ∈ added, c.target = (node, port)) ↔
    layout.HasPort node .input port ∧ ¬ ∃ c ∈ layout.connections, c.target = (node, port)
  /-- Each connection joins two ports of the same name, and its source is the only eligible port of
  that name. -/
  only : ∀ c ∈ added, ∃ name, layout.HasPortNamed c.source .output c.sourcePort name ∧
    layout.HasPortNamed c.destination .input c.destinationPort name ∧
      ∀ source, layout.Eligible c.destination name source ↔ source = c.origin
  /-- No connection has both ends on the same element or both on the boundary. -/
  apart : ∀ c ∈ added, c.source ≠ c.destination

/-- The connections that feed the ports in need complete the layout. -/
theorem Resolved.completion {added : List (Connection Anchor)}
    (h : layout.Resolved layout.needs added) : layout.Completion added := by
  have honly : ∀ c ∈ added, ∃ name,
      layout.HasPortNamed c.destination .input c.destinationPort name ∧
        ∀ source, layout.Eligible c.destination name source ↔ source = c.origin := by
    intro c hc
    obtain ⟨need, hn, hr⟩ := exists_left_of_forall₂ h hc
    obtain ⟨ht, hall, -⟩ := resolve_eq_ok_iff.mp hr
    obtain ⟨hd, hp⟩ := Prod.mk.inj ht
    rw [hd, hp]
    exact ⟨_, (mem_needs hn).1, hall⟩
  constructor
  case fedOnce => exact h.admissible.fedOnce
  case fed =>
    intro node port
    rw [← sourceOf?_eq_none_iff]
    constructor
    · rintro ⟨c, hc, ht⟩
      obtain ⟨rfl, rfl⟩ := Prod.mk.inj ht
      exact ⟨h.admissible.destination c hc, h.admissible.fresh c hc⟩
    · rintro ⟨hport, hfree⟩
      obtain ⟨name, hnamed⟩ := hasPort_iff_exists_named.mp hport
      obtain ⟨need, hn, hkey, -⟩ := exists_need hnamed hfree
      have hm : (node, port) ∈ added.map Connection.target := by
        rw [h.map_target, ← hkey]
        exact List.mem_map_of_mem hn
      exact List.mem_map.mp hm
  case only =>
    intro c hc
    obtain ⟨name, hnamed, hall⟩ := honly c hc
    exact ⟨name, ((hall c.origin).mpr rfl).2, hnamed, hall⟩
  case apart =>
    intro c hc
    obtain ⟨name, -, hall⟩ := honly c hc
    exact ((hall c.origin).mpr rfl).1

/-- With the connections that complete it a layout has no port without a source. -/
theorem Completion.fed_all {added : List (Connection Anchor)} (h : layout.Completion added)
    {node : Anchor} {port : Nat} (hp : layout.HasPort node .input port) :
    ∃ c ∈ layout.connections ++ added, c.target = (node, port) := by
  by_cases hold : ∃ c ∈ layout.connections, c.target = (node, port)
  · obtain ⟨c, hc, ht⟩ := hold
    exact ⟨c, List.mem_append_left _ hc, ht⟩
  · obtain ⟨c, hc, ht⟩ := (h.fed node port).mpr ⟨hp, hold⟩
    exact ⟨c, List.mem_append_right _ hc, ht⟩

/-- Where nothing lacks a source, automatic wiring changes nothing. -/
theorem autoConnect_eq_self (h : ∀ node port, layout.HasPort node .input port →
    ∃ c ∈ layout.connections, c.target = (node, port)) : layout.autoConnect = .ok layout := by
  have hneeds : layout.needs = [] := by
    refine List.eq_nil_iff_forall_not_mem.mpr fun need hn => ?_
    obtain ⟨hnamed, hfree⟩ := mem_needs hn
    exact sourceOf?_eq_none_iff.mp hfree (h _ _ (hasPort_iff_exists_named.mpr ⟨_, hnamed⟩))
  refine autoConnect_eq_ok_iff.mpr ⟨[], hneeds ▸ .nil, ?_⟩
  rw [List.append_nil]
  cases layout
  rfl

/-- Automatic wiring that succeeds completes the layout: it only adds connections, one for each
port without a source, from the only port that may feed it. Nothing lacks a source afterwards, and
wiring once more changes nothing. If it fails the layout is left as it was. -/
theorem autoConnect_completes (layout : Layout δ) :
    (∀ next, layout.autoConnect = .ok next → ∃ added, layout.Completion added ∧
      next = { layout with connections := layout.connections ++ added } ∧
      (∀ node port, next.HasPort node .input port →
        ∃ c ∈ next.connections, c.target = (node, port)) ∧
      next.autoConnect = .ok next) ∧
    ∀ e, (Edit.autoConnect.perform layout).result = .error e →
      (Edit.autoConnect.perform layout).state = layout := by
  refine ⟨fun next h => ?_, fun e he => Edit.state_of_perform_error he⟩
  obtain ⟨added, hz, rfl⟩ := autoConnect_eq_ok_iff.mp h
  have completion := hz.completion
  have hfed : ∀ node port,
      HasPort { layout with connections := layout.connections ++ added } node .input port →
        ∃ c ∈ layout.connections ++ added, c.target = (node, port) :=
    fun node port hp => completion.fed_all hp
  exact ⟨added, completion, rfl, hfed, autoConnect_eq_self hfed⟩

/-- The layout around one filter without its two connections. -/
def unwired : Layout Unit :=
  { blurring with connections := [] }

/-- Automatic wiring feeds both ports of the layout that have no source. -/
theorem unwired_completed : unwired.autoConnect = .ok blurring ∧
    (∃ added, unwired.Completion added ∧
      blurring = { unwired with connections := unwired.connections ++ added } ∧
      (∀ node port, blurring.HasPort node .input port →
        ∃ c ∈ blurring.connections, c.target = (node, port)) ∧
      blurring.autoConnect = .ok blurring) ∧
    ((Edit.autoConnect.perform passing).result =
        .error (Cause.autoConnect "Passing" [.ambiguous 2 (.boundaryOutput "image")]) ∧
      (Edit.autoConnect.perform passing).state = passing) :=
  ⟨rfl, (autoConnect_completes unwired).1 blurring rfl, rfl,
    (autoConnect_completes passing).2 _ rfl⟩

end Completion

end RenderGraph.Layout
