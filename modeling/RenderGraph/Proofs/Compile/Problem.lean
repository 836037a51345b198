import RenderGraph.Compile
import RenderGraph.Proofs.Flat.DataFlow
import RenderGraph.Proofs.Schedule.Progress

/-!
# The scheduling problem of a flattened layout

What the scheduler relies on holds for every layout that can be constructed. The
ports that it needs connected are those that have to be connected at their own
level of the layout.
-/

namespace RenderGraph

variable {B : Backend}

/-- Nothing that a layout needs to be built is missing, at any level. -/
structure Layout.Complete {δ : Type} (layout : Layout δ) : Prop where
  /-- Every boundary port of a nested layout is used on both sides or on neither. -/
  matched : layout.Matched
  /-- Every input of a filter has a source in its layout. -/
  fed : ∀ address outer index placed spec, layout.at? address = some (.pipeline outer) →
    outer.elements[index]? = some placed → placed.element = .filter spec →
    ∀ port < spec.inputs.size, ∃ c ∈ outer.connections, c.target = (.member index, port)
  /-- Every filter has an output. -/
  renders : ∀ address spec, layout.at? address = some (.filter spec) → spec.outputs.size ≠ 0
  /-- Every output of a filter is the source of a connection in its layout. -/
  read : ∀ address outer index placed spec, layout.at? address = some (.pipeline outer) →
    outer.elements[index]? = some placed → placed.element = .filter spec →
    ∀ port < spec.outputs.size, ∃ c ∈ outer.connections, c.origin = (.member index, port)
  /-- Every output of the outermost layout has a source. -/
  resolved : ∀ port < layout.outputs.size, ∃ c ∈ layout.connections, c.target = (.boundary, port)

/-- Everything that needs a connection has one: filters at their addresses, and the outputs of the
outermost layout. -/
structure Layout.Connected {δ : Type} (layout : Layout δ) : Prop where
  /-- Every input of a filter is fed. -/
  fed : ∀ address spec, layout.at? address = some (.filter spec) → ∀ port < spec.inputs.size,
    ∃ c, layout.Authored c ∧ c.target = (⟨address, .outside⟩, port)
  /-- Every filter has an output. -/
  renders : ∀ address spec, layout.at? address = some (.filter spec) → spec.outputs.size ≠ 0
  /-- Every output of a filter is read. -/
  read : ∀ address spec, layout.at? address = some (.filter spec) → ∀ port < spec.outputs.size,
    ∃ c, layout.Authored c ∧ c.origin = (⟨address, .outside⟩, port)
  /-- Every output of the outermost layout is fed. -/
  resolved : ∀ port < layout.outputs.size,
    ∃ c, layout.Authored c ∧ c.target = (⟨[], .inside⟩, port)

/-- A filter is connected by connections of the layout that contains it. -/
theorem Layout.complete_iff {δ : Type} {layout : Layout δ} :
    layout.Complete ↔ layout.Matched ∧ layout.Connected := by
  have hroot : layout.at? [] = some (.pipeline layout) := rfl
  constructor
  · intro complete
    have hmember : ∀ {address spec}, layout.at? address = some (.filter spec) →
        ∃ parent outer index placed, address = parent ++ [index] ∧
          layout.at? parent = some (.pipeline outer) ∧ outer.elements[index]? = some placed ∧
          placed.element = .filter spec := by
      intro address spec ha
      induction address using List.reverseRecOn with
      | nil => cases Option.some.inj ha
      | append_singleton parent index =>
        obtain ⟨outer, placed, ho, hp, he⟩ := at?_concat.mp ha
        exact ⟨parent, outer, index, placed, rfl, ho, hp, he⟩
    refine ⟨complete.matched, ?fed, complete.renders, ?read, ?resolved⟩
    case fed =>
      intro address spec ha port hport
      obtain ⟨parent, outer, index, placed, rfl, ho, hp, he⟩ := hmember ha
      exact (authored_target_iff ho (.member index) port).mpr
        (complete.fed parent outer index placed spec ho hp he port hport)
    case read =>
      intro address spec ha port hport
      obtain ⟨parent, outer, index, placed, rfl, ho, hp, he⟩ := hmember ha
      exact (authored_origin_iff ho (.member index) port).mpr
        (complete.read parent outer index placed spec ho hp he port hport)
    case resolved =>
      exact fun port hport =>
        (authored_target_iff hroot .boundary port).mpr (complete.resolved port hport)
  · rintro ⟨matched, connected⟩
    refine ⟨matched, ?fed, connected.renders, ?read, ?resolved⟩
    case fed =>
      intro address outer index placed spec ho hp he port hport
      have ha := at?_concat.mpr ⟨outer, placed, ho, hp, he⟩
      exact (authored_target_iff ho (.member index) port).mp (connected.fed _ spec ha port hport)
    case read =>
      intro address outer index placed spec ho hp he port hport
      have ha := at?_concat.mpr ⟨outer, placed, ho, hp, he⟩
      exact (authored_origin_iff ho (.member index) port).mp (connected.read _ spec ha port hport)
    case resolved =>
      exact fun port hport =>
        (authored_target_iff hroot .boundary port).mp (connected.resolved port hport)

/-- A filter of a flattened graph feeds another one. -/
def Flat.Graph.Feeds {δ : Type} (graph : Flat.Graph δ) (producer consumer : Nat) : Prop :=
  ∃ c ∈ graph.connections, c.source = .member producer ∧ c.destination = .member consumer

/-- No filter of the flattened layout depends on itself, directly or through others. -/
def Layout.Acyclic {δ : Type} (layout : Layout δ) : Prop :=
  ∀ graph, Flat.flatten layout = .ok graph → ∀ i, ¬ Relation.TransGen graph.Feeds i i

namespace Compile

open Flat (Flattened filtersIn)

variable {layout : Layout B.Descriptor} {graph : Flat.Graph B.Descriptor} {filters : List B.Filter}

/-- What the scheduler is told about a filter. -/
def taskOf (flat : Flat.Filter B.Descriptor) (filter : B.Filter) : Schedule.Task B.Format where
  path := flat.path
  inputs := flat.spec.inputs
  outputs := flat.spec.outputs
  format := B.outputFormat filter
  footprint := (B.filterFootprint filter).toNat

/-- The tasks are the filters of the graph, each with its counterpart on the device. -/
theorem getElem?_tasks {i : Nat} {task : Schedule.Task B.Format} :
    (problem graph filters).tasks[i]? = some task ↔ ∃ flat filter,
      graph.filters[i]? = some flat ∧ filters[i]? = some filter ∧ task = taskOf flat filter := by
  simp only [problem, List.getElem?_zipWith]
  cases graph.filters[i]? <;> cases filters[i]? <;> simp [taskOf, eq_comm]

/-- Every filter of the graph has a task. -/
theorem exists_task (hl : filters.length = graph.filters.length) {i : Nat}
    {flat : Flat.Filter B.Descriptor} (h : graph.filters[i]? = some flat) :
    ∃ filter, (problem graph filters).tasks[i]? = some (taskOf flat filter) := by
  have hi := (List.getElem?_eq_some_iff.mp h).1
  have hf := List.getElem?_eq_getElem (hl ▸ hi : i < filters.length)
  exact ⟨_, getElem?_tasks.mpr ⟨flat, _, h, hf, rfl⟩⟩

section Numbering

/-- A filter of the graph stands at an address of the layout. -/
theorem Flattened.exists_address (flattened : Flattened layout graph) {i : Nat}
    {flat : Flat.Filter B.Descriptor} (h : graph.filters[i]? = some flat) :
    ∃ address, (filtersIn layout)[i]? = some (address, flat.spec) := by
  have hs : (graph.filters.map Flat.Filter.spec)[i]? = some flat.spec := by
    rw [List.getElem?_map, h, Option.map_some]
  rw [flattened.specs, List.getElem?_map, Option.map_eq_some_iff] at hs
  obtain ⟨⟨address, spec⟩, hg, rfl⟩ := hs
  exact ⟨address, hg⟩

/-- A filter of the layout has a number in the graph. -/
theorem Flattened.exists_filter (flattened : Flattened layout graph) {i : Nat}
    {address : List Nat} {spec : FilterSpec B.Descriptor}
    (h : (filtersIn layout)[i]? = some (address, spec)) :
    ∃ flat, graph.filters[i]? = some flat ∧ flat.spec = spec := by
  have hs : ((filtersIn layout).map Prod.snd)[i]? = some spec := by
    rw [List.getElem?_map, h, Option.map_some]
  rwa [← flattened.specs, List.getElem?_map, Option.map_eq_some_iff] at hs

/-- A number in a connection that stands for a place of the layout belongs to a filter. -/
theorem exists_filtersIn {i : Nat} (h : layout.Terminal (Flat.placeIn layout (.member i))) :
    ∃ address spec, (filtersIn layout)[i]? = some (address, spec) ∧
      layout.at? address = some (.filter spec) := by
  cases Flat.stands_placeIn h with
  | filter hg =>
    rw [Flat.filterAddresses, List.getElem?_map, Option.map_eq_some_iff] at hg
    obtain ⟨⟨address, spec⟩, hg, -⟩ := hg
    exact ⟨address, spec, hg, Flat.mem_filtersIn_iff.mp (List.mem_of_getElem? hg)⟩

end Numbering

/-- The scheduling problem of a layout that can be constructed is one that the scheduler is made
for. -/
theorem wellFormed (constructed : layout.Constructed) (flattened : Flattened layout graph)
    (hl : filters.length = graph.filters.length) :
    (problem graph filters).WellFormed layout.outputs where
  fedOnce := flattened.fedOnce
  source := by
    intro c hc i hs
    obtain ⟨path, chain⟩ := flattened.sound c hc
    have ht : layout.Terminal (Flat.placeIn layout (.member i)) := hs ▸ chain.departs
    obtain ⟨address, spec, hg, ha⟩ := exists_filtersIn ht
    obtain ⟨e, he, ho⟩ := (flattened.read _ _ (Flat.stands_member hg) c.sourcePort).mp
      ⟨c, hc, Prod.ext hs rfl⟩
    obtain ⟨hn, hp⟩ := Prod.mk.inj ho
    have hat : layout.at? e.source.address = some (.filter spec) := by rw [hn]; exact ha
    have hlt := he.sourcePort_lt constructed hat
    obtain ⟨flat, hf, rfl⟩ := Flattened.exists_filter flattened hg
    obtain ⟨filter, htask⟩ := exists_task hl hf
    exact ⟨_, htask, hp ▸ hlt⟩
  destination := by
    intro c hc i hs
    obtain ⟨path, chain⟩ := flattened.sound c hc
    have ht : layout.Terminal (Flat.placeIn layout (.member i)) := hs ▸ chain.arrives
    obtain ⟨address, spec, hg, ha⟩ := exists_filtersIn ht
    obtain ⟨e, he, ho⟩ := (flattened.fed _ _ (Flat.stands_member hg) c.destinationPort).mp
      ⟨c, hc, Prod.ext hs rfl⟩
    obtain ⟨hn, hp⟩ := Prod.mk.inj ho
    have hat : layout.at? e.destination.address = some (.filter spec) := by rw [hn]; exact ha
    have hlt := he.destinationPort_lt constructed hat
    obtain ⟨flat, hf, rfl⟩ := Flattened.exists_filter flattened hg
    obtain ⟨filter, htask⟩ := exists_task hl hf
    exact ⟨_, htask, hp ▸ hlt⟩
  boundary := by
    intro c hc hd
    obtain ⟨e, he, ho⟩ := (flattened.fed _ _ Flat.stands_boundary c.destinationPort).mp
      ⟨c, hc, Prod.ext hd rfl⟩
    obtain ⟨hn, hp⟩ := Prod.mk.inj ho
    exact hp ▸ he.output_lt constructed hn

section Needs

/-- A filter of the layout has a task. -/
theorem exists_task_at (flattened : Flattened layout graph)
    (hl : filters.length = graph.filters.length) {address : List Nat}
    {spec : FilterSpec B.Descriptor} (ha : layout.at? address = some (.filter spec)) :
    ∃ (i : Nat) (flat : Flat.Filter B.Descriptor) (filter : B.Filter),
      (filtersIn layout)[i]? = some (address, spec) ∧ flat.spec = spec ∧
        (problem graph filters).tasks[i]? = some (taskOf flat filter) := by
  have hm := Flat.mem_filtersIn_iff.mpr ha
  obtain ⟨i, hi⟩ := List.mem_iff_getElem?.mp hm
  obtain ⟨flat, hg, hs⟩ := Flattened.exists_filter flattened hi
  obtain ⟨filter, ht⟩ := exists_task hl hg
  exact ⟨i, flat, filter, hi, hs, ht⟩

/-- A task belongs to a filter of the layout and has its ports. -/
theorem exists_spec_of_task (flattened : Flattened layout graph) {i : Nat}
    {task : Schedule.Task B.Format} (ht : (problem graph filters).tasks[i]? = some task) :
    ∃ address spec, (filtersIn layout)[i]? = some (address, spec) ∧
      layout.at? address = some (.filter spec) ∧ task.inputs = spec.inputs ∧
        task.outputs = spec.outputs := by
  obtain ⟨flat, filter, hg, -, rfl⟩ := getElem?_tasks.mp ht
  obtain ⟨address, hi⟩ := Flattened.exists_address flattened hg
  have ha := Flat.mem_filtersIn_iff.mp (List.mem_of_getElem? hi)
  exact ⟨address, flat.spec, hi, ha, rfl, rfl⟩

/-- What is connected in the flattened graph is connected at its own level. -/
theorem connected_of_closed (flattened : Flattened layout graph)
    (hl : filters.length = graph.filters.length)
    (closed : (problem graph filters).Closed layout.outputs) : layout.Connected := by
  constructor
  case fed =>
    intro address spec ha port hp
    obtain ⟨i, flat, filter, hi, rfl, ht⟩ := exists_task_at flattened hl ha
    have hfed := closed.fed i _ ht port hp
    exact (flattened.fed _ _ (Flat.stands_member hi) port).mp hfed
  case renders =>
    intro address spec ha
    obtain ⟨i, flat, filter, -, rfl, ht⟩ := exists_task_at flattened hl ha
    exact (closed.allRead i _ ht).nonempty
  case read =>
    intro address spec ha port hp
    obtain ⟨i, flat, filter, hi, rfl, ht⟩ := exists_task_at flattened hl ha
    have hread := (closed.allRead i _ ht).read port hp
    exact (flattened.read _ _ (Flat.stands_member hi) port).mp hread
  case resolved =>
    intro port hp
    obtain ⟨c, hc, ht, -⟩ := closed.resolved port hp
    exact (flattened.fed _ _ Flat.stands_boundary port).mp ⟨c, hc, ht⟩

/-- What is connected at its own level is connected in the flattened graph. -/
theorem closed_of_connected (flattened : Flattened layout graph) (connected : layout.Connected) :
    (problem graph filters).Closed layout.outputs := by
  constructor
  case fed =>
    intro i task ht port hp
    obtain ⟨address, spec, hi, ha, hin, -⟩ := exists_spec_of_task flattened ht
    rw [hin] at hp
    have hfed := connected.fed address spec ha port hp
    exact (flattened.fed _ _ (Flat.stands_member hi) port).mpr hfed
  case allRead =>
    intro i task ht
    obtain ⟨address, spec, hi, ha, -, hout⟩ := exists_spec_of_task flattened ht
    constructor
    case nonempty => exact hout ▸ connected.renders address spec ha
    case read =>
      intro port hp
      rw [hout] at hp
      have hread := connected.read address spec ha port hp
      exact (flattened.read _ _ (Flat.stands_member hi) port).mpr hread
  case resolved =>
    intro port hp
    have hfed := connected.resolved port hp
    obtain ⟨c, hc, ht⟩ := (flattened.fed _ _ Flat.stands_boundary port).mpr hfed
    have hs : c.source ≠ .boundary := fun hs =>
      flattened.crossing c hc ⟨hs, congrArg Prod.fst ht⟩
    exact ⟨c, hc, ht, hs⟩

/-- What the scheduler needs connected in the flattened graph is what has to be connected in the
layout. -/
theorem closed_iff (flattened : Flattened layout graph)
    (hl : filters.length = graph.filters.length) :
    (problem graph filters).Closed layout.outputs ↔ layout.Connected :=
  ⟨connected_of_closed flattened hl, closed_of_connected flattened⟩

end Needs

end Compile

end RenderGraph
