import RenderGraph.Proofs.Device.Allocation
import RenderGraph.Proofs.Monitor
import RenderGraph.Proofs.Run.Calls

/-!
# What can happen to a pipeline in memory

A pipeline that was built is bound, run, reset, monitored and tweaked in any
order, runs may fail halfway, and the device is used for other things as well.
Its plan and its render targets stay what they were, and its filters lose nothing
but the textures that are bound to them.
-/

namespace RenderGraph.Device

open Schedule (Solution)

/-- One use of a pipeline in memory or of its device. -/
inductive Use : Running memory → Running memory → Prop
  /-- A texture is bound. -/
  | appendInput {pipeline next : Pipeline memory} {device : Memory} {texture : MemoryTexture} :
    pipeline.appendInput texture = .ok next → Use ⟨pipeline, device⟩ ⟨next, device⟩
  /-- The outputs of a pipeline are bound. -/
  | appendOutputsOf {pipeline provider next : Pipeline memory} {device : Memory} :
    pipeline.appendOutputsOf provider = .ok next → Use ⟨pipeline, device⟩ ⟨next, device⟩
  /-- The pipeline is run, with or without success. -/
  | process {running : Running memory} : Use running (Pipeline.process running).state
  /-- The pipeline is reset. -/
  | reset {pipeline : Pipeline memory} {device : Memory} :
    Use ⟨pipeline, device⟩ ⟨pipeline.reset, device⟩
  /-- A filter is given a label, or its label is taken away. -/
  | label {pipeline next : Pipeline memory} {device : Memory} {path : String}
    {label : Option String} :
    pipeline.modifyFilter path (fun filter : TermFilter MemoryTexture => { filter with label }) =
      .ok next → Use ⟨pipeline, device⟩ ⟨next, device⟩
  /-- Monitoring is switched on. -/
  | enableMonitoring {pipeline : Pipeline memory} {device : Memory} :
    Use ⟨pipeline, device⟩ ⟨pipeline.enableMonitoring, device⟩
  /-- Monitoring is switched off. -/
  | disableMonitoring {pipeline : Pipeline memory} {device : Memory} :
    Use ⟨pipeline, device⟩ ⟨pipeline.disableMonitoring, device⟩
  /-- The device is used or set up for something else. It never gives up a cell. -/
  | device {pipeline : Pipeline memory} {device after : Memory} :
    device.cells.length ≤ after.cells.length → Use ⟨pipeline, device⟩ ⟨pipeline, after⟩

/-- A pipeline that was built from a layout, and its device, after any uses of both. -/
inductive Reachable (layout : Layout TermDescriptor) : Running memory → Prop
  /-- The pipeline was just built. -/
  | build {name : String} {device : Memory} {pipeline : Pipeline memory} :
    (Pipeline.build name layout device).result = .ok pipeline →
    Reachable layout ⟨pipeline, (Pipeline.build name layout device).state⟩
  /-- It was used once more. -/
  | use {running next : Running memory} : Reachable layout running → Use running next →
    Reachable layout next

/-- A filter in memory is of the type and has the ports of its description. -/
structure TermFilter.Suits (filter : TermFilter MemoryTexture) (spec : FilterSpec TermDescriptor) :
    Prop where
  /-- The name of the type. -/
  typeName : filter.typeName = spec.typeName
  /-- There is room for a texture at each input. -/
  inputs : filter.inputs.length = spec.inputs.size
  /-- The number of outputs. -/
  outputs : filter.outputs = spec.outputs.size

/-- The filters of a pipeline are those of a flattened graph. -/
def Manned (graph : Flat.Graph TermDescriptor) (filters : List (TermFilter MemoryTexture)) : Prop :=
  List.Forall₂ (fun flat filter => filter.Suits flat.spec) graph.filters filters

/-- The scheduling problem of a flattened graph with new filters. -/
def problemOf (graph : Flat.Graph TermDescriptor) : Schedule.Problem String :=
  Compile.problem (B := memory) graph (graph.filters.map fun flat => .ofSpec flat.spec)

/-- A graph and a schedule that a layout is compiled to in memory. -/
structure Planned (layout : Layout TermDescriptor) (graph : Flat.Graph TermDescriptor)
    (schedule : Solution String) : Prop where
  /-- The graph is the flattened layout. -/
  flattened : Flat.Flattened layout graph
  /-- The schedule is that of the graph with its new filters. -/
  solved : ((problemOf graph).solve layout.outputs).1 = .ok schedule

/-- What a pipeline in memory keeps whatever happens to it. -/
structure Intact (layout : Layout TermDescriptor) (graph : Flat.Graph TermDescriptor)
    (schedule : Solution String) (running : Running memory) : Prop where
  /-- It was built from the layout. -/
  origin : running.pipeline.layout = layout
  /-- It has the plan of the schedule. -/
  plan : ∃ name, running.pipeline.plan = Compile.plan (B := memory) name layout graph schedule
  /-- It has the filters of the graph. -/
  manned : Manned graph running.pipeline.filters
  /-- No two attachments of its targets share a cell. -/
  housed : Housed (running.pipeline.targets.flatMap TermTarget.attachments) running.device
  /-- Every filter has a target with enough attachments. -/
  roomy : ∀ (i : Nat) flat (target : Nat), graph.filters[i]? = some flat →
    schedule.assignments[i]? = some target → ∃ found : TermTarget MemoryTexture,
      running.pipeline.targets[target]? = some found ∧
        flat.spec.outputs.size ≤ found.attachments.length
  /-- The monitor knows all filters. -/
  monitored : ∀ samples, running.pipeline.monitor.samples = some samples →
    samples.Sized graph.filters.length

section Built

variable {layout : Layout TermDescriptor} {graph : Flat.Graph TermDescriptor}
  {schedule : Solution String}

/-- A new filter suits its description. -/
theorem TermFilter.ofSpec_suits (spec : FilterSpec TermDescriptor) :
    (TermFilter.ofSpec spec : TermFilter MemoryTexture).Suits spec :=
  ⟨rfl, List.length_replicate, rfl⟩

/-- Filters are created without a change of the device. -/
theorem createFilters_eq_ok {flats : List (Flat.Filter TermDescriptor)}
    {filters : List (TermFilter MemoryTexture)} {device : Memory}
    (h : ((flats.mapM (Compile.createFilter (B := memory))) device).result = .ok filters) :
    filters = (flats.map fun flat => .ofSpec flat.spec) ∧
      ((flats.mapM (Compile.createFilter (B := memory))) device).state = device := by
  induction flats generalizing filters with
  | nil => exact ⟨(Except.ok.inj h).symm, rfl⟩
  | cons flat rest ih =>
    have hone : ∀ filter, (Compile.createFilter (B := memory) flat device).result = .ok filter →
        filter = .ofSpec flat.spec ∧
          (Compile.createFilter (B := memory) flat device).state = device := by
      intro filter hf
      simp only [Compile.createFilter, Action.mapError, Memory.createFilter] at hf ⊢
      split at hf
      · cases hf
      case isFalse hne =>
        rw [if_neg hne]
        exact ⟨(Except.ok.inj hf).symm, rfl⟩
    rw [List.mapM_cons] at h ⊢
    obtain ⟨filter, hf, hrest⟩ := Action.bind_eq_ok_iff.mp h
    obtain ⟨rfl, hs⟩ := hone filter hf
    rw [hs] at hrest
    obtain ⟨made, hm, hmade⟩ := Action.bind_eq_ok_iff.mp hrest
    obtain ⟨rfl, hs'⟩ := ih hm
    refine ⟨(Except.ok.inj hmade).symm, ?_⟩
    rw [(Action.bind_of_ok hf _).2, hs, (Action.bind_of_ok hm _).2, hs']
    rfl

/-- The scheduling problem of a flattened layout with new filters is one that the scheduler is made
for. -/
theorem problemOf_wellFormed (constructed : layout.Constructed)
    (flattened : Flat.Flattened layout graph) : (problemOf graph).WellFormed layout.outputs :=
  Compile.wellFormed (B := memory) constructed flattened (List.length_map _)

/-- A pipeline that was just built has new filters and a plan of a complete schedule, whose targets
were allocated on the device. -/
theorem exists_allocated_of_build (constructed : layout.Constructed) {name : String}
    {device : Memory} {pipeline : Pipeline memory}
    (h : (Pipeline.build (B := memory) name layout device).result = .ok pipeline) :
    ∃ graph schedule final, Flat.flatten layout = .ok graph ∧ Planned layout graph schedule ∧
      final.Complete (problemOf graph) ∧
      Schedule.Finished (problemOf graph) layout.outputs final schedule ∧
      pipeline = ⟨name, layout, graph.filters.map fun flat => .ofSpec flat.spec, pipeline.targets,
        Compile.plan (B := memory) name layout graph schedule, [], .off⟩ ∧
      ∃ allocated, (schedule.targets.zipIdx.mapM fun (target, id) =>
          Compile.allocate (B := memory) graph id target) device = allocated ∧
        allocated.result = .ok pipeline.targets ∧
        (Pipeline.build (B := memory) name layout device).state = allocated.state := by
  obtain ⟨compiled, hc, hp⟩ := Action.bind_eq_ok_iff.mp h
  have hstate : (Pipeline.build (B := memory) name layout device).state =
      (compile (B := memory) name layout device).state := (Action.bind_of_ok hc _).2
  obtain rfl := Except.ok.inj hp
  obtain ⟨graph, schedule, created, allocated, hg, rfl, hf, hs, rfl, ht, hst, hplan⟩ :=
    Compile.compile_eq_ok hc
  obtain ⟨hfilters, hcreated⟩ := createFilters_eq_ok hf
  have flattened := Flat.flattened_of_eq_ok constructed hg
  rw [hfilters] at hs
  obtain ⟨final, complete, hfinal⟩ := (problemOf_wellFormed constructed flattened).exists_finish hs
  refine ⟨graph, schedule, final, hg, ⟨flattened, hs⟩, complete,
    Schedule.State.finish_eq_ok hfinal, by rw [← hfilters, ← hplan], _, rfl, ?_, ?_⟩
  · rwa [hcreated] at ht
  · rw [hstate, hst, hcreated]

/-- The attachments of a pipeline that was just built are in new cells, all different. -/
theorem housed_of_build (constructed : layout.Constructed) {name : String} {device : Memory}
    {pipeline : Pipeline memory}
    (h : (Pipeline.build (B := memory) name layout device).result = .ok pipeline)
    {front : List MemoryTexture} (housed : Housed front device) :
    Housed (front ++ pipeline.targets.flatMap TermTarget.attachments)
      (Pipeline.build (B := memory) name layout device).state := by
  obtain ⟨graph, schedule, final, -, -, complete, finished, -, _, rfl, ht, hst⟩ :=
    exists_allocated_of_build constructed h
  obtain ⟨targets, hok, hall, -⟩ := allocateAll_housed graph
    (fun target ht => finished.users_ne_nil complete ht) device housed
  obtain rfl : targets = pipeline.targets := Except.ok.inj (hok.symm.trans ht)
  exact hst ▸ hall

/-- A pipeline that was just built is intact. -/
theorem exists_intact_of_build (constructed : layout.Constructed) {name : String}
    {device : Memory} {pipeline : Pipeline memory}
    (h : (Pipeline.build name layout device).result = .ok pipeline) :
    ∃ graph schedule, Flat.flatten layout = .ok graph ∧ Planned layout graph schedule ∧
      Intact layout graph schedule ⟨pipeline, (Pipeline.build name layout device).state⟩ := by
  have housed := housed_of_build constructed h (.nil device)
  obtain ⟨graph, schedule, final, hg, planned, complete, finished, hp, _, rfl, ht, -⟩ :=
    exists_allocated_of_build constructed h
  obtain ⟨targets, hok, -, hroom⟩ := allocateAll_housed graph
    (fun target ht => finished.users_ne_nil complete ht) device (.nil device)
  obtain rfl : targets = pipeline.targets := Except.ok.inj (hok.symm.trans ht)
  refine ⟨graph, schedule, hg, planned, by rw [hp], ⟨name, by rw [hp]⟩, ?_, housed, ?_, ?_⟩
  · have hfilters : pipeline.filters = graph.filters.map fun flat => .ofSpec flat.spec := by rw [hp]
    rw [hfilters, Manned, List.forall₂_map_right_iff]
    exact List.forall₂_same.mpr fun flat _ => TermFilter.ofSpec_suits flat.spec
  · intro i flat target hflat htarget
    obtain ⟨lease, -, huser, hplanned⟩ := Compile.exists_planned complete finished htarget
    obtain ⟨found, hfound, hall⟩ := getElem?_of_forall₂ hroom hplanned
    have hout : Compile.outputsOf (B := memory) graph i = flat.spec.outputs.size := by
      rw [Compile.outputsOf, hflat, Option.elim_some]
    exact ⟨found, hfound, hout ▸ hall i huser⟩
  · intro samples hs
    rw [hp] at hs
    cases hs

end Built

section Runs

variable {graph : Flat.Graph TermDescriptor} {filters : List (TermFilter MemoryTexture)}

/-- Binding a texture to an input does not change the type and the ports of a filter. -/
theorem TermFilter.Suits.setInput {filter : TermFilter MemoryTexture}
    {spec : FilterSpec TermDescriptor} (h : filter.Suits spec) (port : Nat)
    (texture : MemoryTexture) : (filter.setInput port texture).Suits spec :=
  ⟨h.typeName, List.length_set.trans h.inputs, h.outputs⟩

/-- Nor does unbinding all of them. -/
theorem TermFilter.Suits.clearInputs {filter : TermFilter MemoryTexture}
    {spec : FilterSpec TermDescriptor} (h : filter.Suits spec) : filter.clearInputs.Suits spec :=
  ⟨h.typeName, (List.length_map _).trans h.inputs, h.outputs⟩

/-- Textures can be bound to the filters of a graph. -/
theorem Manned.setInput (manned : Manned graph filters) (index port : Nat)
    (texture : MemoryTexture) :
    Manned graph (filters.modify index (TermFilter.setInput port texture)) :=
  forall₂_modify manned index fun _ _ h => h.setInput port texture

/-- All textures can be unbound from them. -/
theorem Manned.clearInputs (manned : Manned graph filters) :
    Manned graph (filters.map TermFilter.clearInputs) := by
  rw [Manned, List.forall₂_map_right_iff]
  exact manned.imp fun _ _ h => h.clearInputs

/-- What does not change in the middle of a run: the filters are those of the graph, and the device
has at least so many cells. -/
def Underway (graph : Flat.Graph TermDescriptor) (cells : Nat) (progress : Progress memory) :
    Prop :=
  Manned graph progress.filters ∧ cells ≤ progress.device.cells.length

variable {cells : Nat}

/-- Whatever a run does to the textures of filters and to the device, nothing of that changes. -/
theorem withstands_underway (pipeline : Pipeline memory) :
    pipeline.Withstands (Underway graph cells) where
  setInput := fun _ _ index port _ texture _ h => ⟨h.1.setInput index port texture, h.2⟩
  render := fun _ _ _ _ _ h => ⟨h.1, Memory.length_render.symm ▸ h.2⟩
  startTimer := fun _ _ h => h
  stopTimer := fun _ _ h => h

end Runs

section Uses

variable {layout : Layout TermDescriptor} {graph : Flat.Graph TermDescriptor}
  {schedule : Solution String}

/-- Completing a run keeps a pipeline intact, whether or not the run can be recorded. -/
theorem complete_keeps (samples : List Sample) :
    (Pipeline.complete (B := memory) samples).Keeps (Intact layout graph schedule) := by
  intro running intact
  simp only [Pipeline.complete, Bind.bind, Action.bind, Action.get]
  cases hr : running.pipeline.monitor.record? samples with
  | none => exact intact
  | some monitor =>
    exact { intact with
      manned := intact.manned.clearInputs
      monitored := Monitor.Sized.record intact.monitored hr }

/-- A run keeps a pipeline intact, whether or not it succeeds. -/
theorem process_keeps : (Pipeline.process (B := memory)).Keeps (Intact layout graph schedule) := by
  refine .bind (.of_state_eq fun _ => rfl) fun running => ?_
  dsimp only
  split
  · exact .of_state_eq fun _ => rfl
  refine .bind ?_ complete_keeps
  intro running intact
  obtain ⟨hmanned, hcells⟩ := (withstands_underway running.pipeline).renderAll
    running.pipeline.plan.schedule ⟨running.pipeline.filters, running.device⟩
    ⟨intact.manned, Nat.le_refl _⟩
  exact { intact with
    manned := hmanned
    housed := intact.housed.mono hcells }

/-- Whatever is done with a pipeline and its device, the pipeline stays intact. -/
theorem Use.intact {running next : Running memory} (use : Use running next)
    (intact : Intact layout graph schedule running) : Intact layout graph schedule next := by
  cases use with
  | appendInput h =>
    obtain ⟨-, rfl⟩ := Pipeline.appendInput_eq_ok_iff.mp h
    exact { intact with }
  | appendOutputsOf h =>
    obtain ⟨textures, -, -, rfl⟩ := Pipeline.appendOutputsOf_eq_ok_iff.mp h
    exact { intact with }
  | process => exact process_keeps _ intact
  | reset => exact { intact with manned := intact.manned.clearInputs }
  | label h =>
    obtain ⟨index, rfl⟩ := Pipeline.exists_of_modifyFilter h
    refine { intact with manned := forall₂_modify intact.manned index ?_ }
    exact fun _ _ suits => ⟨suits.typeName, suits.inputs, suits.outputs⟩
  | @enableMonitoring pipeline device =>
    have hl : graph.filters.length = pipeline.filters.length := intact.manned.length_eq
    exact { intact with
      monitored := hl ▸ Monitor.Sized.enable (hl ▸ intact.monitored) }
  | disableMonitoring => exact { intact with monitored := fun _ h => by cases h }
  | device h => exact { intact with housed := intact.housed.mono h }

/-- A pipeline that was built is intact after any uses of it and its device. -/
theorem Reachable.exists_intact (constructed : layout.Constructed) {running : Running memory}
    (reachable : Reachable layout running) :
    ∃ graph schedule, Planned layout graph schedule ∧ Intact layout graph schedule running := by
  induction reachable with
  | build h =>
    obtain ⟨graph, schedule, -, planned, intact⟩ := exists_intact_of_build constructed h
    exact ⟨graph, schedule, planned, intact⟩
  | use _ use ih =>
    obtain ⟨graph, schedule, planned, intact⟩ := ih
    exact ⟨graph, schedule, planned, use.intact intact⟩

end Uses

end RenderGraph.Device
