import RenderGraph.Proofs.Run.Invariant

/-!
# What a run computes

Flattening, scheduling, sharing render targets and running a pipeline together
compute what the layout means: after a run each output has the text that
evaluating the layout gives, whatever happened to the pipeline before.
-/

namespace RenderGraph.Device

open Schedule (Solution State)

section Outputs

variable {layout : Layout TermDescriptor} {graph : Flat.Graph TermDescriptor}
  {schedule : Solution String} {final : State String} {start : Running memory}

/-- At the end of a run every output has a texture with the text that arrives there. -/
theorem Midway.exists_output (arranged : Arranged layout graph schedule final)
    (intact : Intact layout graph schedule start) {progress : Progress memory}
    (midway : Midway layout graph schedule start schedule.order progress) {port : Nat}
    (hp : port < layout.outputs.size) :
    ∃ texture, start.pipeline.output port = .ok texture ∧
      Passes layout start .arrives .boundary port (progress.device.contents texture) := by
  have hname : layout.outputs.names.zipIdx[port]? = some (layout.outputs.names[port], port) := by
    simp [List.getElem?_zipIdx, List.getElem?_eq_getElem hp]
  obtain ⟨binding, hbinding, hout⟩ := getElem?_of_forall₂ arranged.finished.outputs hname
  obtain ⟨c, producer, hc, hs, hr⟩ := Schedule.outputBinding_eq_ok_iff.mp hout
  obtain ⟨hm, ht⟩ := sourceOf?_sound hc
  obtain ⟨hd, rfl⟩ := Prod.mk.inj ht
  rw [Schedule.Resolves, hs] at hr
  obtain ⟨target, htarget, rfl⟩ := hr
  have hassigned := arranged.finished.assigned.mpr htarget
  obtain ⟨task, htask, hlt⟩ := arranged.wellFormed.source c hm producer hs
  obtain ⟨flat, filter, hflat, -, rfl⟩ := Compile.getElem?_tasks.mp htask
  have horder : producer ∈ schedule.order := by
    rw [arranged.finished.order]
    exact arranged.finished.mem_order arranged.complete hassigned
  obtain ⟨texture, ha, hpass⟩ := midway.holds producer horder (arranged.kept hm hs hd) flat target
    hflat hassigned c.sourcePort hlt
  refine ⟨texture, ?_, ?_⟩
  · obtain ⟨name, hplan⟩ := intact.plan
    have hplanned : start.pipeline.plan.outputs[c.destinationPort]? =
        some ⟨layout.outputs.names[c.destinationPort], .attachment target c.sourcePort⟩ := by
      rw [hplan]
      simp [Compile.plan, List.getElem?_zipWith, List.getElem?_eq_getElem hp, hbinding]
    simp only [Pipeline.output, hplanned, Pipeline.outputTexture, ha]
  · rw [← hs] at hpass
    rw [← hd]
    exact hpass.arrives arranged.flattened hm

end Outputs

section Completion

variable {running : Running memory} {samples : List Sample}

/-- A run that can be recorded is completed. -/
theorem complete_eq (running : Running memory) {monitor : Monitor}
    (hr : running.pipeline.monitor.record? samples = some monitor) :
    Pipeline.complete samples running =
      ⟨⟨Pipeline.reset { running.pipeline with monitor }, running.device⟩, [], .ok ()⟩ := by
  simp only [Pipeline.complete, Bind.bind, Action.bind, Action.get, hr]
  rfl

/-- With a texture for every input, a run that renders all filters is completed. -/
theorem process_eq (bound : running.pipeline.inputs.length = running.pipeline.inputCount)
    (rendered : (Pipeline.renderSchedule running).result = .ok samples) :
    (Pipeline.process running).result =
        (Pipeline.complete samples (Pipeline.renderSchedule running).state).result ∧
      (Pipeline.process running).state =
        (Pipeline.complete samples (Pipeline.renderSchedule running).state).state := by
  have hle : ¬ running.pipeline.inputs.length < running.pipeline.inputCount := by omega
  simp only [Pipeline.process, Bind.bind, Action.bind, Action.get, if_neg hle, rendered, and_self]

/-- A run that renders all filters leaves the pipeline as it was but for its filters. -/
theorem renderSchedule_eq {progress : Progress memory}
    (rendered : (running.pipeline.renderAll running.pipeline.plan.schedule
      ⟨running.pipeline.filters, running.device⟩).result = .ok samples)
    (left : (running.pipeline.renderAll running.pipeline.plan.schedule
      ⟨running.pipeline.filters, running.device⟩).state = progress) :
    (Pipeline.renderSchedule running).result = .ok samples ∧
      (Pipeline.renderSchedule running).state =
        ⟨{ running.pipeline with filters := progress.filters }, progress.device⟩ := by
  simp only [Pipeline.renderSchedule, rendered, left, and_self]

end Completion

section Rendered

variable {layout : Layout TermDescriptor} {graph : Flat.Graph TermDescriptor}
  {schedule : Solution String} {final : State String} {start : Running memory}

/-- Before the first filter nothing has changed. -/
theorem Midway.initial :
    Midway layout graph schedule start [] ⟨start.pipeline.filters, start.device⟩ where
  rebound := List.forall₂_same.mpr fun filter _ => ⟨filter.inputs, rfl, rfl⟩
  failRender := rfl
  cells := rfl
  untouched := fun _ _ => rfl
  holds := fun i hi => by cases hi

/-- A pipeline is ready when every input has a texture of others and the device refuses no filter of
the layout. -/
theorem Arranged.ready (arranged : Arranged layout graph schedule final)
    (bound : start.pipeline.inputs.length = layout.inputs.size)
    (foreign : ∀ texture ∈ start.pipeline.inputs, Foreign start.pipeline texture)
    (allowed : ∀ address spec, layout.at? address = some (.filter spec) →
      start.device.failRender ≠ some spec.typeName) : Ready layout graph start := by
  refine ⟨bound, foreign, fun flat hm => ?_⟩
  obtain ⟨i, hi⟩ := List.mem_iff_getElem?.mp hm
  obtain ⟨address, hg⟩ := Compile.Flattened.exists_address (B := memory) arranged.flattened hi
  exact allowed address flat.spec (Flat.mem_filtersIn_iff.mp (List.mem_of_getElem? hg))

/-- A run of a pipeline that is ready renders all its filters. -/
theorem exists_rendered (arranged : Arranged layout graph schedule final)
    (intact : Intact layout graph schedule start) (ready : Ready layout graph start) :
    ∃ samples progress, (Pipeline.renderSchedule start).result = .ok samples ∧
      (Pipeline.renderSchedule start).state =
        ⟨{ start.pipeline with filters := progress.filters }, progress.device⟩ ∧
      Midway layout graph schedule start schedule.order progress ∧
      ∀ sample ∈ samples, sample.filter < graph.filters.length := by
  obtain ⟨samples, hok, midway, hsamples⟩ :=
    renderAll_succeeds arranged intact ready schedule.order [] rfl _ .initial
  obtain ⟨progress, hprogress⟩ : ∃ progress, (start.pipeline.renderAll schedule.order
    ⟨start.pipeline.filters, start.device⟩).state = progress := ⟨_, rfl⟩
  rw [hprogress] at midway
  rw [← intact.order] at hok hprogress
  obtain ⟨hrendered, hleft⟩ := renderSchedule_eq hok hprogress
  refine ⟨samples, progress, hrendered, hleft, midway, fun sample hm => ?_⟩
  obtain ⟨flat, -, -, hflat, -⟩ := arranged.exists_filter (hsamples sample hm)
  exact (List.getElem?_eq_some_iff.mp hflat).1

/-- A run of a pipeline that is ready succeeds if it can be recorded, and afterwards every output
has the text that arrives there. -/
theorem Intact.process_succeeds (intact : Intact layout graph schedule start)
    (arranged : Arranged layout graph schedule final) (ready : Ready layout graph start)
    (recordable : ∀ recorded samples, start.pipeline.monitor.samples = some recorded →
      (Pipeline.renderSchedule start).result = .ok samples → recorded.Accepts samples) :
    (Pipeline.process start).result = .ok () ∧ ∀ port < layout.outputs.size, ∃ texture,
      start.pipeline.output port = .ok texture ∧
      (Pipeline.process start).state.pipeline.output port = .ok texture ∧
      Passes layout start .arrives .boundary port
        ((Pipeline.process start).state.device.contents texture) := by
  obtain ⟨samples, progress, hrendered, hleft, midway, hknown⟩ :=
    exists_rendered arranged intact ready
  obtain ⟨monitor, hmonitor⟩ := Monitor.Sized.exists_record intact.monitored
    (fun recorded hr => recordable recorded samples hr hrendered) hknown
  have hinputs : start.pipeline.inputs.length = start.pipeline.inputCount := by
    rw [Pipeline.inputCount, intact.origin, ready.bound]
  obtain ⟨hres, hst⟩ := process_eq hinputs hrendered
  rw [hleft] at hres hst
  have hcomplete := complete_eq ⟨{ start.pipeline with filters := progress.filters },
    progress.device⟩ hmonitor
  rw [hcomplete] at hres hst
  refine ⟨hres, fun port hp => ?_⟩
  obtain ⟨texture, hout, hpass⟩ := midway.exists_output arranged intact hp
  rw [hst]
  exact ⟨texture, hout, hout, hpass⟩

end Rendered

/-- A run of a pipeline in memory computes what its layout means. Whatever happened to the pipeline
since it was built, a run succeeds if every input has a texture that is no attachment of the
pipeline, no filter is refused and, while monitoring is on, recording the run overflows nothing.
Afterwards each output has a texture with the one text that evaluating the nested layout gives for
it, from the texts of the bound textures and the labels of the filters. -/
theorem process_evaluates (layout : Layout TermDescriptor) (constructed : layout.Constructed)
    (running : Running memory) (reachable : Reachable layout running)
    (bound : running.pipeline.inputs.length = layout.inputs.size)
    (foreign : ∀ texture ∈ running.pipeline.inputs, Foreign running.pipeline texture)
    (allowed : ∀ address spec, layout.at? address = some (.filter spec) →
      running.device.failRender ≠ some spec.typeName)
    (recordable : ∀ recorded samples, running.pipeline.monitor.samples = some recorded →
      (Pipeline.renderSchedule running).result = .ok samples → recorded.Accepts samples) :
    (Pipeline.process running).result = .ok () ∧
    ∀ port < layout.outputs.size, ∃ texture,
      (Pipeline.process running).state.pipeline.output port = .ok texture ∧
      ∀ text, layout.Denotes (labels running.pipeline) (given running) .arrives ⟨[], .inside⟩ port
        text ↔ (Pipeline.process running).state.device.contents texture = text := by
  obtain ⟨graph, schedule, planned, intact⟩ := reachable.exists_intact constructed
  obtain ⟨final, arranged⟩ := planned.exists_arranged constructed
  have ready := arranged.ready bound foreign allowed
  obtain ⟨hok, hout⟩ := intact.process_succeeds arranged ready recordable
  refine ⟨hok, fun port hp => ?_⟩
  obtain ⟨texture, -, houtput, hpass⟩ := hout port hp
  refine ⟨texture, houtput, fun text => ⟨fun hd => ?_, fun he => he ▸ hpass⟩⟩
  exact Layout.Denotes.unique constructed hpass hd

section Panorama

open Compile (plain)

/-- A layout with a filter that blurs and one that sharpens what was blurred. -/
def darkroom : Layout TermDescriptor where
  typeName := "Darkroom"
  inputs := ⟨["in"]⟩
  outputs := ⟨["out"]⟩
  elements := [⟨"blur", .filter ⟨"Blur", ⟨["in"]⟩, ⟨["out"]⟩, plain⟩⟩,
    ⟨"sharpen", .filter ⟨"Sharpen", ⟨["in"]⟩, ⟨["out"]⟩, plain⟩⟩]
  connections := [⟨.boundary, 0, .member 0, 0⟩, ⟨.member 0, 0, .member 1, 0⟩,
    ⟨.member 1, 0, .boundary, 0⟩]

/-- A filter with two outputs behind the darkroom. It takes over the render target of the first
filter of the darkroom, which has to grow for it. -/
def panorama : Layout TermDescriptor where
  typeName := "Panorama"
  inputs := ⟨["in"]⟩
  outputs := ⟨["left", "right"]⟩
  elements := [⟨"darkroom", .pipeline darkroom⟩,
    ⟨"split", .filter ⟨"Split", ⟨["in"]⟩, ⟨["left", "right"]⟩, plain⟩⟩]
  connections := [⟨.boundary, 0, .member 0, 0⟩, ⟨.member 0, 0, .member 1, 0⟩,
    ⟨.member 1, 0, .boundary, 0⟩, ⟨.member 1, 1, .boundary, 1⟩]

/-- The darkroom can be constructed. -/
theorem darkroom_constructed : darkroom.Constructed := by
  have port {name : String} (h : checkName .port name = .ok ()) : Ports.Declared ⟨[name]⟩ :=
    Ports.declared_singleton h
  have filter (typeName : String) : FilterSpec.Constructed
      (⟨typeName, ⟨["in"]⟩, ⟨["out"]⟩, plain⟩ : FilterSpec TermDescriptor) :=
    FilterSpec.constructed_of_declared typeName (port rfl) (port rfl) plain
  have hp : Layout.Constructed (⟨"Darkroom", ⟨["in"]⟩, ⟨["out"]⟩, [], []⟩ : Layout TermDescriptor) :=
    Layout.constructed_of_declared "Darkroom" (port rfl) (port rfl)
  have hblur := hp.addFilter (filter "Blur") (show Layout.add _ "blur" _ = .ok _ from rfl)
  have hboth := hblur.addFilter (filter "Sharpen") (show Layout.add _ "sharpen" _ = .ok _ from rfl)
  have hin := hboth.connectToInput (show Layout.connectToInput _ 0 0 0 = .ok _ from rfl)
  have hmid := hin.connect (show Layout.connect _ ⟨.member 0, 0, .member 1, 0⟩ = .ok _ from rfl)
  exact hmid.connectToOutput (show Layout.connectToOutput _ 1 0 0 = .ok _ from rfl)

/-- So can the panorama. -/
theorem panorama_constructed : panorama.Constructed := by
  have hone : Ports.Declared ⟨["in"]⟩ := Ports.declared_singleton rfl
  have htwo : Ports.Declared ⟨["left", "right"]⟩ :=
    .add (Ports.declared_singleton rfl) (show Ports.add ⟨["left"]⟩ "right" = .ok _ from rfl)
  have hp : Layout.Constructed
      (⟨"Panorama", ⟨["in"]⟩, ⟨["left", "right"]⟩, [], []⟩ : Layout TermDescriptor) :=
    Layout.constructed_of_declared "Panorama" hone htwo
  have hroom := hp.addPipeline darkroom_constructed
    (show Layout.add _ "darkroom" _ = .ok _ from rfl)
  have hboth := hroom.addFilter (FilterSpec.constructed_of_declared "Split" hone htwo plain)
    (show Layout.add _ "split" _ = .ok _ from rfl)
  have hin := hboth.connectToInput (show Layout.connectToInput _ 0 0 0 = .ok _ from rfl)
  have hmid := hin.connect (show Layout.connect _ ⟨.member 0, 0, .member 1, 0⟩ = .ok _ from rfl)
  have hleft := hmid.connectToOutput (show Layout.connectToOutput _ 1 0 0 = .ok _ from rfl)
  exact hleft.connectToOutput (show Layout.connectToOutput _ 1 1 1 = .ok _ from rfl)

/-- The panorama as it is built on a new device. -/
def developed : Pipeline memory where
  name := "panorama"
  layout := panorama
  filters := [.ofSpec ⟨"Split", ⟨["in"]⟩, ⟨["left", "right"]⟩, plain⟩,
    .ofSpec ⟨"Blur", ⟨["in"]⟩, ⟨["out"]⟩, plain⟩, .ofSpec ⟨"Sharpen", ⟨["in"]⟩, ⟨["out"]⟩, plain⟩]
  targets := [⟨"rgba8", [⟨1, 0⟩, ⟨2, 1⟩]⟩, ⟨"rgba8", [⟨3, 2⟩]⟩]
  plan :=
    { name := "panorama"
      filters := [⟨0, "split", "Split", 0, [.attachment 1 0]⟩,
        ⟨1, "darkroom::blur", "Blur", 0, [.input 0]⟩,
        ⟨2, "darkroom::sharpen", "Sharpen", 1, [.attachment 0 0]⟩]
      schedule := [1, 2, 0]
      targets := [⟨0, "\"rgba8\"", 2, [1, 0]⟩, ⟨1, "\"rgba8\"", 1, [2]⟩]
      connections := [⟨.member 0, 0, .boundary, 0⟩, ⟨.member 0, 1, .boundary, 1⟩,
        ⟨.member 1, 0, .member 2, 0⟩, ⟨.boundary, 0, .member 1, 0⟩, ⟨.member 2, 0, .member 0, 0⟩]
      inputs := ["in"]
      outputs := [⟨"left", .attachment 0 0⟩, ⟨"right", .attachment 0 1⟩] }
  inputs := []
  monitor := .off

set_option maxRecDepth 10000 in
/-- Building the panorama gives that pipeline. -/
theorem developed_built :
    (Pipeline.build (B := memory) "panorama" panorama (Memory.fresh none)).result =
      .ok developed := by
  cbv

/-- The pipeline with a label for one of its filters. -/
def labelled : Pipeline memory :=
  { developed with
    filters := developed.filters.modify 1 fun filter => { filter with label := some "Soft" } }

/-- The panorama with a texture for its input and a label, on a device with a timer and with
monitoring on. -/
def exposed : Running memory where
  pipeline := { labelled with inputs := [⟨4, 3⟩], monitor := ⟨some (.none 3)⟩ }
  device := { Memory.fresh (some ⟨5⟩) with numbered := 4, cells := ["", "", "", "img"] }

set_option maxRecDepth 10000 in
/-- That state can be reached. -/
theorem exposed_reachable : Reachable panorama exposed := by
  have hcells : (Pipeline.build (B := memory) "panorama" panorama
      (Memory.fresh none)).state.cells.length = 3 := by cbv
  have hlength : (Pipeline.build (B := memory) "panorama" panorama
      (Memory.fresh none)).state.cells.length ≤ exposed.device.cells.length := by
    rw [hcells]
    decide
  have hlabel : developed.modifyFilter "darkroom::blur"
      (fun filter => { filter with label := some "Soft" }) = .ok labelled := rfl
  have hmonitored := (((Reachable.build developed_built).use (.device hlength)).use
    (.label hlabel)).use .enableMonitoring
  have happend : Pipeline.appendInput (B := memory) labelled.enableMonitoring ⟨4, 3⟩ =
      .ok exposed.pipeline := rfl
  exact hmonitored.use (.appendInput happend)

/-- A run can be recorded if the times that it takes are accepted. -/
theorem recordable_of_run {running : Running memory} {recorded : Samples} {samples : List Sample}
    (hm : running.pipeline.monitor.samples = some recorded)
    (hrun : (Pipeline.renderSchedule running).result = .ok samples)
    (accepts : recorded.Accepts samples) :
    ∀ recorded samples, running.pipeline.monitor.samples = some recorded →
      (Pipeline.renderSchedule running).result = .ok samples → recorded.Accepts samples := by
  intro other taken ho ht
  obtain rfl := Option.some.inj (hm.symm.trans ho)
  obtain rfl := Except.ok.inj (hrun.symm.trans ht)
  exact accepts

/-- Recording the first run of the exposed panorama overflows nothing. -/
theorem exposed_recordable : ∀ recorded samples, exposed.pipeline.monitor.samples = some recorded →
    (Pipeline.renderSchedule exposed).result = .ok samples → recorded.Accepts samples := by
  have hrun : (Pipeline.renderSchedule exposed).result = .ok [⟨1, ⟨5⟩⟩, ⟨2, ⟨5⟩⟩, ⟨0, ⟨5⟩⟩] := by
    cbv
  exact recordable_of_run rfl hrun ⟨by decide, by decide⟩

/-- The text of the input goes into the darkroom and through both filters, and then through the last
one to both outputs. -/
theorem panorama_denotes (labels : List Nat → Option String) (hblur : labels [0, 0] = some "Soft")
    (hsharpen : labels [0, 1] = none) (hsplit : labels [1] = none) :
    panorama.Denotes labels ["img"] .arrives ⟨[], .inside⟩ 0 "Split[0](Sharpen(Soft(img)))" ∧
    panorama.Denotes labels ["img"] .arrives ⟨[], .inside⟩ 1 "Split[1](Sharpen(Soft(img)))" := by
  have outer (c : Connection Anchor) (hc : c ∈ panorama.connections) :
      panorama.Authored (c.map (Anchor.spot [])) := ⟨[], panorama, rfl, c, hc, rfl⟩
  have inner (c : Connection Anchor) (hc : c ∈ darkroom.connections) :
      panorama.Authored (c.map (Anchor.spot [0])) := ⟨[0], darkroom, rfl, c, hc, rfl⟩
  have hroom : panorama.at? [0] = some (.pipeline darkroom) := rfl
  have himg : panorama.Denotes labels ["img"] .arrives ⟨[0, 0], .outside⟩ 0 "img" :=
    .carried (inner ⟨.boundary, 0, .member 0, 0⟩ (by simp [darkroom]))
      (.nested hroom (.carried (outer ⟨.boundary, 0, .member 0, 0⟩ (by simp [panorama]))
        (.input rfl)))
  have hsoft := Layout.Denotes.unary (show panorama.at? [0, 0] = some (.filter _) from rfl)
    Nat.zero_lt_one rfl himg
  have hsharp := Layout.Denotes.unary (show panorama.at? [0, 1] = some (.filter _) from rfl)
    Nat.zero_lt_one rfl
    (.carried (inner ⟨.member 0, 0, .member 1, 0⟩ (by simp [darkroom])) hsoft)
  have hdone := Layout.Denotes.carried (outer ⟨.member 0, 0, .member 1, 0⟩ (by simp [panorama]))
    (.nested hroom (.carried (inner ⟨.member 1, 0, .boundary, 0⟩ (by simp [darkroom])) hsharp))
  have hterm (port : Nat) (hp : port < 2) := Layout.Denotes.unary
    (show panorama.at? [1] = some (.filter _) from rfl) hp rfl hdone
  rw [hblur, hsharpen, hsplit] at hterm
  exact ⟨.carried (outer ⟨.member 1, 0, .boundary, 0⟩ (by simp [panorama])) (hterm 0 (by decide)),
    .carried (outer ⟨.member 1, 1, .boundary, 1⟩ (by simp [panorama])) (hterm 1 (by decide))⟩

/-- A run of the panorama gives both outputs, though the filter that writes them overwrites what the
first filter wrote. -/
theorem panorama_evaluated : Reachable panorama exposed ∧
    (Pipeline.process exposed).result = .ok () ∧ ∃ left right,
      (Pipeline.process exposed).state.pipeline.output 0 = .ok left ∧
      (Pipeline.process exposed).state.pipeline.output 1 = .ok right ∧
      (Pipeline.process exposed).state.device.contents left = "Split[0](Sharpen(Soft(img)))" ∧
      (Pipeline.process exposed).state.device.contents right = "Split[1](Sharpen(Soft(img)))" := by
  have hforeign : ∀ texture ∈ exposed.pipeline.inputs, Foreign exposed.pipeline texture := by
    simp [exposed, labelled, developed, Foreign]
  have hallowed : ∀ address spec, panorama.at? address = some (.filter spec) →
      exposed.device.failRender ≠ some spec.typeName := by
    intro address spec _
    exact (Option.some_ne_none _).symm
  obtain ⟨hok, hout⟩ := process_evaluates panorama panorama_constructed exposed exposed_reachable
    rfl hforeign hallowed exposed_recordable
  obtain ⟨hleft, hright⟩ :=
    panorama_denotes (labels exposed.pipeline) (by cbv) (by cbv) (by cbv)
  obtain ⟨left, hl, hlt⟩ := hout 0 (by decide)
  obtain ⟨right, hr, hrt⟩ := hout 1 (by decide)
  exact ⟨exposed_reachable, hok, left, right, hl, hr, (hlt _).mp hleft, (hrt _).mp hright⟩

end Panorama

end RenderGraph.Device
