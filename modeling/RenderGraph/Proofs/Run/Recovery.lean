import RenderGraph.Proofs.Run.Failure

/-!
# A failed run can be repeated

A run that fails destroys nothing that the next one reads: filters that were not
reached keep what they were given, and the targets that were overwritten are
written again before anything reads them. Once its cause is removed the run
succeeds, and its outputs are those of a run that never failed.
-/

namespace RenderGraph.Device

open Schedule (Solution State)

/-- A use of a pipeline is a call on it, and no call touches the inputs of a filter directly. -/
theorem Use.exists_call {running next : Running memory} (use : Use running next) :
    ∃ call : Call memory,
      call.Tweaks (fun filter after : TermFilter MemoryTexture => after.inputs = filter.inputs) ∧
        (call.perform running).state = next := by
  cases use with
  | @appendInput pipeline next device texture h =>
    exact ⟨.appendInput texture, trivial, by simp only [Call.perform, Pipeline.change, h]⟩
  | @appendOutputsOf pipeline provider next device h =>
    exact ⟨.appendOutputsOf provider, trivial, by simp only [Call.perform, Pipeline.change, h]⟩
  | process => exact ⟨.process, trivial, rfl⟩
  | reset => exact ⟨.reset, trivial, rfl⟩
  | @label pipeline next device path label h =>
    refine ⟨.tweak path fun filter => { filter with label }, fun _ => rfl, ?_⟩
    simp only [Call.perform, Pipeline.change, h]
  | enableMonitoring => exact ⟨.enableMonitoring, trivial, rfl⟩
  | disableMonitoring => exact ⟨.disableMonitoring, trivial, rfl⟩
  | @device pipeline device after h => exact ⟨.useDevice after, trivial, rfl⟩

/-- A pipeline that was built stays intact and furnished, whatever it is used for. -/
theorem Reachable.exists_furnished {layout : Layout TermDescriptor}
    (constructed : layout.Constructed) {running : Running memory}
    (reachable : Reachable layout running) :
    ∃ graph schedule, Planned layout graph schedule ∧ Intact layout graph schedule running ∧
      running.pipeline.Furnished TermFilter.inputs graph := by
  induction reachable with
  | build h =>
    obtain ⟨graph, schedule, hg, planned, intact⟩ := exists_intact_of_build constructed h
    obtain ⟨graph', hg', furnished⟩ := Pipeline.exists_furnished memory_exact constructed h
    obtain rfl : graph = graph' := Except.ok.inj (hg.symm.trans hg')
    exact ⟨graph, schedule, planned, intact, furnished⟩
  | use _ use ih =>
    obtain ⟨graph, schedule, planned, intact, furnished⟩ := ih
    obtain ⟨call, tweaks, rfl⟩ := use.exists_call
    have slots := tweaks.imp fun _ _ h => congrArg List.length h
    exact ⟨graph, schedule, planned, use.intact intact,
      Pipeline.perform_keeps_furnished memory_exact call slots _ furnished⟩

/-- A device after textures were made and it was told to refuse other filters. From then on the
clock of its host shows what another clock shows from the beginning. -/
def Memory.mended (device : Memory) (made : List String) (failRender : Option String)
    (clock : HostClock) : Memory :=
  { device with
    numbered := device.numbered + made.length
    cells := device.cells ++ made
    failRender
    host := ⟨fun stops => clock.shows (stops - device.timerStops)⟩ }

/-- The turns of a run on a mended device take the laps of that clock. -/
theorem Memory.timeOf_mended (device : Memory) (made : List String) (failRender : Option String)
    (clock : HostClock) (turns : Nat) : (device.mended made failRender clock).timeOf turns =
      device.timer.getD (clock.lap turns) := by
  have hlast : device.timerStops + turns + 1 - device.timerStops = turns + 1 := by omega
  have hfirst : device.timerStops + turns - device.timerStops = turns := by omega
  simp only [Memory.timeOf, Memory.mended, HostClock.lap, hlast, hfirst]

section Appending

variable {pipeline next : Pipeline memory} {more : List MemoryTexture}

/-- Textures that are appended one after another come behind the others in this order. -/
theorem eq_of_appendInputs (h : more.foldlM Pipeline.appendInput pipeline = .ok next) :
    next = { pipeline with inputs := pipeline.inputs ++ more } := by
  induction more generalizing pipeline with
  | nil =>
    obtain rfl := Except.ok.inj h
    simp
  | cons texture rest ih =>
    rw [List.foldlM_cons] at h
    obtain ⟨middle, hm, hrest⟩ := bind_eq_ok_iff.mp h
    obtain ⟨-, rfl⟩ := Pipeline.appendInput_eq_ok_iff.mp hm
    rw [ih hrest, List.append_assoc, List.singleton_append]

/-- They can be appended if there is a free input for each of them. -/
theorem appendInputs_of_le (h : pipeline.inputs.length + more.length ≤ pipeline.inputCount) :
    more.foldlM Pipeline.appendInput pipeline =
      .ok { pipeline with inputs := pipeline.inputs ++ more } := by
  induction more generalizing pipeline with
  | nil => simp [pure, Except.pure]
  | cons texture rest ih =>
    rw [List.length_cons] at h
    have hlt : pipeline.inputs.length < pipeline.inputCount := by omega
    have hfirst : pipeline.appendInput texture =
        .ok { pipeline with inputs := pipeline.inputs ++ [texture] } :=
      Pipeline.appendInput_eq_ok_iff.mpr ⟨hlt, rfl⟩
    have hroom : (pipeline.inputs ++ [texture]).length + rest.length ≤ pipeline.inputCount := by
      rw [List.length_append, List.length_singleton]
      omega
    have hrest := @ih { pipeline with inputs := pipeline.inputs ++ [texture] } hroom
    rw [List.append_assoc, List.singleton_append] at hrest
    rw [List.foldlM_cons, hfirst]
    exact hrest

end Appending

/-- A pipeline with more textures bound to it, on a mended device. -/
def resumed (running : Running memory) (more : List MemoryTexture) (made : List String)
    (failRender : Option String) (clock : HostClock) : Running memory where
  pipeline := { running.pipeline with inputs := running.pipeline.inputs ++ more }
  device := running.device.mended made failRender clock

/-- Recording the times of a run overflows nothing. -/
def Recordable (running : Running memory) : Prop :=
  ∀ recorded samples, running.pipeline.monitor.samples = some recorded →
    (Pipeline.renderSchedule running).result = .ok samples → recorded.Accepts samples

/-- Two states of a pipeline have the same outputs. -/
def SameOutputs (layout : Layout TermDescriptor) (running other : Running memory) : Prop :=
  ∀ port < layout.outputs.size, ∃ texture, running.pipeline.output port = .ok texture ∧
    other.pipeline.output port = .ok texture ∧
    running.device.contents texture = other.device.contents texture

section Resuming

variable {layout : Layout TermDescriptor} {graph : Flat.Graph TermDescriptor}
  {schedule : Solution String} {final : State String} {running left : Running memory}
  {more : List MemoryTexture} {made : List String} {failRender : Option String}
  {clock other : HostClock}

/-- A pipeline is still intact when it is resumed. -/
theorem Intact.resumed (intact : Intact layout graph schedule running) :
    Intact layout graph schedule (resumed running more made failRender clock) :=
  { intact with housed := intact.housed.mono (by simp [Device.resumed, Memory.mended]) }

/-- A pipeline with a texture for each input of the layout has no free input. -/
theorem Intact.full (intact : Intact layout graph schedule running)
    (bound : running.pipeline.inputs.length = layout.inputs.size) :
    running.pipeline.inputCount ≤ running.pipeline.inputs.length := by
  rw [Pipeline.inputCount, intact.origin, bound]

/-- How long a run takes is known beforehand. -/
theorem Intact.samples_eq (intact : Intact layout graph schedule running)
    (furnished : running.pipeline.Furnished TermFilter.inputs graph)
    (full : running.pipeline.inputCount ≤ running.pipeline.inputs.length) {samples : List Sample}
    (h : (Pipeline.renderSchedule running).result = .ok samples) :
    samples = running.device.times running.pipeline.monitor.isEnabled
      running.pipeline.plan.schedule :=
  ((Along.renderAll intact furnished full _ (fun _ hi => hi) _ .initial).1 samples h).2

/-- The labels of filters do not depend on the textures that they hold. -/
theorem labels_rebound {pipeline after : Pipeline memory} (hl : after.layout = pipeline.layout)
    (rebound : List.Forall₂ Rebound pipeline.filters after.filters) :
    labels after = labels pipeline := by
  have hlabel : ∀ i : Nat, after.filters[i]?.bind TermFilter.label =
      pipeline.filters[i]?.bind TermFilter.label := by
    intro i
    cases hf : pipeline.filters[i]? with
    | none =>
      have hlength := rebound.length_eq
      rw [List.getElem?_eq_none_iff] at hf
      rw [List.getElem?_eq_none (by omega)]
    | some filter =>
      obtain ⟨-, hafter, inputs, -, rfl⟩ := getElem?_of_forall₂ rebound hf
      rw [hafter]
      rfl
  funext address
  rw [labels, labels, hl]
  exact congrArg _ (funext hlabel)

section Retrying

variable (unharmed : Unharmed running left)
include unharmed

/-- The text of a texture of others is the same after a run that did not come to its end, and so is
that of a texture that is made afterwards. -/
theorem Unharmed.contents_mended {texture : MemoryTexture}
    (foreign : Foreign running.pipeline texture) :
    (left.device.mended made failRender clock).contents texture =
      (running.device.mended made failRender other).contents texture := by
  have hsame := unharmed.untouched texture foreign
  have hcells := unharmed.cells
  simp only [Memory.contents, Memory.mended] at hsame ⊢
  by_cases hlt : texture.cell < running.device.cells.length
  · rw [List.getElem?_append_left (hcells ▸ hlt), List.getElem?_append_left hlt, hsame]
  · have hge := Nat.le_of_not_lt hlt
    rw [List.getElem?_append_right (hcells ▸ hge), List.getElem?_append_right hge, hcells]

/-- A pipeline that is resumed differs in its filters from what it would be without the run that did
not come to its end. -/
theorem Unharmed.pipeline_resumed (other : HostClock) :
    (resumed left more made failRender clock).pipeline =
      { (resumed running more made failRender other).pipeline with
        filters := left.pipeline.filters } := by
  simp only [resumed]
  rw [unharmed.pipeline]

/-- It has the same outputs. -/
theorem Unharmed.output_resumed (other : HostClock) (port : Nat) :
    (resumed left more made failRender clock).pipeline.output port =
      (resumed running more made failRender other).pipeline.output port := by
  rw [unharmed.pipeline_resumed other]
  rfl

/-- It is ready if it would be without that run. -/
theorem Unharmed.ready_resumed
    (ready : Ready layout graph (resumed left more made failRender clock)) :
    Ready layout graph (resumed running more made failRender other) := by
  obtain ⟨bound, foreign, allowed⟩ := ready
  rw [unharmed.pipeline_resumed other] at bound foreign
  exact ⟨bound, foreign, allowed⟩

/-- Its layout has the same meaning. -/
theorem Unharmed.passes_resumed {way : Passage} {anchor : Anchor} {port : Nat} {text : String}
    (foreign : ∀ texture ∈ (resumed running more made failRender other).pipeline.inputs,
      Foreign running.pipeline texture)
    (h : Passes layout (resumed left more made failRender clock) way anchor port text) :
    Passes layout (resumed running more made failRender other) way anchor port text := by
  have hlabels : labels (resumed left more made failRender clock).pipeline =
      labels (resumed running more made failRender other).pipeline := by
    rw [unharmed.pipeline_resumed other]
    exact labels_rebound rfl unharmed.rebound
  have hgiven : given (resumed left more made failRender clock) =
      given (resumed running more made failRender other) := by
    rw [given, given, unharmed.pipeline_resumed other]
    exact List.map_congr_left fun texture hm => unharmed.contents_mended (foreign texture hm)
  rw [Passes, hlabels, hgiven] at h
  exact h

section Repeating

variable (arranged : Arranged layout graph schedule final)
  (intact : Intact layout graph schedule running) (kept : Intact layout graph schedule left)
include arranged intact kept

/-- If the times of the resumed run can be recorded, so can those of a run without the other before
it that takes the same laps. -/
theorem Unharmed.recordable_resumed
    (furnished : running.pipeline.Furnished TermFilter.inputs graph)
    (equipped : left.pipeline.Furnished TermFilter.inputs graph)
    (ready : Ready layout graph (resumed left more made failRender clock))
    (recordable : Recordable (resumed left more made failRender clock)) :
    Recordable (resumed running more made failRender clock) := by
  intro recorded samples hm hs
  have clean : Ready layout graph (resumed running more made failRender clock) :=
    unharmed.ready_resumed ready
  obtain ⟨times, -, ht, -⟩ := exists_rendered arranged kept.resumed ready
  have hsame : times = samples := by
    rw [kept.resumed.samples_eq { equipped with } (kept.resumed.full ready.bound) ht,
      intact.resumed.samples_eq { furnished with } (intact.resumed.full clean.bound) hs,
      unharmed.pipeline_resumed clock]
    simp only [Memory.times, resumed, Memory.timeOf_mended, unharmed.timer]
  have hmonitor :
      (resumed left more made failRender clock).pipeline.monitor.samples = some recorded := by
    rw [unharmed.pipeline_resumed clock]
    exact hm
  exact hsame ▸ recordable recorded times hmonitor ht

/-- Once the cause is removed, a run after one that did not come to its end gives the outputs that a
run gives without the other before it, at whatever time. -/
theorem Unharmed.repeated (ready : Ready layout graph (resumed left more made failRender clock))
    (recordable : Recordable (resumed left more made failRender clock))
    (accepted : Recordable (resumed running more made failRender other)) :
    (Pipeline.process (resumed running more made failRender other)).result = .ok () ∧
      SameOutputs layout (Pipeline.process (resumed left more made failRender clock)).state
        (Pipeline.process (resumed running more made failRender other)).state := by
  have clean : Ready layout graph (resumed running more made failRender other) :=
    unharmed.ready_resumed ready
  obtain ⟨-, hout⟩ := kept.resumed.process_succeeds arranged ready recordable
  obtain ⟨hclean, hcleanOut⟩ := intact.resumed.process_succeeds arranged clean accepted
  refine ⟨hclean, fun port hp => ?_⟩
  obtain ⟨texture, hstart, houtput, hpass⟩ := hout port hp
  obtain ⟨texture', hstart', houtput', hpass'⟩ := hcleanOut port hp
  obtain rfl : texture = texture' := by
    rw [unharmed.output_resumed other, hstart'] at hstart
    exact (Except.ok.inj hstart).symm
  exact ⟨texture, houtput, houtput', Layout.Denotes.unique arranged.constructed
    (unharmed.passes_resumed clean.foreign hpass) hpass'⟩

end Repeating

end Retrying

end Resuming

/-- A failed run is recoverable.

A run fails because an input is free, and nothing has changed, or because the device refuses a
filter. Then the filters before it in the schedule were rendered and no others, the timer is stopped
again, and of the pipeline nothing has changed but the textures that its filters hold.

In both cases the run can be repeated without resetting the pipeline: once every input has a texture
that is no attachment of the pipeline and the device refuses no filter, it succeeds if recording it
overflows nothing. Each output then has the contents that a run would have given that never failed,
at the same time or at any other at which it could have been recorded. -/
theorem failed_run_recovers (layout : Layout TermDescriptor) (constructed : layout.Constructed)
    (running left : Running memory) (reachable : Reachable layout running) (fault : Fault)
    (failed : (Pipeline.process running).result = .error fault)
    (state : (Pipeline.process running).state = left) (representable : fault ≠ .overflow) :
    Unharmed running left ∧
    ((running.pipeline.inputs.length < running.pipeline.inputCount ∧ left = running ∧
        fault = .error (Cause.tooFewInputs running.pipeline.name running.pipeline.inputCount
          running.pipeline.inputs.length)) ∨
      ∃ done i rest planned, Aborted running fault left done i rest planned) ∧
    ∀ (more : List MemoryTexture) (made : List String) (failRender : Option String)
      (clock : HostClock) retried,
      more.foldlM Pipeline.appendInput left.pipeline = .ok retried →
      retried.inputs.length = layout.inputs.size →
      (∀ texture ∈ retried.inputs, Foreign retried texture) →
      (∀ address spec, layout.at? address = some (.filter spec) →
        failRender ≠ some spec.typeName) →
      Recordable ⟨retried, left.device.mended made failRender clock⟩ →
      ∃ fresh, more.foldlM Pipeline.appendInput running.pipeline = .ok fresh ∧
        (Pipeline.process ⟨retried, left.device.mended made failRender clock⟩).result = .ok () ∧
        ∀ other, other = clock ∨ Recordable ⟨fresh, running.device.mended made failRender other⟩ →
          (Pipeline.process ⟨fresh, running.device.mended made failRender other⟩).result = .ok () ∧
          SameOutputs layout
            (Pipeline.process ⟨retried, left.device.mended made failRender clock⟩).state
            (Pipeline.process ⟨fresh, running.device.mended made failRender other⟩).state := by
  obtain ⟨graph, schedule, planned, intact, furnished⟩ := reachable.exists_furnished constructed
  obtain ⟨final, arranged⟩ := planned.exists_arranged constructed
  obtain ⟨unharmed, cases⟩ := process_fails intact furnished failed representable
  have kept := process_keeps running intact
  have equipped := Pipeline.process_keeps_furnished memory_exact running furnished
  rw [state] at unharmed cases kept equipped
  refine ⟨unharmed, cases, ?_⟩
  intro more made failRender clock retried appended bound foreign allowed recordable
  obtain rfl := eq_of_appendInputs appended
  have ready : Ready layout graph (resumed left more made failRender clock) :=
    arranged.ready bound foreign allowed
  have hfits : running.pipeline.inputs.length + more.length ≤ running.pipeline.inputCount := by
    have clean : Ready layout graph (resumed running more made failRender clock) :=
      unharmed.ready_resumed ready
    have hclean := clean.bound
    rw [resumed, List.length_append] at hclean
    rw [Pipeline.inputCount, intact.origin, hclean]
  refine ⟨_, appendInputs_of_le hfits,
    (kept.resumed.process_succeeds arranged ready recordable).1, fun other accepted => ?_⟩
  have accepts : Recordable (resumed running more made failRender other) := by
    rcases accepted with rfl | accepted
    · exact unharmed.recordable_resumed arranged intact kept furnished equipped ready recordable
    · exact accepted
  exact unharmed.repeated arranged intact kept ready recordable accepts

section Panorama

open Pipeline (barred)

/-- What a run of it leaves: two filters were rendered, and the texture of the first one is still in
the target that the last one would have taken over. -/
def halted : Running memory where
  pipeline := { exposed.pipeline with
    filters := [⟨"Split", none, "rgba8", 16, [some ⟨3, 2⟩], 2⟩,
      ⟨"Blur", some "Soft", "rgba8", 16, [some ⟨4, 3⟩], 1⟩,
      ⟨"Sharpen", none, "rgba8", 16, [some ⟨1, 0⟩], 1⟩] }
  device := { (barred none).device with
    cells := ["Soft(img)", "", "Sharpen(Soft(img))", "img"]
    renders := ["Blur", "Sharpen"]
    timerStops := 3 }

/-- A clock on which each lap takes longer than the one before. -/
def slowing : HostClock := ⟨fun stops => ⟨stops * stops⟩⟩

/-- The repeated run can be recorded. -/
theorem halted_recordable : Recordable ⟨halted.pipeline, halted.device.mended [] none .steady⟩ := by
  have hrun : (Pipeline.renderSchedule ⟨halted.pipeline,
      halted.device.mended [] none .steady⟩).result =
        .ok [⟨1, ⟨1000⟩⟩, ⟨2, ⟨1000⟩⟩, ⟨0, ⟨1000⟩⟩] := by cbv
  exact recordable_of_run rfl hrun ⟨by decide, by decide⟩

/-- So can a run that never failed, at a time when the clock of the host goes slower and slower. -/
theorem barred_recordable :
    Recordable ⟨(barred none).pipeline, (barred none).device.mended [] none slowing⟩ := by
  have hrun : (Pipeline.renderSchedule ⟨(barred none).pipeline,
      (barred none).device.mended [] none slowing⟩).result =
        .ok [⟨1, ⟨1⟩⟩, ⟨2, ⟨3⟩⟩, ⟨0, ⟨5⟩⟩] := by cbv
  exact recordable_of_run rfl hrun ⟨by decide, by decide⟩

/-- When the device no longer refuses the last filter of the panorama, the run that failed after two
filters is repeated and gives what it would have given, also at another time. -/
theorem panorama_recovers : Reachable panorama (barred none) ∧
    (Pipeline.process (barred none)).state = halted ∧ Unharmed (barred none) halted ∧
    (Pipeline.process ⟨halted.pipeline, halted.device.mended [] none .steady⟩).result = .ok () ∧
    SameOutputs panorama
      (Pipeline.process ⟨halted.pipeline, halted.device.mended [] none .steady⟩).state
      (Pipeline.process
        ⟨(barred none).pipeline, (barred none).device.mended [] none slowing⟩).state := by
  have reachable : Reachable panorama (barred none) :=
    exposed_reachable.use (.device (Nat.le_refl _))
  have failed : (Pipeline.process (barred none)).result =
      .error (Pipeline.deviceFault (B := memory) (.renderingFilter "split")
        (.render "Split")) := rfl
  have left : (Pipeline.process (barred none)).state = halted := rfl
  obtain ⟨unharmed, -, repeated⟩ := failed_run_recovers panorama panorama_constructed (barred none)
    halted reachable _ failed left Fault.noConfusion
  have foreign : ∀ texture ∈ halted.pipeline.inputs, Foreign halted.pipeline texture := by
    simp [halted, exposed, labelled, developed, Foreign]
  obtain ⟨fresh, hfresh, hok, same⟩ :=
    repeated [] [] none .steady halted.pipeline rfl rfl foreign
      (fun _ _ _ => (Option.some_ne_none _).symm) halted_recordable
  obtain rfl := Except.ok.inj hfresh
  exact ⟨reachable, left, unharmed, hok, (same slowing (.inr barred_recordable)).2⟩

end Panorama

end RenderGraph.Device
