import RenderGraph.Proofs.Compile.Built
import RenderGraph.Proofs.Run.Calls
import RenderGraph.Proofs.Run.Meaning

/-!
# Running a plan never leads out of range

The pool of a pipeline is the planned one, whatever is called on the pipeline, and
filters keep a slot for each of their inputs. When it is the turn of a filter,
every texture that the plan names is therefore found, and so is a target with
enough attachments. Nothing but the device itself can fail.
-/

namespace RenderGraph

open Compile (Slotted Allotted outputsOf)

variable {B : Backend} {slots : B.Filter → List (Option B.Texture)}

namespace Pipeline

/-- A pipeline has what its plan asks for. -/
structure Furnished (slots : B.Filter → List (Option B.Texture))
    (graph : Flat.Graph B.Descriptor) (pipeline : Pipeline B) : Prop where
  /-- Nothing in the plan leads out of range. -/
  bounded : pipeline.plan.Bounded
  /-- The plan has the inputs of the pipeline. -/
  inputs : pipeline.plan.inputs.length = pipeline.inputCount
  /-- The plan has the outputs of the pipeline. -/
  outputs : pipeline.plan.outputs.length = pipeline.layout.outputs.size
  /-- There is one target for each planned one, of its format and with its attachments. -/
  pool : List.Forall₂ (fun (planned : PlannedTarget) target =>
    planned.format = B.formatText (B.targetFormat target) ∧
      planned.attachments = (B.attachments target).length) pipeline.plan.targets pipeline.targets
  /-- A planned target has as many attachments as its most demanding user has outputs. -/
  greatest : ∀ planned ∈ pipeline.plan.targets,
    IsGreatest { n | ∃ user ∈ planned.users, outputsOf graph user = n } planned.attachments
  /-- Each input of a filter is bound, and each output has an attachment. -/
  fitted : ∀ (i : Nat) planned, pipeline.plan.filters[i]? = some planned → ∃ flat target,
    graph.filters[i]? = some flat ∧ pipeline.targets[planned.target]? = some target ∧
      planned.inputs.length = flat.spec.inputs.size ∧
      flat.spec.outputs.size ≤ (B.attachments target).length
  /-- Each filter has a slot for each of its inputs. -/
  slotted : List.Forall₂ (Slotted slots) graph.filters pipeline.filters
  /-- The monitor knows all filters. -/
  monitored : pipeline.monitor.Sized graph.filters.length

section Building

variable {name : String} {layout : Layout B.Descriptor} {state : B.State}

/-- A pipeline that was just built has what its plan asks for. -/
theorem exists_furnished (exact : B.Exact slots) (constructed : layout.Constructed)
    {pipeline : Pipeline B} (h : (build name layout state).result = .ok pipeline) :
    ∃ graph, Flat.flatten layout = .ok graph ∧ pipeline.Furnished slots graph := by
  obtain ⟨graph, final, schedule, built⟩ := exists_built constructed h
  have hplan := built.plan
  have hl := built.length_filters
  have slotted : List.Forall₂ (Slotted slots) graph.filters pipeline.filters := by
    refine built.created_each.imp fun flat filter hcreated => ?_
    obtain ⟨device, hc⟩ := hcreated
    exact exact.createFilter _ device _ hc
  have allotted := ((Compile.allocateAll_exact hl built.complete built.finished exact _ trivial).1 _
    built.allocated).2
  refine ⟨graph, built.flatten, ?_⟩
  constructor
  case bounded =>
    exact hplan ▸ Compile.plan_bounded constructed built.flattened hl built.complete
      built.finished name
  case inputs =>
    rw [hplan, inputCount, built.layout]
    rfl
  case outputs =>
    have hl : schedule.outputs.length = layout.outputs.size := by
      rw [← built.finished.outputs.length_eq, List.length_zipIdx]
      rfl
    rw [hplan, built.layout]
    exact (List.length_zipWith).trans (Nat.min_eq_left (Nat.le_of_eq hl.symm))
  case pool =>
    rw [hplan]
    refine List.forall₂_map_left_iff.mpr (allotted.imp fun entry target fits => ?_)
    exact ⟨congrArg B.formatText fits.format.symm, fits.attachments.symm⟩
  case greatest =>
    intro planned hm
    rw [hplan] at hm
    obtain ⟨entry, he, rfl⟩ := List.mem_map.mp hm
    have hmem := List.mem_of_getElem? (List.mem_zipIdx_iff_getElem?.mp he)
    exact Compile.isGreatest_attachments hl built.complete built.finished hmem
  case fitted =>
    intro i planned hi
    rw [hplan] at hi
    obtain ⟨flat, target, hflat, htarget, hroom, hlength, -⟩ :=
      Compile.exists_provision constructed built.flattened hl built.complete built.finished name hi
    have hentry : schedule.targets.zipIdx[planned.target]? = some (target, planned.target) := by
      simp [List.getElem?_zipIdx, htarget]
    obtain ⟨found, hfound, fits⟩ := getElem?_of_forall₂ allotted hentry
    exact ⟨flat, found, hflat, hfound, hlength, fits.attachments.symm ▸ hroom⟩
  case slotted => exact slotted
  case monitored =>
    intro recorded h
    rw [built.monitor] at h
    cases h

/-- When the targets are allocated, none of them has another format than the filters that render
into it. -/
theorem checkFormats_of_allocated (exact : B.Exact slots) (constructed : layout.Constructed)
    {graph : Flat.Graph B.Descriptor} {filters : List B.Filter}
    {schedule : Schedule.Solution B.Format} {targets : List B.Target} {before after : B.State}
    (hg : Flat.flatten layout = .ok graph)
    (hf : (graph.filters.mapM Compile.createFilter before).result = .ok filters)
    (hs : ((Compile.problem graph filters).solve layout.outputs).1 = .ok schedule)
    (ht : ((schedule.targets.zipIdx.mapM fun (target, id) => Compile.allocate graph id target)
      after).result = .ok targets) :
    Compile.checkFormats graph filters targets schedule.assignments = .ok () := by
  have hl := Action.length_of_mapM hf
  have wf := Compile.wellFormed constructed (Flat.flattened_of_eq_ok constructed hg) hl
  obtain ⟨final, complete, hfinal⟩ := wf.exists_finish hs
  have finished := Schedule.State.finish_eq_ok hfinal
  have allotted := ((Compile.allocateAll_exact hl complete finished exact _ trivial).1 _ ht).2
  exact Compile.checkFormats_eq_ok exact.matchesFormat complete finished
    (allotted.imp fun _ _ fits => fits.format)

end Building

section Calling

variable {graph : Flat.Graph B.Descriptor}

/-- Filters keep their slots when a texture is bound. -/
theorem slotted_setInput (exact : B.Exact slots) {flats : List (Flat.Filter B.Descriptor)}
    {filters : List B.Filter} (slotted : List.Forall₂ (Slotted slots) flats filters)
    (index port : Nat) (texture : B.Texture) :
    List.Forall₂ (Slotted slots) flats (filters.modify index (B.setInput port texture)) := by
  refine forall₂_modify slotted index fun flat filter hl => ?_
  rw [Slotted, exact.setInput, List.length_set]
  exact hl

/-- They keep them when all textures are unbound. -/
theorem slotted_clearInputs (exact : B.Exact slots) {flats : List (Flat.Filter B.Descriptor)}
    {filters : List B.Filter} (slotted : List.Forall₂ (Slotted slots) flats filters) :
    List.Forall₂ (Slotted slots) flats (filters.map B.clearInputs) := by
  refine List.forall₂_map_right_iff.mpr (slotted.imp fun flat filter hl => ?_)
  rw [Slotted, exact.clearInputs, List.length_map]
  exact hl

/-- A pipeline is still furnished after a run, however the run ends. -/
theorem process_keeps_furnished (exact : B.Exact slots) :
    (process (B := B)).Keeps fun running => running.pipeline.Furnished slots graph := by
  intro running furnished
  refine process_preserves (I := fun running => running.pipeline.Furnished slots graph)
    furnished ?_ ?_
  · exact .of_filters (P := fun filters => Furnished slots graph { running.pipeline with filters })
      fun filters index port _ texture _ hi =>
        { hi with slotted := slotted_setInput exact hi.slotted index port texture }
  · intro samples progress monitor hi hm
    exact { hi with
      slotted := slotted_clearInputs exact hi.slotted
      monitored := furnished.monitored.record hm }

/-- A pipeline is still furnished after any call that leaves the filters their slots. -/
theorem perform_keeps_furnished (exact : B.Exact slots) (call : Call B)
    (tweaks : call.Tweaks fun filter after => (slots after).length = (slots filter).length) :
    call.perform.Keeps fun running => running.pipeline.Furnished slots graph := by
  apply Call.perform_keeps
  case bind => exact fun pipeline _ textures _ furnished => { furnished with }
  case process => exact process_keeps_furnished exact
  case reset =>
    exact fun pipeline _ furnished =>
      { furnished with slotted := slotted_clearInputs exact furnished.slotted }
  case tweak =>
    rintro pipeline _ path change index rfl furnished
    have slotted := forall₂_modify furnished.slotted index fun _ filter hl => (tweaks filter).trans hl
    exact { furnished with slotted }
  case monitor =>
    intro pipeline _ furnished
    have hl : graph.filters.length = pipeline.filters.length := furnished.slotted.length_eq
    exact ⟨{ furnished with monitored := hl ▸ (hl ▸ furnished.monitored).enable },
      { furnished with monitored := nofun }⟩
  case device => exact fun pipeline _ after furnished => furnished

end Calling

/-- A filter is ready for its turn: each of its inputs has the texture that the plan names, and its
target has an attachment for each of its outputs. -/
structure Prepared (slots : B.Filter → List (Option B.Texture)) (graph : Flat.Graph B.Descriptor)
    (pipeline : Pipeline B) (i : Nat) (planned : PlannedFilter) (filter : B.Filter)
    (target : B.Target) : Prop where
  /-- The filter is planned. -/
  member : pipeline.plan.filters[i]? = some planned
  /-- Each slot has the texture of its binding. -/
  bound : ∃ textures, pipeline.Reads planned.inputs textures ∧ slots filter = textures.map some
  /-- The target is that of the plan. -/
  housed : pipeline.targets[planned.target]? = some target
  /-- There is a slot for each input of the filter and an attachment for each output. -/
  fits : ∃ flat, graph.filters[i]? = some flat ∧ (slots filter).length = flat.spec.inputs.size ∧
    flat.spec.outputs.size ≤ (B.attachments target).length

/-- The device when a filter is rendered. In a timed run the timer is armed before. -/
def armed (pipeline : Pipeline B) (device : B.State) : B.State :=
  if pipeline.monitor.isEnabled then (B.startTimer device).2 else device

/-- How the device itself can end the turn of a filter that finds it in some state: it fails to
render the filter or, while the run is timed, to stop the timer after that. -/
inductive DeviceFails (pipeline : Pipeline B) (path : String) (filter : B.Filter)
    (target : B.Target) (device : B.State) : Fault → Prop
  /-- The filter cannot be rendered into its target. -/
  | render {failure : B.Failure} :
    (B.render filter target (pipeline.armed device)).result = .error failure →
    DeviceFails pipeline path filter target device (deviceFault (.renderingFilter path) failure)
  /-- The timer cannot be stopped. -/
  | stopTimer {failure : B.Failure} : pipeline.monitor.isEnabled = true →
    (B.render filter target (pipeline.armed device)).result = .ok () →
    (B.stopTimer (B.render filter target (pipeline.armed device)).state).result = .error failure →
    DeviceFails pipeline path filter target device (deviceFault (.timingFilter path) failure)

section Turns

variable {graph : Flat.Graph B.Descriptor} {pipeline : Pipeline B}

/-- A filter that is bound is rendered, and its time is one of that filter, or the device fails. -/
theorem renderBound_ends (index : Nat) (path : String) (filter : B.Filter) (target : B.Target)
    (progress : Progress B) : (pipeline.renderBound index path filter target).Ends
      (· = progress)
      (fun samples left =>
        left.filters = progress.filters ∧ ∀ sample ∈ samples, sample.filter = index)
      fun fault _ => pipeline.DeviceFails path filter target progress.device fault := by
  rintro state rfl
  simp only [renderBound, onDevice, Action.zoom, true_and]
  cases he : pipeline.monitor.isEnabled with
  | true =>
    have harmed : pipeline.armed state.device = (B.startTimer state.device).2 := if_pos he
    simp only [if_true, renderTimed, Bind.bind, Action.bind, Action.get, Action.attempt,
      Action.ofExcept, Pure.pure, Action.pure]
    cases hr : (B.render filter target (B.startTimer state.device).2).result with
    | error failure => exact Action.ends_of_error (.render (harmed ▸ hr))
    | ok u =>
      simp only [Except.mapError]
      cases hs : (B.stopTimer
          (B.render filter target (B.startTimer state.device).2).state).result with
      | error failure =>
        exact Action.ends_of_error (.stopTimer he (harmed ▸ hr) (harmed ▸ hs))
      | ok measured =>
        refine Action.ends_of_ok fun sample hm => ?_
        rw [List.mem_singleton.mp hm]
  | false =>
    have hunarmed : pipeline.armed state.device = state.device :=
      if_neg (he ▸ Bool.false_ne_true)
    simp only [Bool.false_eq_true, if_false, renderUntimed, Bind.bind, Action.bind,
      Action.mapError, Pure.pure, Action.pure]
    cases hr : (B.render filter target state.device).result with
    | error failure => exact Action.ends_of_error (.render (hunarmed.symm ▸ hr))
    | ok u =>
      exact Action.ends_of_ok fun sample hm => absurd hm List.not_mem_nil

variable (furnished : pipeline.Furnished slots graph)
include furnished

/-- The attachments that the plan names are there. -/
theorem Furnished.exists_attachment {id index : Nat}
    (h : pipeline.plan.Provides (.attachment id index)) :
    ∃ target texture, pipeline.targets[id]? = some target ∧
      (B.attachments target)[index]? = some texture := by
  obtain ⟨planned, hplanned, hlt⟩ := h
  obtain ⟨target, htarget, -, hcount⟩ := getElem?_of_forall₂ furnished.pool hplanned
  exact ⟨target, _, htarget, List.getElem?_eq_getElem (hcount ▸ hlt)⟩

/-- All outputs can be read at any time, and there is one texture for each output of the layout. -/
theorem Furnished.exists_outputs : ∃ textures, pipeline.outputs = .ok textures ∧
    textures.length = pipeline.layout.outputs.size := by
  obtain ⟨textures, hread⟩ : ∃ textures, pipeline.outputs = .ok textures := by
    refine exists_mapM_eq_ok fun output ho => ?_
    obtain ⟨id, index, hbinding, hprovides⟩ := furnished.bounded.outputs output ho
    obtain ⟨target, texture, htarget, htexture⟩ := furnished.exists_attachment hprovides
    exact ⟨texture, by simp only [outputTexture, hbinding, attachment, htarget, Option.bind_some,
      htexture]⟩
  exact ⟨textures, hread, (outputs_eq_ok_iff.mp hread).1.trans furnished.outputs⟩

variable (full : pipeline.inputCount ≤ pipeline.inputs.length)
include full

/-- While all inputs are bound, there is a texture for whatever the plan names. -/
theorem Furnished.exists_texture {binding : Schedule.Binding}
    (h : pipeline.plan.Provides binding) :
    ∃ texture, pipeline.boundTexture binding = .ok texture := by
  cases binding with
  | input port =>
    have hlt : port < pipeline.inputs.length := by
      have hport : port < pipeline.plan.inputs.length := h
      have hinputs := furnished.inputs
      omega
    exact ⟨_, by rw [boundTexture, List.getElem?_eq_getElem hlt]⟩
  | attachment id index =>
    obtain ⟨target, texture, htarget, htexture⟩ := furnished.exists_attachment h
    exact ⟨texture, by simp only [boundTexture, htarget, htexture]⟩

/-- So there is one for each input of a planned filter. -/
theorem Furnished.exists_textures {i : Nat} {planned : PlannedFilter}
    (hplanned : pipeline.plan.filters[i]? = some planned) :
    ∃ textures, pipeline.Reads planned.inputs textures := by
  have hprovides := furnished.bounded.bound planned (List.mem_of_getElem? hplanned)
  exact exists_forall₂_of_forall fun binding hm =>
    furnished.exists_texture full (hprovides binding hm)

/-- The turn of a filter: it is prepared, and nothing remains but to render it. -/
theorem Furnished.exists_prepared (exact : B.Exact slots) {i : Nat}
    (hi : i ∈ pipeline.plan.schedule) {progress : Progress B}
    (slotted : List.Forall₂ (Slotted slots) graph.filters progress.filters) :
    ∃ planned filter target, pipeline.Prepared slots graph i planned filter target ∧
      (pipeline.renderFilter i progress).result =
        (pipeline.renderBound i planned.path filter target
          ⟨progress.filters.set i filter, progress.device⟩).result ∧
      (pipeline.renderFilter i progress).state =
        (pipeline.renderBound i planned.path filter target
          ⟨progress.filters.set i filter, progress.device⟩).state ∧
      List.Forall₂ (Slotted slots) graph.filters (progress.filters.set i filter) := by
  obtain ⟨planned, hplanned⟩ : ∃ planned, pipeline.plan.filters[i]? = some planned :=
    ⟨_, List.getElem?_eq_getElem (furnished.bounded.order i hi)⟩
  obtain ⟨flat, target, hflat, htarget, hlength, hroom⟩ := furnished.fitted i planned hplanned
  obtain ⟨filter, hfilter, hslots⟩ := getElem?_of_forall₂ slotted hflat
  obtain ⟨textures, reads⟩ := furnished.exists_textures full hplanned
  have hcount : (slots filter).length = 0 + textures.length := by
    rw [hslots, ← hlength, reads.length_eq, Nat.zero_add]
  have hbound := exact.slots_bindFrom hcount
  rw [List.take_zero, List.nil_append] at hbound
  have hfits : (slots (B.bindFrom 0 textures filter)).length = flat.spec.inputs.size := by
    rw [hbound, List.length_map, ← hlength, reads.length_eq]
  obtain ⟨hresult, hstate⟩ := renderFilter_eq hplanned reads hfilter htarget progress.device
  exact ⟨planned, B.bindFrom 0 textures filter, target,
    ⟨hplanned, ⟨textures, reads, hbound⟩, htarget, flat, hflat, hfits, hroom⟩,
    hresult, hstate, forall₂_set slotted hflat hfits⟩

/-- Filters are rendered one after another, and their times are of these filters. -/
theorem Furnished.renderAll_ends (exact : B.Exact slots) (order : List Nat)
    (ho : ∀ i ∈ order, i ∈ pipeline.plan.schedule) : (pipeline.renderAll order).Ends
      (fun progress => List.Forall₂ (Slotted slots) graph.filters progress.filters)
      (fun samples progress => List.Forall₂ (Slotted slots) graph.filters progress.filters ∧
        ∀ sample ∈ samples, sample.filter ∈ order)
      fun _ _ => True := by
  have hturns := pipeline.renderAll_ends order
    (J := fun done samples progress =>
      List.Forall₂ (Slotted slots) graph.filters progress.filters ∧
        ∀ sample ∈ samples, sample.filter ∈ done)
    (F := fun _ _ => True)
    fun done samples i hi progress ⟨slotted, hsamples⟩ => by
      obtain ⟨planned, filter, target, -, hresult, hstate, hset⟩ :=
        furnished.exists_prepared full exact (ho i hi) slotted
      rw [hresult, hstate]
      refine ⟨fun more h => ?_, fun _ _ => trivial⟩
      obtain ⟨hfilters, hmore⟩ := (renderBound_ends i planned.path filter target _ _ rfl).1 more h
      refine ⟨hfilters ▸ hset, fun sample hm => ?_⟩
      rcases List.mem_append.mp hm with hm | hm
      · exact List.mem_append_left [i] (hsamples sample hm)
      · exact List.mem_append_right done (List.mem_singleton.mpr (hmore sample hm))
  exact fun progress slotted => hturns [] [] progress ⟨slotted, by simp⟩

/-- After the turns before it a filter is prepared. -/
theorem Furnished.exists_turn (exact : B.Exact slots) {done rest : List Nat} {i : Nat}
    (ho : pipeline.plan.schedule = done ++ i :: rest) {start : Progress B}
    (slotted : List.Forall₂ (Slotted slots) graph.filters start.filters) {samples : List Sample}
    (hok : (pipeline.renderAll done start).result = .ok samples) :
    ∃ planned filter target, pipeline.Prepared slots graph i planned filter target ∧
      (pipeline.renderFilter i (pipeline.renderAll done start).state).result =
        (pipeline.renderBound i planned.path filter target
          ⟨(pipeline.renderAll done start).state.filters.set i filter,
            (pipeline.renderAll done start).state.device⟩).result ∧
      (pipeline.renderFilter i (pipeline.renderAll done start).state).state =
        (pipeline.renderBound i planned.path filter target
          ⟨(pipeline.renderAll done start).state.filters.set i filter,
            (pipeline.renderAll done start).state.device⟩).state := by
  have hmem : ∀ j ∈ done ++ i :: rest, j ∈ pipeline.plan.schedule := fun j hj => ho ▸ hj
  have hdone := fun j hj => hmem j (List.mem_append_left (i :: rest) hj)
  have kept := ((furnished.renderAll_ends full exact done hdone start slotted).1 samples hok).1
  obtain ⟨planned, filter, target, prepared, hresult, hstate, -⟩ :=
    furnished.exists_prepared full exact
      (hmem i (List.mem_append_right done List.mem_cons_self)) kept
  exact ⟨planned, filter, target, prepared, hresult, hstate⟩

/-- If not all filters can be rendered, the device fails in the turn of one that is prepared, in the
state in which the turns before it left the device. -/
theorem Furnished.exists_failure (exact : B.Exact slots) {start : Progress B}
    (slotted : List.Forall₂ (Slotted slots) graph.filters start.filters) {fault : Fault}
    (h : (pipeline.renderAll pipeline.plan.schedule start).result = .error fault) :
    ∃ done i rest samples planned filter target, pipeline.plan.schedule = done ++ i :: rest ∧
      (pipeline.renderAll done start).result = .ok samples ∧
      pipeline.Prepared slots graph i planned filter target ∧
      pipeline.DeviceFails planned.path filter target
        (pipeline.renderAll done start).state.device fault ∧
      (pipeline.renderAll pipeline.plan.schedule start).state =
        (pipeline.renderBound i planned.path filter target
          ⟨(pipeline.renderAll done start).state.filters.set i filter,
            (pipeline.renderAll done start).state.device⟩).state := by
  obtain ⟨done, i, rest, samples, ho, hok, hi, hleft⟩ := exists_of_renderAll_error h
  obtain ⟨planned, filter, target, prepared, hresult, hstate⟩ :=
    furnished.exists_turn full exact ho slotted hok
  have fails := (renderBound_ends i planned.path filter target _ _ rfl).2 fault (hresult ▸ hi)
  exact ⟨done, i, rest, samples, planned, filter, target, ho, hok, prepared, fails,
    hleft.trans hstate⟩

end Turns

/-- How a run ends that stays in range, and what it leaves of the pipeline and the device. -/
inductive EndsInRange (slots : B.Filter → List (Option B.Texture))
    (graph : Flat.Graph B.Descriptor) (running : Running B) : Running B → Except Fault Unit → Prop
  /-- All filters of the schedule have had their turns. Their times are recorded, and all textures
  are unbound. -/
  | completed {samples : List Sample} {progress : Progress B} {monitor : Monitor} :
    (running.pipeline.renderAll running.pipeline.plan.schedule
      ⟨running.pipeline.filters, running.device⟩).result = .ok samples →
    (running.pipeline.renderAll running.pipeline.plan.schedule
      ⟨running.pipeline.filters, running.device⟩).state = progress →
    running.pipeline.monitor.record? samples = some monitor →
    EndsInRange slots graph running
      ⟨reset { (after running progress).pipeline with monitor }, progress.device⟩ (.ok ())
  /-- In the turn of a prepared filter, after the turns before it, the device fails. -/
  | failed {done rest : List Nat} {i : Nat} {samples : List Sample} {progress : Progress B}
      {planned : PlannedFilter} {filter : B.Filter} {target : B.Target} {fault : Fault} :
    running.pipeline.plan.schedule = done ++ i :: rest →
    (running.pipeline.renderAll done ⟨running.pipeline.filters, running.device⟩).result =
      .ok samples →
    (running.pipeline.renderAll done ⟨running.pipeline.filters, running.device⟩).state = progress →
    running.pipeline.Prepared slots graph i planned filter target →
    running.pipeline.DeviceFails planned.path filter target progress.device fault →
    EndsInRange slots graph running
      (after running (running.pipeline.renderBound i planned.path filter target
        ⟨progress.filters.set i filter, progress.device⟩).state) (.error fault)

/-- A run of a pipeline stays in range. -/
structure StaysInRange (slots : B.Filter → List (Option B.Texture))
    (graph : Flat.Graph B.Descriptor) (running : Running B) : Prop where
  /-- When it is the turn of a filter, all its inputs get their textures, and nothing remains but to
  render it into its target. -/
  turns : ∀ done i rest samples progress, running.pipeline.plan.schedule = done ++ i :: rest →
    (running.pipeline.renderAll done ⟨running.pipeline.filters, running.device⟩).result =
      .ok samples →
    (running.pipeline.renderAll done ⟨running.pipeline.filters, running.device⟩).state = progress →
    ∃ planned filter target, running.pipeline.Prepared slots graph i planned filter target ∧
      (running.pipeline.renderFilter i progress).result =
        (running.pipeline.renderBound i planned.path filter target
          ⟨progress.filters.set i filter, progress.device⟩).result ∧
      (running.pipeline.renderFilter i progress).state =
        (running.pipeline.renderBound i planned.path filter target
          ⟨progress.filters.set i filter, progress.device⟩).state
  /-- The run consists of these turns: it ends after the last one of the schedule, or the device
  fails in one of them. -/
  ends : EndsInRange slots graph running (process running).state (process running).result

section Runs

variable {graph : Flat.Graph B.Descriptor}

/-- With a texture for every input, a run of a furnished pipeline stays in range if it can be
recorded. -/
theorem Furnished.staysInRange {running : Running B}
    (furnished : running.pipeline.Furnished slots graph) (exact : B.Exact slots)
    (full : running.pipeline.inputCount ≤ running.pipeline.inputs.length)
    (recordable : ∀ recorded samples, running.pipeline.monitor.samples = some recorded →
      (renderSchedule running).result = .ok samples → recorded.Accepts samples) :
    StaysInRange slots graph running := by
  constructor
  case turns =>
    rintro done i rest samples - ho hok rfl
    exact furnished.exists_turn full exact ho furnished.slotted hok
  case ends =>
    obtain ⟨hok, -⟩ := furnished.renderAll_ends full exact running.pipeline.plan.schedule
      (fun _ hi => hi) ⟨running.pipeline.filters, running.device⟩ furnished.slotted
    have ending := process_ending running
    generalize (process running).state = left at ending ⊢
    generalize (process running).result = result at ending ⊢
    cases ending with
    | refused few => omega
    | failed _ hr hp =>
      obtain ⟨done, i, rest, samples, planned, filter, target, ho, hdone, prepared, fails, hleft⟩ :=
        furnished.exists_failure full exact furnished.slotted hr
      rw [← hp, hleft]
      exact .failed ho hdone rfl prepared fails
    | @unrecorded samples _ _ hr _ hm =>
      obtain ⟨-, hsamples⟩ := hok samples hr
      have known : ∀ sample ∈ samples, sample.filter < graph.filters.length := by
        intro sample hs
        obtain ⟨flat, -, hflat, -⟩ := furnished.fitted sample.filter _
          (List.getElem?_eq_getElem (furnished.bounded.order _ (hsamples sample hs)))
        exact (List.getElem?_eq_some_iff.mp hflat).1
      obtain ⟨after, hafter⟩ := furnished.monitored.exists_record
        (fun recorded hrecorded => recordable recorded _ hrecorded hr) known
      rw [hm] at hafter
      cases hafter
    | completed _ hr hp hm => exact .completed hr hp hm

/-- The pool that is allocated is the planned one, and running the plan never leads out of range.

On a device that does exactly what it is told, no build fails because a target has another format
than its filters. A pipeline that was built has one target for each planned one, with as many
attachments as its most demanding user has outputs, and whatever the plan names is there. So it is
after any calls that leave the filters their slots, and then all outputs can be read. If every input
then has a texture and recording the run overflows nothing, the run gives the filters of the
schedule their turns, one after another. In its turn a filter gets a texture for every input before
it is rendered, and the run comes to its end unless the device fails, in the turn of a filter, to
render the filter or to stop the timer. -/
theorem pool_in_range (exact : B.Exact slots) (layout : Layout B.Descriptor)
    (constructed : layout.Constructed) :
    (∀ graph filters schedule targets before after, Flat.flatten layout = .ok graph →
      (graph.filters.mapM Compile.createFilter before).result = .ok filters →
      ((Compile.problem graph filters).solve layout.outputs).1 = .ok schedule →
      ((schedule.targets.zipIdx.mapM fun (target, id) => Compile.allocate graph id target)
        after).result = .ok targets →
      Compile.checkFormats graph filters targets schedule.assignments = .ok ()) ∧
    ∀ name state pipeline, (build name layout state).result = .ok pipeline →
      ∃ graph, Flat.flatten layout = .ok graph ∧ ∀ calls : List (Call B),
        (∀ call ∈ calls, call.Tweaks fun filter after =>
          (slots after).length = (slots filter).length) →
        ∀ running, Call.performAll calls ⟨pipeline, (build name layout state).state⟩ = running →
          running.pipeline.Furnished slots graph ∧
          (∃ textures, running.pipeline.outputs = .ok textures ∧
            textures.length = running.pipeline.layout.outputs.size) ∧
          (running.pipeline.inputs.length = running.pipeline.inputCount →
            (∀ recorded samples, running.pipeline.monitor.samples = some recorded →
              (renderSchedule running).result = .ok samples → recorded.Accepts samples) →
            StaysInRange slots graph running) := by
  refine ⟨fun graph filters schedule targets before after hg hf hs ht =>
    checkFormats_of_allocated exact constructed hg hf hs ht, fun name state pipeline h => ?_⟩
  obtain ⟨graph, hg, furnished⟩ := exists_furnished exact constructed h
  refine ⟨graph, hg, fun calls tweaks running hr => ?_⟩
  have kept : running.pipeline.Furnished slots graph := hr ▸ performAll_keeps
    (fun call hm => perform_keeps_furnished exact call (tweaks call hm)) furnished
  exact ⟨kept, kept.exists_outputs, fun full recordable =>
    kept.staysInRange exact full.ge recordable⟩

end Runs

section Panorama

open Device (memory Memory TermFilter panorama panorama_constructed developed developed_built
  exposed exposed_recordable)

/-- The panorama on a device that refuses the filter with two outputs, the last one in the
schedule. -/
def barred (timer : Option Duration) : Running memory where
  pipeline := exposed.pipeline
  device := { exposed.device with timer, failRender := some "Split" }

/-- Its run fails, so there is nothing to record. -/
theorem barred_fails (timer : Option Duration) : (renderSchedule (barred timer)).result =
    .error (deviceFault (B := memory) (.renderingFilter "split") (.render "Split")) :=
  rfl

/-- The calls that lead there from the pipeline that was built, on a given device. -/
def prepared (device : Memory) : List (Call memory) :=
  [.useDevice device, .tweak "darkroom::blur" fun filter => { filter with label := some "Soft" },
    .enableMonitoring, .appendInput ⟨4, 3⟩]

/-- The device in memory and the GPU do what they are told. The panorama stays in range when it is
run with a texture for its input, and also when the device refuses its last filter. -/
theorem panorama_in_range : memory.Exact TermFilter.inputs ∧ Gpu.backend.Exact Gpu.Filter.inputs ∧
    ∃ graph, Flat.flatten panorama = .ok graph ∧
      developed.Furnished TermFilter.inputs graph ∧
      StaysInRange TermFilter.inputs graph exposed ∧
      StaysInRange TermFilter.inputs graph (barred none) := by
  have hpool := pool_in_range Device.memory_exact panorama panorama_constructed
  obtain ⟨graph, hg, hcalls⟩ := hpool.2 "panorama" _ developed developed_built
  have htweaks (device : Memory) : ∀ call ∈ prepared device, call.Tweaks
      fun filter after : TermFilter Device.MemoryTexture =>
        after.inputs.length = filter.inputs.length := by
    simp [prepared, Call.Tweaks]
  have hexposed := hcalls (prepared exposed.device) (htweaks _) exposed rfl
  have hbarred := hcalls (prepared (barred none).device) (htweaks _) (barred none) rfl
  refine ⟨Device.memory_exact, Gpu.backend_exact, graph, hg, (hcalls [] (by simp) _ rfl).1,
    hexposed.2.2 rfl exposed_recordable, hbarred.2.2 rfl ?_⟩
  intro recorded samples _ hs
  rw [barred_fails] at hs
  cases hs

end Panorama

end Pipeline

end RenderGraph
