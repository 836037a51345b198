import RenderGraph.Proofs.Run.InRange

/-!
# What a failed run leaves behind

A run in memory fails at the first filter that the device refuses. The filters
before it have been rendered and no others, the timer is stopped, and of the
pipeline nothing has changed but the textures that its filters hold.
-/

namespace RenderGraph

/-- The name of the type of a planned filter. -/
def Plan.typeOf (plan : Plan) (i : Nat) : String :=
  plan.filters[i]?.elim "" PlannedFilter.typeName

namespace Device

open Schedule (Solution)

/-- A device after the turn of a filter, in which the timer is used only if the run is timed. -/
def Memory.clocked (timed : Bool) (device : Memory) : Memory :=
  if timed then { device with timerArmed := false, timerStops := device.timerStops + 1 } else device

section Clocked

variable (timed : Bool) (device : Memory)

@[simp]
theorem Memory.clocked_cells : (device.clocked timed).cells = device.cells := by
  cases timed <;> rfl

@[simp]
theorem Memory.clocked_timer : (device.clocked timed).timer = device.timer := by
  cases timed <;> rfl

@[simp]
theorem Memory.clocked_host : (device.clocked timed).host = device.host := by
  cases timed <;> rfl

@[simp]
theorem Memory.clocked_failRender : (device.clocked timed).failRender = device.failRender := by
  cases timed <;> rfl

@[simp]
theorem Memory.clocked_renders : (device.clocked timed).renders = device.renders := by
  cases timed <;> rfl

@[simp]
theorem Memory.clocked_timerStops :
    (device.clocked timed).timerStops = device.timerStops + if timed then 1 else 0 := by
  cases timed <;> rfl

@[simp]
theorem Memory.clocked_contents (texture : MemoryTexture) :
    (device.clocked timed).contents texture = device.contents texture := by
  rw [Memory.contents, Memory.contents, Memory.clocked_cells]

end Clocked

/-- The time of a turn that comes after some others. Without a timer it is the lap of the clock. -/
def Memory.timeOf (device : Memory) (turns : Nat) : Duration :=
  device.timer.getD (device.host.lap (device.timerStops + turns))

/-- The times that a run of some filters takes on a device. -/
def Memory.times (timed : Bool) (device : Memory) (order : List Nat) : List Sample :=
  if timed then order.zipIdx.map fun (i, turns) => ⟨i, device.timeOf turns⟩ else []

/-- A turn more is timed after those before it. -/
theorem Memory.times_concat (timed : Bool) (device : Memory) (done : List Nat) (i : Nat) :
    device.times timed (done ++ [i]) = device.times timed done ++
      if timed then [⟨i, device.timeOf done.length⟩] else [] := by
  cases timed <;> simp [Memory.times, List.zipIdx_append]

section Turns

variable {pipeline : Pipeline memory} {index : Nat} {path : String}
  {filter : TermFilter MemoryTexture} {target : TermTarget MemoryTexture}
  {filters : List (TermFilter MemoryTexture)} {device : Memory}

/-- A timer that is armed is still armed when it is stopped, so its reading is taken if there is
one. -/
theorem getD_of_armed (timer : Option Duration) (elapsed : Duration) :
    (if timer.isSome then (if timer.isSome then timer else none).getD elapsed else elapsed) =
      timer.getD elapsed := by
  cases timer <;> rfl

/-- In the turn of a filter that is refused nothing happens but that the timer is used. -/
theorem renderBound_refused (refused : device.failRender = some filter.typeName) :
    (pipeline.renderBound index path filter target ⟨filters, device⟩).result =
        .error (Pipeline.deviceFault (B := memory) (.renderingFilter path)
          (.render filter.typeName)) ∧
      (pipeline.renderBound index path filter target ⟨filters, device⟩).state =
        ⟨filters, device.clocked pipeline.monitor.isEnabled⟩ := by
  have harmed : (Memory.startTimer device).2.failRender = some filter.typeName := refused
  cases he : pipeline.monitor.isEnabled with
  | true =>
    simp only [Pipeline.renderBound, he, if_true, Pipeline.onDevice, Action.zoom,
      Pipeline.renderTimed, Bind.bind, Action.bind, Action.get, Action.attempt, Action.ofExcept,
      Memory.render_refused harmed, Except.mapError, true_and]
    rfl
  | false =>
    simp only [Pipeline.renderBound, he, Bool.false_eq_true, if_false, Pipeline.onDevice,
      Action.zoom, Pipeline.renderUntimed, Bind.bind, Action.bind, Action.mapError,
      Memory.render_refused refused, Except.mapError, true_and]
    rfl

/-- In the turn of a filter that is rendered it is counted, and its time is taken if the run is
timed. -/
theorem renderBound_rendered {samples : List Sample}
    (h : (pipeline.renderBound index path filter target ⟨filters, device⟩).result = .ok samples) :
    samples = device.times pipeline.monitor.isEnabled [index] ∧ ∃ cells,
      (pipeline.renderBound index path filter target ⟨filters, device⟩).state =
        ⟨filters, ({ device with cells, renders := device.renders ++ [filter.typeName] } :
          Memory).clocked pipeline.monitor.isEnabled⟩ := by
  cases he : pipeline.monitor.isEnabled with
  | true =>
    simp only [Pipeline.renderBound, he, if_true, Pipeline.onDevice, Action.zoom,
      Pipeline.renderTimed, Bind.bind, Action.bind, Action.get, Action.attempt,
      Action.ofExcept] at h ⊢
    cases hr : (Memory.render filter target (Memory.startTimer device).2).result with
    | error failure =>
      rw [hr] at h
      cases h
    | ok u =>
      obtain ⟨cells, hc⟩ := Memory.exists_cells_render hr
      rw [hr, hc] at h
      rw [hc]
      obtain rfl := Except.ok.inj h
      refine ⟨?_, cells, rfl⟩
      exact congrArg (fun duration => [(⟨index, duration⟩ : Sample)])
        (getD_of_armed device.timer (device.host.lap device.timerStops))
  | false =>
    simp only [Pipeline.renderBound, he, Bool.false_eq_true, if_false, Pipeline.onDevice,
      Action.zoom, Pipeline.renderUntimed, Bind.bind, Action.bind, Action.mapError] at h ⊢
    cases hr : (Memory.render filter target device).result with
    | error failure =>
      rw [hr] at h
      cases h
    | ok u =>
      obtain ⟨cells, hc⟩ := Memory.exists_cells_render hr
      rw [hr] at h
      refine ⟨(Except.ok.inj h).symm, cells, ?_⟩
      rw [hc]
      rfl

/-- A filter with textures at all inputs that is not refused is rendered: it writes its terms, it is
counted, and its time is taken if the run is timed. -/
theorem renderBound_counted (pipeline : Pipeline memory) (index : Nat) (path : String)
    (filter : TermFilter MemoryTexture) (filters : List (TermFilter MemoryTexture))
    {inputs : List MemoryTexture} (allowed : device.failRender ≠ some filter.typeName)
    (bound : filter.inputs = inputs.map some) (housed : Housed target.attachments device)
    (hl : filter.outputs ≤ target.attachments.length) :
    ∃ after, (pipeline.renderBound index path filter target ⟨filters, device⟩).result =
        .ok (device.times pipeline.monitor.isEnabled [index]) ∧
      (pipeline.renderBound index path filter target ⟨filters, device⟩).state =
        ⟨filters, after⟩ ∧
      Written target.attachments 0 (filter.terms (inputs.map device.contents)) device after ∧
      after.timer = device.timer ∧ after.host = device.host ∧
      after.renders = device.renders ++ [filter.typeName] ∧
      after.timerStops = device.timerStops + if pipeline.monitor.isEnabled then 1 else 0 := by
  obtain ⟨samples, after, hok, -, hafter, hw⟩ :=
    renderBound_written pipeline index path filters allowed bound housed hl
  obtain ⟨rfl, cells, hrendered⟩ := renderBound_rendered hok
  obtain rfl := congrArg Progress.device (hafter.symm.trans hrendered)
  exact ⟨_, hok, hafter, hw, by simp, by simp, by simp, by simp⟩

end Turns

/-- What holds in a run after the turns of some filters. -/
structure Along (start : Running memory) (done : List Nat) (progress : Progress memory) : Prop where
  /-- The filters differ from those at the start in nothing but bound textures. -/
  rebound : List.Forall₂ Rebound start.pipeline.filters progress.filters
  /-- The device refuses the same filters. -/
  failRender : progress.device.failRender = start.device.failRender
  /-- It has the same timer. -/
  timer : progress.device.timer = start.device.timer
  /-- Its host has the same clock. -/
  host : progress.device.host = start.device.host
  /-- It has the same cells. -/
  cells : progress.device.cells.length = start.device.cells.length
  /-- Textures of others are as they were. -/
  untouched : ∀ texture, Foreign start.pipeline texture →
    progress.device.contents texture = start.device.contents texture
  /-- These filters were rendered and no others. -/
  renders : progress.device.renders =
    start.device.renders ++ done.map start.pipeline.plan.typeOf
  /-- If the run is timed, the timer was stopped once for each of them. -/
  timerStops : progress.device.timerStops =
    start.device.timerStops + if start.pipeline.monitor.isEnabled then done.length else 0

section Steps

variable {layout : Layout TermDescriptor} {graph : Flat.Graph TermDescriptor}
  {schedule : Solution String} {start : Running memory}

/-- Before the first turn nothing has changed. -/
theorem Along.initial : Along start [] ⟨start.pipeline.filters, start.device⟩ where
  rebound := List.forall₂_same.mpr fun filter _ => ⟨filter.inputs, rfl, rfl⟩
  failRender := rfl
  timer := rfl
  host := rfl
  cells := rfl
  untouched := fun _ _ => rfl
  renders := (List.append_nil _).symm
  timerStops := by simp

/-- The turn of a filter that is written into a target of the pipeline is counted. -/
theorem Along.counted {done : List Nat} {progress : Progress memory}
    (along : Along start done progress) {filters : List (TermFilter MemoryTexture)}
    (hrebound : List.Forall₂ Rebound start.pipeline.filters filters)
    {target : TermTarget MemoryTexture} (htarget : target ∈ start.pipeline.targets)
    {terms : List String} {after : Memory}
    (hw : Written target.attachments 0 terms progress.device after)
    (htimer : after.timer = progress.device.timer) (hhost : after.host = progress.device.host)
    {i : Nat}
    (hrenders : after.renders = progress.device.renders ++ [start.pipeline.plan.typeOf i])
    (hstops : after.timerStops =
      progress.device.timerStops + if start.pipeline.monitor.isEnabled then 1 else 0) :
    Along start (done ++ [i]) ⟨filters, after⟩ := by
  constructor
  case rebound => exact hrebound
  case failRender => exact hw.failRender.trans along.failRender
  case timer => exact htimer.trans along.timer
  case host => exact hhost.trans along.host
  case cells => exact hw.length.trans along.cells
  case untouched =>
    intro texture hforeign
    refine (hw.kept texture fun k _ attachment ha => ?_).trans (along.untouched texture hforeign)
    exact (hforeign target htarget attachment (List.mem_of_getElem? ha)).symm
  case renders =>
    rw [hrenders, along.renders, List.append_assoc, List.map_append, List.map_singleton]
  case timerStops =>
    rw [hstops, along.timerStops, List.length_append, List.length_singleton]
    split <;> omega

variable (intact : Intact layout graph schedule start)
include intact

/-- A planned filter is of the type of the filter that was created for it. -/
theorem Intact.exists_suited {i : Nat} {planned : PlannedFilter}
    (hplanned : start.pipeline.plan.filters[i]? = some planned) :
    ∃ flat filter, graph.filters[i]? = some flat ∧ start.pipeline.filters[i]? = some filter ∧
      filter.Suits flat.spec ∧ filter.typeName = planned.typeName := by
  obtain ⟨name, hplan⟩ := intact.plan
  rw [hplan] at hplanned
  obtain ⟨flat, hflat, rfl⟩ := Compile.getElem?_planned.mp hplanned
  obtain ⟨filter, hfilter, suits⟩ := getElem?_of_forall₂ intact.manned hflat
  exact ⟨flat, filter, hflat, hfilter, suits, suits.typeName⟩

variable (furnished : start.pipeline.Furnished TermFilter.inputs graph)
  (full : start.pipeline.inputCount ≤ start.pipeline.inputs.length)
include furnished full

/-- In its turn a filter is refused, and nothing happens but that its inputs are bound and the timer
is used, or it is rendered. -/
theorem Along.turn {done : List Nat} {i : Nat} (hi : i ∈ start.pipeline.plan.schedule)
    {progress : Progress memory} (along : Along start done progress) :
    ∃ planned filters, start.pipeline.plan.filters[i]? = some planned ∧
      List.Forall₂ Rebound start.pipeline.filters filters ∧
      ((start.device.failRender = some planned.typeName ∧
        (start.pipeline.renderFilter i progress).result =
          .error (Pipeline.deviceFault (B := memory) (.renderingFilter planned.path)
            (.render planned.typeName)) ∧
        (start.pipeline.renderFilter i progress).state =
          ⟨filters, progress.device.clocked start.pipeline.monitor.isEnabled⟩) ∨
      (start.device.failRender ≠ some planned.typeName ∧
        (start.pipeline.renderFilter i progress).result =
          .ok (if start.pipeline.monitor.isEnabled then
            [⟨i, start.device.timeOf done.length⟩] else []) ∧
        Along start (done ++ [i]) (start.pipeline.renderFilter i progress).state)) := by
  obtain ⟨planned, hplanned⟩ : ∃ planned, start.pipeline.plan.filters[i]? = some planned :=
    ⟨_, List.getElem?_eq_getElem (furnished.bounded.order i hi)⟩
  obtain ⟨flat, original, hflat, horiginal, suits, htype⟩ := intact.exists_suited hplanned
  obtain ⟨flat', target, hflat', htarget, hlength, hroom⟩ := furnished.fitted i planned hplanned
  obtain rfl : flat = flat' := Option.some.inj (hflat.symm.trans hflat')
  obtain ⟨textures, reads⟩ := furnished.exists_textures full hplanned
  have hslots : original.inputs.length = textures.length := by
    rw [suits.inputs, ← hlength, reads.length_eq]
  -- In earlier turns the filter may have been given other textures, and nothing else.
  obtain ⟨-, hnow, inputs, hinputs, rfl⟩ := getElem?_of_forall₂ along.rebound horiginal
  obtain ⟨hresult, hstate⟩ := Pipeline.renderFilter_eq hplanned reads hnow htarget progress.device
  rw [TermFilter.bindAll_eq (hinputs.trans hslots)] at hresult hstate
  have hrebound : List.Forall₂ Rebound start.pipeline.filters
      (progress.filters.set i { original with inputs := textures.map some }) :=
    forall₂_set along.rebound horiginal ⟨_, (List.length_map _).trans hslots.symm, rfl⟩
  refine ⟨planned, _, hplanned, hrebound, ?_⟩
  rw [hresult, hstate, ← htype, ← along.failRender]
  by_cases refused : progress.device.failRender = some original.typeName
  · exact .inl ⟨refused, renderBound_refused refused⟩
  have hmem := List.mem_of_getElem? htarget
  have housed := (intact.housed.of_mem hmem).mono (Nat.le_of_eq along.cells.symm)
  have hroomy : original.outputs ≤ target.attachments.length := suits.outputs ▸ hroom
  obtain ⟨after, hok, hafter, hw, htimer, hhost, hrenders, hstops⟩ :=
    renderBound_counted start.pipeline i
    planned.path { original with inputs := textures.map some }
    (progress.filters.set i { original with inputs := textures.map some }) refused rfl housed hroomy
  have htypeOf : start.pipeline.plan.typeOf i = original.typeName := by
    rw [Plan.typeOf, hplanned, htype]
    rfl
  have htimes : progress.device.times start.pipeline.monitor.isEnabled [i] =
      if start.pipeline.monitor.isEnabled then [⟨i, start.device.timeOf done.length⟩] else [] := by
    have hstart := along.timerStops
    cases he : start.pipeline.monitor.isEnabled with
    | false => rfl
    | true =>
      rw [he, if_pos rfl] at hstart
      simp [Memory.times, Memory.timeOf, along.timer, along.host, hstart]
  rw [hok, hafter, htimes]
  exact .inr ⟨refused, rfl,
    along.counted hrebound hmem hw htimer hhost (htypeOf ▸ hrenders) hstops⟩

/-- All turns that come to an end add up. -/
theorem Along.renderAll (order : List Nat) (ho : ∀ i ∈ order, i ∈ start.pipeline.plan.schedule) :
    (start.pipeline.renderAll order).Ends (Along start [])
      (fun samples progress => Along start order progress ∧
        samples = start.device.times start.pipeline.monitor.isEnabled order)
      fun _ _ => True := by
  have hturns := start.pipeline.renderAll_ends order
    (J := fun done samples progress => Along start done progress ∧
      samples = start.device.times start.pipeline.monitor.isEnabled done)
    (F := fun _ _ => True) fun done samples i hi progress ⟨along, hsamples⟩ => by
      refine ⟨fun more h => ?_, fun _ _ => trivial⟩
      obtain ⟨planned, filters, -, -, ⟨-, hfails, -⟩ | ⟨-, hok, hnext⟩⟩ :=
        along.turn intact furnished full (ho i hi)
      · rw [h] at hfails
        cases hfails
      · rw [Except.ok.inj (h.symm.trans hok), hsamples, ← Memory.times_concat]
        exact ⟨hnext, rfl⟩
  exact fun progress along => hturns [] [] progress ⟨along, by simp [Memory.times]⟩

end Steps

/-- What a run leaves alone that does not come to its end. -/
structure Unharmed (running left : Running memory) : Prop where
  /-- The bound textures, the plan, the targets and what was recorded are unchanged. -/
  pipeline : left.pipeline = { running.pipeline with filters := left.pipeline.filters }
  /-- The filters differ in nothing but the textures that they hold. -/
  rebound : List.Forall₂ Rebound running.pipeline.filters left.pipeline.filters
  /-- The device has the same timer. -/
  timer : left.device.timer = running.device.timer
  /-- It has the same cells. -/
  cells : left.device.cells.length = running.device.cells.length
  /-- Textures of others are as they were. -/
  untouched : ∀ texture, Foreign running.pipeline texture →
    left.device.contents texture = running.device.contents texture

/-- How a run fails in the turn of a filter, and what it leaves. -/
structure Aborted (running : Running memory) (fault : Fault) (left : Running memory)
    (done : List Nat) (i : Nat) (rest : List Nat) (planned : PlannedFilter) : Prop where
  /-- The filter comes after some filters of the schedule and before others. -/
  order : running.pipeline.plan.schedule = done ++ i :: rest
  /-- It is planned. -/
  member : running.pipeline.plan.filters[i]? = some planned
  /-- The device refuses it. -/
  refused : running.device.failRender = some planned.typeName
  /-- The failure names it. -/
  reported : fault = Pipeline.deviceFault (B := memory) (.renderingFilter planned.path)
    (.render planned.typeName)
  /-- Rendering the filters before it is no failure, and the device is left as it is after them, but
  for its timer. -/
  rendered : ∃ samples progress,
    (running.pipeline.renderAll done ⟨running.pipeline.filters, running.device⟩).result =
      .ok samples ∧
    (running.pipeline.renderAll done ⟨running.pipeline.filters, running.device⟩).state = progress ∧
    left.device = progress.device.clocked running.pipeline.monitor.isEnabled
  /-- These filters were rendered in their order and no others. -/
  renders : left.device.renders = running.device.renders ++ done.map running.pipeline.plan.typeOf
  /-- If the run is timed, the timer that is started in each turn was stopped again, in the turn of
  the refused filter as well. -/
  stopped : running.pipeline.monitor.isEnabled = true → left.device.timerArmed = false ∧
    left.device.timerStops = running.device.timerStops + (done.length + 1)

section Failing

variable {layout : Layout TermDescriptor} {graph : Flat.Graph TermDescriptor}
  {schedule : Solution String} {running : Running memory}

/-- A run that fails was refused because an input is free, and nothing has changed, or it failed in
the turn of a filter. -/
theorem process_fails (intact : Intact layout graph schedule running)
    (furnished : running.pipeline.Furnished TermFilter.inputs graph) {fault : Fault}
    (h : (Pipeline.process running).result = .error fault) (hne : fault ≠ .overflow) :
    Unharmed running (Pipeline.process running).state ∧
      ((running.pipeline.inputs.length < running.pipeline.inputCount ∧
        (Pipeline.process running).state = running ∧
        fault = .error (Cause.tooFewInputs running.pipeline.name running.pipeline.inputCount
          running.pipeline.inputs.length)) ∨
      ∃ done i rest planned,
        Aborted running fault (Pipeline.process running).state done i rest planned) := by
  have ending := Pipeline.process_ending running
  generalize (Pipeline.process running).state = left at ending ⊢
  rw [h] at ending
  cases ending with
  | refused few =>
    refine ⟨⟨rfl, ?_, rfl, rfl, fun _ _ => rfl⟩, .inl ⟨few, rfl, rfl⟩⟩
    exact List.forall₂_same.mpr fun filter _ => ⟨filter.inputs, rfl, rfl⟩
  | unrecorded => exact absurd rfl hne
  | @failed _ progress enough hr hp =>
    obtain ⟨done, i, rest, samples, horder, hdone, hturn, hstate⟩ :=
      Pipeline.exists_of_renderAll_error hr
    have hmem : ∀ j ∈ done ++ i :: rest, j ∈ running.pipeline.plan.schedule :=
      fun j hj => horder ▸ hj
    obtain ⟨along, -⟩ := (Along.renderAll intact furnished enough done
      (fun j hj => hmem j (List.mem_append_left (i :: rest) hj)) _ .initial).1 samples hdone
    obtain ⟨planned, filters, hplanned, hrebound, ⟨hrefused, hresult, hleft⟩ | ⟨-, hok, -⟩⟩ :=
      along.turn intact furnished enough (hmem i (List.mem_append_right done List.mem_cons_self))
    · obtain rfl := Except.error.inj (hturn.symm.trans hresult)
      rw [hleft] at hstate
      obtain rfl := hp.symm.trans hstate
      refine ⟨⟨rfl, hrebound, ?_, ?_, ?_⟩, .inr ⟨done, i, rest, planned, horder, hplanned,
        hrefused, rfl, ⟨samples, _, hdone, rfl, rfl⟩, ?_, fun timed => ?_⟩⟩
      · exact (Memory.clocked_timer _ _).trans along.timer
      · exact (congrArg List.length (Memory.clocked_cells _ _)).trans along.cells
      · exact fun texture hf =>
          (Memory.clocked_contents _ _ texture).trans (along.untouched texture hf)
      · exact (Memory.clocked_renders _ _).trans along.renders
      · simp only [Pipeline.after, Memory.clocked, timed, if_true, along.timerStops, true_and]
        rfl
    · rw [hturn] at hok
      cases hok

end Failing

end Device

end RenderGraph
