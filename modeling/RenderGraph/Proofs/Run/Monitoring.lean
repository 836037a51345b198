import RenderGraph.Proofs.Compile.Built
import RenderGraph.Proofs.Monitor
import RenderGraph.Proofs.Run.Inputs

/-!
# What the monitor accounts for

While monitoring is on, the monitor holds three things about the runs that were
completed since it was switched on: how many there are, what the timer showed for
each filter in the last of them, and the sum of that over all of them. Calls that
fail or release the inputs leave all of this alone.
-/

namespace RenderGraph

variable {B : Backend}

/-- While a property holds of the device, it has a timer, and the timer shows something when it is
stopped after a filter was rendered. Rendering and timing keep the property. -/
structure Backend.Timed (B : Backend) (Timing : B.State → Prop) : Prop where
  /-- The timer can be armed. -/
  starts : ∀ device, Timing device → (B.startTimer device).1 = true
  /-- It shows a duration when it is stopped. -/
  measures : ∀ filter target device, Timing device → ∃ duration,
    (B.stopTimer (B.render filter target (B.startTimer device).2).state).result =
      .ok (some duration)
  /-- Arming the timer keeps the property. -/
  armed : ∀ device, Timing device → Timing (B.startTimer device).2
  /-- So does rendering, also where it fails. -/
  rendered : ∀ filter target, (B.render filter target).Keeps Timing
  /-- So does stopping the timer. -/
  stopped : B.stopTimer.Keeps Timing

/-- What the timer shows when it is stopped after a filter was rendered. -/
def Backend.reading (B : Backend) (filter : B.Filter) (target : B.Target) (device : B.State) :
    Option Duration :=
  match (B.stopTimer (B.render filter target (B.startTimer device).2).state).result with
  | .ok shown => shown
  | .error _ => none

namespace Pipeline

/-- What the timer shows in the turn of a filter. -/
def reading (pipeline : Pipeline B) (i : Nat) (progress : Progress B) : Option Duration := do
  let planned ← pipeline.plan.filters[i]?
  let bound := (pipeline.bindInputs i planned.inputs progress).state
  let filter ← bound.filters[i]?
  let target ← pipeline.targets[planned.target]?
  B.reading filter target bound.device

/-- What it shows in the turns of several filters, one after another. -/
def readings (pipeline : Pipeline B) : List Nat → Progress B → List Sample
  | [], _ => []
  | i :: rest, progress =>
    (pipeline.reading i progress).toList.map (fun duration => ⟨i, duration⟩) ++
      pipeline.readings rest (pipeline.renderFilter i progress).state

end Pipeline

namespace Running

/-- What the timer shows in a run that begins in this state. -/
def readings (running : Running B) : List Sample :=
  running.pipeline.readings running.pipeline.plan.schedule
    ⟨running.pipeline.filters, running.device⟩

/-- What it shows for one filter. -/
def measurement (running : Running B) (i : Nat) : Duration :=
  durationIn running.readings i

end Running

section Turns

variable {Timing : B.State → Prop} {pipeline : Pipeline B}

/-- A device with a timer keeps it while filters are rendered. -/
theorem Backend.Timed.withstands (timed : B.Timed Timing) (pipeline : Pipeline B) :
    pipeline.Withstands fun progress => Timing progress.device where
  setInput := fun _ _ _ _ _ _ _ h => h
  render := fun _ filter target _ => timed.rendered filter target
  startTimer := fun _ device => timed.armed device
  stopTimer := fun _ => timed.stopped

/-- A filter that is rendered while its time is taken takes what the timer shows. -/
theorem Backend.Timed.samples_of_renderTimed (timed : B.Timed Timing) {i : Nat} {path : String}
    {filter : B.Filter} {target : B.Target} {device : B.State} {samples : List Sample}
    (ht : Timing device)
    (h : (Pipeline.renderTimed i path filter target device).result = .ok samples) :
    ∃ duration, B.reading filter target device = some duration ∧ samples = [⟨i, duration⟩] := by
  obtain ⟨duration, hd⟩ := timed.measures filter target device ht
  have harmed := timed.starts device ht
  refine ⟨duration, by rw [Backend.reading, hd], ?_⟩
  simp only [Pipeline.renderTimed, Bind.bind, Action.bind, Action.get, Action.attempt,
    Action.ofExcept, Pure.pure, Action.pure, hd, harmed] at h
  cases hr : (B.render filter target (B.startTimer device).2).result with
  | error failure => simp [hr, Except.mapError] at h
  | ok rendered => simpa [hr, Except.mapError, eq_comm] using h

/-- The sample of a turn that comes to an end is what the timer shows. -/
theorem Backend.Timed.samples_of_renderFilter (timed : B.Timed Timing) {i : Nat}
    {progress : Progress B} {samples : List Sample} (on : pipeline.monitor.isEnabled = true)
    (ht : Timing progress.device)
    (h : (pipeline.renderFilter i progress).result = .ok samples) :
    ∃ duration, pipeline.reading i progress = some duration ∧ samples = [⟨i, duration⟩] := by
  have hbound := (timed.withstands pipeline).bindInputs i
  rw [Pipeline.renderFilter] at h
  rw [Pipeline.reading]
  cases hp : pipeline.plan.filters[i]? with
  | none =>
    rw [hp] at h
    cases h
  | some planned =>
    rw [hp] at h
    obtain ⟨⟨⟩, hb, h⟩ := Action.bind_eq_ok_iff.mp h
    have hdevice := hbound planned.inputs progress ht
    simp only [Option.bind_eq_bind, Option.bind_some]
    generalize (pipeline.bindInputs i planned.inputs progress).state = bound at h hdevice ⊢
    simp only [Bind.bind, Action.bind, Action.report, Action.get] at h
    cases hf : bound.filters[i]? with
    | none =>
      simp only [hf] at h
      cases h
    | some filter =>
      cases htarget : pipeline.targets[planned.target]? with
      | none =>
        simp only [hf, htarget] at h
        cases h
      | some target =>
        simp only [hf, htarget, on, if_true] at h
        simp only [Option.bind_some]
        exact timed.samples_of_renderTimed hdevice h

/-- The samples of a run that comes to an end are what the timer shows. -/
theorem Backend.Timed.samples_of_renderAll (timed : B.Timed Timing) (order : List Nat)
    {progress : Progress B} {samples : List Sample} (on : pipeline.monitor.isEnabled = true)
    (ht : Timing progress.device)
    (h : (pipeline.renderAll order progress).result = .ok samples) :
    samples = pipeline.readings order progress ∧ samples.map Sample.filter = order := by
  induction order generalizing progress samples with
  | nil =>
    obtain rfl := Except.ok.inj h
    exact ⟨rfl, rfl⟩
  | cons i rest ih =>
    rw [Pipeline.renderAll] at h
    obtain ⟨first, hi, h⟩ := Action.bind_eq_ok_iff.mp h
    obtain ⟨more, hrest, h⟩ := Action.bind_eq_ok_iff.mp h
    obtain rfl := Except.ok.inj h
    obtain ⟨duration, hreading, rfl⟩ := timed.samples_of_renderFilter on ht hi
    have hdevice := (timed.withstands pipeline).renderFilter i progress ht
    obtain ⟨rfl, horder⟩ := ih hdevice hrest
    rw [Pipeline.readings, hreading]
    exact ⟨rfl, by rw [List.map_append, horder]; rfl⟩

end Turns

/-- The samples tell of these runs of so many filters. -/
structure Samples.Recorded (filters : Nat) (runs : List (Running B)) (samples : Samples) :
    Prop where
  /-- The runs are counted. -/
  count : samples.runs = runs.length
  /-- The times are those of the last run. -/
  last : samples.last = (List.range filters).map fun i =>
    runs.getLast?.elim .zero fun run => run.measurement i
  /-- The sums are those of all runs. -/
  sum : samples.sum = (List.range filters).map fun i =>
    ⟨(runs.map fun run => (run.measurement i).nanoseconds).sum⟩

namespace Samples.Recorded

variable {filters : Nat} {runs : List (Running B)} {samples recorded : Samples}

/-- Samples of no run tell of no run. -/
theorem none (filters : Nat) : (Samples.none filters).Recorded filters ([] : List (Running B)) :=
  ⟨rfl, by simp [Samples.none], by simp [Samples.none, Duration.zero]⟩

/-- There is a time and a sum for each filter. -/
theorem sized (h : samples.Recorded filters runs) : samples.Sized filters :=
  ⟨by simp [h.last], by simp [h.sum]⟩

/-- Recording one more run tells of it, too. -/
theorem concat (h : samples.Recorded filters runs) {run : Running B}
    (hp : (run.readings.map Sample.filter).Perm (List.range filters))
    (hr : samples.record? run.readings = some recorded) :
    recorded.Recorded filters (runs ++ [run]) := by
  obtain ⟨hruns, hlast, hsum⟩ := record?_eq h.sized hp hr
  constructor
  case count => rw [hruns, h.count, List.length_append, List.length_singleton]
  case last =>
    rw [hlast, List.getLast?_concat]
    rfl
  case sum =>
    refine List.ext_getElem? fun i => (hsum i).trans ?_
    by_cases hi : i < filters <;> simp [h.sum, hi, Running.measurement]

end Samples.Recorded

namespace Call

/-- What a call does to the list of the runs that were completed since monitoring was switched on.
There is no such list while it is off. -/
def monitored (call : Call B) (running : Running B) (session : Option (List (Running B))) :
    Option (List (Running B)) :=
  match call with
  | enableMonitoring => some (session.getD [])
  | disableMonitoring => none
  | call =>
    if call.isRun && (call.perform running).result.isOk then session.map (· ++ [running])
    else session

/-- A run is added to the list if it succeeds. -/
theorem monitored_of_isRun {call : Call B} (h : call.isRun = true) (running : Running B)
    (session : Option (List (Running B))) : call.monitored running session =
      if (call.perform running).result.isOk then session.map (· ++ [running]) else session := by
  cases call with
  | process => simp [monitored, isRun]
  | run command =>
    cases command with
    | process => simp [monitored, isRun]
    | reset => cases h
  | _ => cases h

/-- Calls that neither run the pipeline nor switch monitoring leave the list alone. -/
theorem monitored_of_other {call : Call B} (hr : call.isRun = false)
    (he : call ≠ .enableMonitoring) (hd : call ≠ .disableMonitoring) (running : Running B)
    (session : Option (List (Running B))) : call.monitored running session = session := by
  cases call <;> simp_all [monitored]

/-- The runs, each given by the state in which it began, that were completed since monitoring was
last switched on by one of these calls or before. -/
def session : List (Call B) → Running B → Option (List (Running B)) → Option (List (Running B))
  | [], _, runs => runs
  | call :: rest, running, runs =>
    session rest (call.perform running).state (call.monitored running runs)

/-- A call that changes nothing of what the monitor holds: a reset, a run that fails, or switching
monitoring on while it is on. -/
def Idle (call : Call B) (running : Running B) : Prop :=
  call = .reset ∨ call = .run .reset ∨
    (call = .enableMonitoring ∧ running.pipeline.monitor.isEnabled = true) ∨
    (call.isRun = true ∧ call.Fails running)

end Call

section Steps

/-- A run records its samples if it succeeds, and leaves the monitor alone if it fails. -/
theorem Pipeline.process_monitor (running : Running B) :
    ((process running).result = .ok () ∧ ∃ samples,
      (running.pipeline.renderAll running.pipeline.plan.schedule
        ⟨running.pipeline.filters, running.device⟩).result = .ok samples ∧
      running.pipeline.monitor.record? samples = some (process running).state.pipeline.monitor) ∨
    ∃ fault, (process running).result = .error fault ∧
      (process running).state.pipeline.monitor = running.pipeline.monitor := by
  have ending := process_ending running
  generalize (process running).state = left at ending ⊢
  generalize (process running).result = result at ending ⊢
  cases ending with
  | refused _ => exact .inr ⟨_, rfl, rfl⟩
  | failed _ _ _ => exact .inr ⟨_, rfl, rfl⟩
  | unrecorded _ _ _ _ => exact .inr ⟨_, rfl, rfl⟩
  | completed _ hr _ hm => exact .inl ⟨rfl, _, hr, hm⟩

/-- Calls that neither run the pipeline nor switch monitoring leave the monitor alone. -/
theorem Call.monitor_perform {call : Call B} {running : Running B} (hr : call.isRun = false)
    (he : call ≠ .enableMonitoring) (hd : call ≠ .disableMonitoring) :
    (call.perform running).state.pipeline.monitor = running.pipeline.monitor := by
  have keeps : ∀ f : Pipeline B → Except Error (Pipeline B),
      (∀ pipeline next, f pipeline = .ok next → next.monitor = pipeline.monitor) →
      (Pipeline.change f running).state.pipeline.monitor = running.pipeline.monitor := by
    intro f hf
    refine Pipeline.change_keeps (I := fun left =>
      left.pipeline.monitor = running.pipeline.monitor) ?_ running rfl
    exact fun pipeline next _ hn hi => (hf pipeline next hn).trans hi
  cases call with
  | appendInput texture =>
    refine keeps _ fun pipeline next hn => ?_
    obtain ⟨-, rfl⟩ := Pipeline.appendInput_eq_ok_iff.mp hn
    rfl
  | appendOutputsOf provider =>
    refine keeps _ fun pipeline next hn => ?_
    obtain ⟨textures, -, -, rfl⟩ := Pipeline.appendOutputsOf_eq_ok_iff.mp hn
    rfl
  | tweak path change =>
    refine keeps _ fun pipeline next hn => ?_
    obtain ⟨index, rfl⟩ := Pipeline.exists_of_modifyFilter hn
    rfl
  | process => cases hr
  | reset => rfl
  | run command =>
    cases command with
    | process => cases hr
    | reset => rfl
  | enableMonitoring => exact absurd rfl he
  | disableMonitoring => exact absurd rfl hd
  | useDevice after => rfl

/-- An idle call leaves the monitor alone. -/
theorem Call.Idle.monitor {call : Call B} {running : Running B} (h : call.Idle running) :
    (call.perform running).state.pipeline.monitor = running.pipeline.monitor := by
  rcases h with rfl | rfl | ⟨rfl, hon⟩ | ⟨hr, fault, hf⟩
  · exact Call.monitor_perform rfl nofun nofun
  · exact Call.monitor_perform rfl nofun nofun
  · obtain ⟨samples, hs⟩ := Option.isSome_iff_exists.mp hon
    have hsame : running.pipeline.monitor.enable running.pipeline.filters.length =
        running.pipeline.monitor := by
      rw [Monitor.enable, hs, Option.getD_some, ← hs]
    exact hsame
  · rw [Call.perform_of_isRun hr] at hf ⊢
    rcases Pipeline.process_monitor running with ⟨hok, -⟩ | ⟨_, -, hsame⟩
    · rw [hok] at hf
      cases hf
    · exact hsame

/-- Calls change neither the plan nor the number of filters. -/
theorem Call.perform_keeps_plan (call : Call B) (plan : Plan) (filters : Nat) :
    call.perform.Keeps fun running =>
      running.pipeline.plan = plan ∧ running.pipeline.filters.length = filters := by
  apply Call.perform_keeps
  case bind => exact fun pipeline _ textures _ h => h
  case process =>
    intro running h
    refine Pipeline.process_preserves (I := fun running =>
      running.pipeline.plan = plan ∧ running.pipeline.filters.length = filters) h ?_ ?_
    · refine .of_filters (P := fun found => running.pipeline.plan = plan ∧ found.length = filters) ?_
      intro found index port _ texture _ hi
      exact ⟨hi.1, (List.length_modify ..).trans hi.2⟩
    · exact fun samples progress monitor hi _ => ⟨hi.1, (List.length_map _).trans hi.2⟩
  case reset => exact fun pipeline _ h => ⟨h.1, (List.length_map _).trans h.2⟩
  case tweak =>
    exact fun pipeline _ path change index _ h => ⟨h.1, (List.length_modify ..).trans h.2⟩
  case monitor => exact fun pipeline _ h => ⟨h, h⟩
  case device => exact fun pipeline _ after h => h

variable {Timing : B.State → Prop}

/-- A device with a timer keeps it through all calls that do not put another device in its place. -/
theorem Backend.Timed.perform_keeps (timed : B.Timed Timing) (call : Call B)
    (device : ∀ after, call = .useDevice after → Timing after) :
    call.perform.Keeps fun running => Timing running.device := by
  intro running h
  by_cases hr : call.isRun = true
  · rw [Call.perform_of_isRun hr]
    exact Pipeline.process_preserves (I := fun running => Timing running.device) h
      (timed.withstands running.pipeline) fun _ _ _ hi _ => hi
  by_cases on : call.OnPipeline
  · rw [Call.device_perform on (Bool.eq_false_of_not_eq_true hr)]
    exact h
  · cases call with
    | useDevice after => exact device after rfl
    | _ => exact absurd trivial on

end Steps

section Accounts

/-- The monitor of a pipeline tells of the runs that were completed since it was switched on, and
the pipeline still has its plan, its filters and a device with a timer. -/
structure Running.Accounted (Timing : B.State → Prop) (plan : Plan) (filters : Nat)
    (running : Running B) (session : Option (List (Running B))) : Prop where
  /-- The device has a timer. -/
  timing : Timing running.device
  /-- The pipeline has its plan and its filters. -/
  furnished : running.pipeline.plan = plan ∧ running.pipeline.filters.length = filters
  /-- While monitoring is off, there are no samples. -/
  off : session = none → running.pipeline.monitor.samples = none
  /-- While it is on, the samples tell of the runs. -/
  on : ∀ runs, session = some runs → ∃ samples, running.pipeline.monitor.samples = some samples ∧
    samples.Recorded filters runs
  /-- In each of the runs every filter had its time taken once. -/
  measured : ∀ runs, session = some runs → ∀ run ∈ runs,
    (run.readings.map Sample.filter).Perm (List.range filters)

variable {Timing : B.State → Prop} {plan : Plan} {filters : Nat} {running : Running B}
  {session : Option (List (Running B))}

/-- Monitoring is on when there is a list of runs. -/
theorem Running.Accounted.isEnabled_iff (accounted : running.Accounted Timing plan filters session) :
    running.pipeline.monitor.isEnabled = session.isSome := by
  cases hs : session with
  | none => rw [Monitor.isEnabled, accounted.off hs]; rfl
  | some runs =>
    obtain ⟨samples, hsamples, -⟩ := accounted.on runs hs
    rw [Monitor.isEnabled, hsamples]
    rfl

/-- The times of a run that succeeds while monitoring is on are what the timer shows, one for each
filter. -/
theorem Running.Accounted.samples_eq (timed : B.Timed Timing)
    (accounted : running.Accounted Timing plan filters session)
    (schedule : plan.schedule.Perm (List.range filters)) (on : session.isSome = true)
    {samples : List Sample}
    (h : (running.pipeline.renderAll running.pipeline.plan.schedule
      ⟨running.pipeline.filters, running.device⟩).result = .ok samples) :
    samples = running.readings ∧
      (running.readings.map Sample.filter).Perm (List.range filters) := by
  have henabled := accounted.isEnabled_iff.trans on
  obtain ⟨rfl, horder⟩ := timed.samples_of_renderAll _ henabled accounted.timing h
  have hplan := congrArg Plan.schedule accounted.furnished.1
  refine ⟨rfl, ?_⟩
  rw [Running.readings, horder, hplan]
  exact schedule

/-- As long as the monitor is left alone, it tells of the same runs. -/
theorem Running.Accounted.of_monitor_eq (accounted : running.Accounted Timing plan filters session)
    {left : Running B} (timing : Timing left.device)
    (furnished : left.pipeline.plan = plan ∧ left.pipeline.filters.length = filters)
    (same : left.pipeline.monitor = running.pipeline.monitor) :
    left.Accounted Timing plan filters session :=
  ⟨timing, furnished, fun hoff => same ▸ accounted.off hoff,
    fun runs hruns => same ▸ accounted.on runs hruns, accounted.measured⟩

/-- While monitoring is on, a run that is completed is recorded. -/
theorem Running.Accounted.completed (timed : B.Timed Timing)
    (accounted : running.Accounted Timing plan filters session)
    (schedule : plan.schedule.Perm (List.range filters)) {left : Running B}
    (timing : Timing left.device)
    (furnished : left.pipeline.plan = plan ∧ left.pipeline.filters.length = filters)
    {samples : List Sample} (rendered : (running.pipeline.renderAll
      running.pipeline.plan.schedule ⟨running.pipeline.filters, running.device⟩).result = .ok samples)
    (recorded : running.pipeline.monitor.record? samples = some left.pipeline.monitor) :
    left.Accounted Timing plan filters (session.map (· ++ [running])) := by
  have hon : session.isSome = true → samples = running.readings ∧
      (running.readings.map Sample.filter).Perm (List.range filters) :=
    fun hsome => accounted.samples_eq timed schedule hsome rendered
  refine ⟨timing, furnished, ?off, ?on, ?measured⟩
  case off =>
    intro hoff
    have hnone := accounted.off (Option.map_eq_none_iff.mp hoff)
    rw [Monitor.record?, hnone] at recorded
    rw [← Option.some.inj recorded, hnone]
  case on =>
    intro all hall
    obtain ⟨runs, hruns, rfl⟩ := Option.map_eq_some_iff.mp hall
    obtain ⟨before, hbefore, tells⟩ := accounted.on runs hruns
    obtain ⟨rfl, hperm⟩ := hon (Option.isSome_of_eq_some hruns)
    rw [Monitor.record?, hbefore] at recorded
    obtain ⟨after, hafter, hleft⟩ := Option.map_eq_some_iff.mp recorded
    exact ⟨after, by rw [← hleft], tells.concat hperm hafter⟩
  case measured =>
    intro all hall run hrun
    obtain ⟨runs, hruns, rfl⟩ := Option.map_eq_some_iff.mp hall
    rcases List.mem_append.mp hrun with hrun | hrun
    · exact accounted.measured runs hruns run hrun
    · rw [List.mem_singleton.mp hrun]
      exact (hon (Option.isSome_of_eq_some hruns)).2

/-- Switching monitoring on begins a list of runs, unless there is one already. -/
theorem Running.Accounted.enable (accounted : running.Accounted Timing plan filters session) :
    (Call.perform .enableMonitoring running).state.Accounted Timing plan filters
      (some (session.getD [])) := by
  have hlength : running.pipeline.filters.length = filters := accounted.furnished.2
  have henabled : (Call.perform .enableMonitoring running).state.pipeline.monitor.samples =
      some (running.pipeline.monitor.samples.getD (.none filters)) := hlength ▸ rfl
  refine ⟨accounted.timing, accounted.furnished, nofun, ?on, ?measured⟩
  case on =>
    intro runs hruns
    obtain rfl := Option.some.inj hruns
    cases hs : session with
    | none =>
      rw [accounted.off hs] at henabled
      exact ⟨_, henabled, .none filters⟩
    | some before =>
      obtain ⟨samples, hsamples, tells⟩ := accounted.on before hs
      rw [hsamples] at henabled
      exact ⟨samples, henabled, tells⟩
  case measured =>
    intro runs hruns
    obtain rfl := Option.some.inj hruns
    cases hs : session with
    | none => simp
    | some before => exact accounted.measured before hs

/-- After any call the monitor tells of the runs that were completed since it was switched on. -/
theorem Running.Accounted.perform (timed : B.Timed Timing)
    (accounted : running.Accounted Timing plan filters session)
    (schedule : plan.schedule.Perm (List.range filters)) (call : Call B)
    (device : ∀ after, call = .useDevice after → Timing after) :
    (call.perform running).state.Accounted Timing plan filters
      (call.monitored running session) := by
  have hfurnished := call.perform_keeps_plan plan filters running accounted.furnished
  have htiming := timed.perform_keeps call device running accounted.timing
  by_cases hr : call.isRun = true
  · rw [Call.monitored_of_isRun hr]
    rw [Call.perform_of_isRun hr] at hfurnished htiming ⊢
    rcases Pipeline.process_monitor running with ⟨hok, samples, hrendered, hrecorded⟩ |
      ⟨fault, hfault, hsame⟩
    · rw [hok]
      exact accounted.completed timed schedule htiming hfurnished hrendered hrecorded
    · rw [hfault]
      exact accounted.of_monitor_eq htiming hfurnished hsame
  have hnot : call.isRun = false := Bool.eq_false_of_not_eq_true hr
  by_cases he : call = .enableMonitoring
  · exact he ▸ accounted.enable
  by_cases hd : call = .disableMonitoring
  · subst hd
    exact ⟨htiming, hfurnished, fun _ => rfl, nofun, nofun⟩
  rw [Call.monitored_of_other hnot he hd]
  exact accounted.of_monitor_eq htiming hfurnished (Call.monitor_perform hnot he hd)

/-- After any calls the monitor tells of the runs that were completed since it was switched on. -/
theorem Running.Accounted.performAll (timed : B.Timed Timing)
    (schedule : plan.schedule.Perm (List.range filters)) {calls : List (Call B)}
    (devices : ∀ after, .useDevice after ∈ calls → Timing after)
    (accounted : running.Accounted Timing plan filters session) :
    (Call.performAll calls running).Accounted Timing plan filters
      (Call.session calls running session) := by
  induction calls generalizing running session with
  | nil => exact accounted
  | cons call rest ih =>
    have hfirst := accounted.perform timed schedule call fun after he =>
      devices after (he ▸ List.mem_cons_self)
    exact ih (fun after hm => devices after (List.mem_cons_of_mem call hm)) hfirst

end Accounts

namespace Pipeline

section Queries

/-- The sum of what the timer showed for a filter in some runs, in nanoseconds. -/
def timeOver (runs : List (Running B)) (i : Nat) : Nat :=
  (runs.map fun run => (run.measurement i).nanoseconds).sum

/-- What a pipeline tells of the runs that were completed since monitoring was switched on. -/
structure Accounts (pipeline : Pipeline B) (runs : List (Running B)) : Prop where
  /-- In each run every filter had its time taken once. -/
  measured : ∀ run ∈ runs,
    (run.readings.map Sample.filter).Perm (List.range pipeline.filters.length)
  /-- The number of the runs. -/
  count : pipeline.monitor.runs = .ok runs.length
  /-- The last time of a filter is what the timer showed for it in the last run, and no time if there
  was no run. -/
  last : ∀ i < pipeline.filters.length,
    pipeline.monitor.last i = .ok (runs.getLast?.elim .zero fun run => run.measurement i)
  /-- The mean time of a filter is the sum of its times divided by the number of runs, rounded down
  to whole nanoseconds, and no time if there was no run. -/
  mean : ∀ i < pipeline.filters.length, ∃ mean, pipeline.monitor.mean i = .ok mean ∧
    mean.nanoseconds * runs.length ≤ timeOver runs i ∧
    (runs ≠ [] → timeOver runs i < (mean.nanoseconds + 1) * runs.length) ∧
    (runs = [] → mean = .zero)
  /-- The time of the last run is the sum of the last times of all filters, if it can be
  represented. -/
  total : ∀ sum, sum = ((List.range pipeline.filters.length).map fun i =>
      (runs.getLast?.elim Duration.zero fun run => run.measurement i).nanoseconds).sum →
    sum ≤ Duration.longest.nanoseconds → pipeline.totalTiming = .ok ⟨sum⟩
  /-- The times of a filter are found under its path. -/
  found : ∀ path i, pipeline.filterIndex path = .ok i → i < pipeline.filters.length ∧
    pipeline.timing path = pipeline.monitor.last i ∧
    pipeline.meanTiming path = pipeline.monitor.mean i

/-- A pipeline tells nothing of its runs. -/
structure Silent (pipeline : Pipeline B) : Prop where
  /-- Nothing of their number. -/
  count : ∃ e, pipeline.monitor.runs = .error e ∧ e.kind = .runtime
  /-- Nothing of the times of a filter. -/
  last : ∀ path, ∃ e, pipeline.timing path = .error e ∧ e.kind = .runtime
  /-- Nothing of its mean time. -/
  mean : ∀ path, ∃ e, pipeline.meanTiming path = .error e ∧ e.kind = .runtime
  /-- Nothing of the time of a whole run. -/
  total : ∃ e, pipeline.totalTiming = .error (.error e) ∧ e.kind = .runtime

variable {pipeline : Pipeline B}

/-- While monitoring is off a pipeline tells nothing. -/
theorem silent_of_off (h : pipeline.monitor.samples = none) : pipeline.Silent := by
  have hcollected : pipeline.monitor.collected = .error Cause.monitoringDisabled := by
    rw [Monitor.collected, h]
  have hquery : ∀ (path : String) (query : Nat → Except Error Duration),
      (∀ i, query i = .error Cause.monitoringDisabled) →
      ∃ e, (pipeline.filterIndex path >>= query) = .error e ∧ e.kind = .runtime := by
    intro path query hq
    cases hi : pipeline.filterIndex path with
    | ok i => exact ⟨_, hq i, rfl⟩
    | error e =>
      refine ⟨e, rfl, ?_⟩
      rw [filterIndex] at hi
      split at hi
      · cases hi
      · rw [← Except.error.inj hi]
        rfl
  constructor
  case count => exact ⟨_, by rw [Monitor.runs, hcollected]; rfl, rfl⟩
  case last => exact fun path => hquery path _ fun i => by rw [Monitor.last, hcollected]; rfl
  case mean => exact fun path => hquery path _ fun i => by rw [Monitor.mean, hcollected]; rfl
  case total => exact ⟨_, by rw [totalTiming, hcollected], rfl⟩

/-- Samples that tell of some runs are what the pipeline tells of them. -/
theorem accounts_of_recorded {runs : List (Running B)} {samples : Samples}
    (hs : pipeline.monitor.samples = some samples)
    (recorded : samples.Recorded pipeline.filters.length runs)
    (measured : ∀ run ∈ runs,
      (run.readings.map Sample.filter).Perm (List.range pipeline.filters.length))
    (known : pipeline.plan.filters.length = pipeline.filters.length) :
    pipeline.Accounts runs := by
  have hcollected : pipeline.monitor.collected = .ok samples := by rw [Monitor.collected, hs]
  constructor
  case measured => exact measured
  case count =>
    rw [Monitor.runs, hcollected]
    exact congrArg Except.ok recorded.count
  case last =>
    intro i hi
    rw [Monitor.last, hcollected]
    refine congrArg Except.ok ?_
    rw [recorded.last, List.getElem?_map, List.getElem?_range hi, Option.map_some, Option.getD_some]
  case mean =>
    intro i hi
    have hsum : samples.sum[i]?.getD .zero = ⟨timeOver runs i⟩ := by
      rw [recorded.sum, List.getElem?_map, List.getElem?_range hi, Option.map_some,
        Option.getD_some]
      rfl
    refine ⟨⟨timeOver runs i / runs.length⟩, ?_, Nat.div_mul_le_self _ _, ?_, ?_⟩
    · rw [Monitor.mean, hcollected]
      refine congrArg Except.ok ?_
      rw [hsum, recorded.count]
      rfl
    · intro hne
      exact Nat.lt_mul_of_div_lt (Nat.lt_succ_self _) (List.length_pos_iff.mpr hne)
    · rintro rfl
      exact congrArg Duration.mk (Nat.div_zero _)
  case total =>
    intro sum hsum hle
    have hlast : (samples.last.map Duration.nanoseconds).sum = sum := by
      rw [recorded.last, List.map_map, hsum]
      rfl
    have hadded := Duration.foldlM_add? samples.last .zero (by
      rw [hlast]
      exact (Nat.zero_add sum).symm ▸ hle)
    rw [hlast] at hadded
    rw [totalTiming, hcollected]
    simp only [Duration.sum?, hadded]
    exact congrArg (fun n => Except.ok (Duration.mk n)) (Nat.zero_add sum)
  case found =>
    intro path i hi
    have hlt : i < pipeline.plan.filters.length := by
      rw [filterIndex] at hi
      split at hi
      case h_1 index hindex =>
        rw [← Except.ok.inj hi]
        exact (List.findIdx?_eq_some_iff_getElem.mp hindex).1
      case h_2 => cases hi
    exact ⟨known ▸ hlt, by rw [timing, hi]; rfl, by rw [meanTiming, hi]; rfl⟩

end Queries

section Built

variable {name : String} {layout : Layout B.Descriptor} {state : B.State} {pipeline : Pipeline B}

/-- A pipeline that was just built is not monitored, has a plan of all its filters, and renders each
of them once. -/
theorem schedule_of_build (constructed : layout.Constructed)
    (built : (build name layout state).result = .ok pipeline) :
    pipeline.monitor = .off ∧ pipeline.plan.filters.length = pipeline.filters.length ∧
      pipeline.plan.schedule.Perm (List.range pipeline.filters.length) := by
  obtain ⟨graph, final, schedule, made⟩ := exists_built constructed built
  rw [made.length_filters]
  exact ⟨made.monitor, made.length_planned, made.perm_schedule⟩

variable {Timing : B.State → Prop}

/-- The monitor accounts for exactly the runs that succeeded while it was on. Whatever is called on
a pipeline that was built, while its device has a timer: while monitoring is on, the pipeline tells
of the runs that were completed since monitoring was last switched on, and calls that fail, release
the inputs or switch it on again change nothing of it. While it is off, every query fails. -/
theorem monitor_accounts (layout : Layout B.Descriptor) (constructed : layout.Constructed)
    (timed : B.Timed Timing) (name : String) (state : B.State) (pipeline : Pipeline B)
    (built : (build name layout state).result = .ok pipeline)
    (timing : Timing (build name layout state).state) (calls : List (Call B))
    (devices : ∀ after, .useDevice after ∈ calls → Timing after) :
    let start : Running B := ⟨pipeline, (build name layout state).state⟩
    let running := Call.performAll calls start
    (∀ runs, Call.session calls start none = some runs → running.pipeline.Accounts runs) ∧
      (Call.session calls start none = none → running.pipeline.Silent) ∧
      ∀ call : Call B, call.Idle running →
        (call.perform running).state.pipeline.monitor = running.pipeline.monitor ∧
          (call.perform running).state.pipeline.plan = running.pipeline.plan := by
  intro start running
  obtain ⟨hoff, hknown, hschedule⟩ := schedule_of_build constructed built
  have hstart : start.Accounted Timing pipeline.plan pipeline.filters.length none :=
    ⟨timing, ⟨rfl, rfl⟩, fun _ => by rw [hoff]; rfl, nofun, nofun⟩
  have hend := hstart.performAll timed hschedule devices
  refine ⟨fun runs hruns => ?_, fun hnone => silent_of_off (hend.off hnone), fun call idle => ?_⟩
  · obtain ⟨samples, hsamples, recorded⟩ := hend.on runs hruns
    have measured := hend.measured runs hruns
    rw [← hend.furnished.2] at recorded measured
    refine accounts_of_recorded hsamples recorded measured ?_
    rw [hend.furnished.1, hend.furnished.2, hknown]
  · have hkept := call.perform_keeps_plan running.pipeline.plan running.pipeline.filters.length
      running ⟨rfl, rfl⟩
    exact ⟨idle.monitor, hkept.1⟩

end Built

end Pipeline

namespace Device

/-- A device in memory with a timer always has a timer, and the timer shows what it is told to. -/
theorem memory_timed : memory.Timed fun device => device.timer.isSome = true where
  starts := fun _ h => h
  measures := by
    intro filter target device h
    obtain ⟨duration, hd⟩ := Option.isSome_iff_exists.mp h
    have hkept : (Memory.render filter target).Keeps
        fun after => after.timerArmed = true ∧ after.timer = some duration :=
      Memory.render_keeps (fun _ _ _ _ h => h) fun _ _ h => h
    obtain ⟨harmed, htimer⟩ := hkept (Memory.startTimer device).2 ⟨h, hd⟩
    refine ⟨duration, ?_⟩
    simp only [Memory.stopTimer, harmed, htimer, if_true]
  armed := fun _ h => h
  rendered := fun filter target => Memory.render_keeps (fun _ _ _ _ h => h) fun _ _ h => h
  stopped := fun _ h => h

/-- Calls on the panorama: monitoring is switched on, a run fails for want of a texture, two are
completed, and monitoring is switched on again. -/
def watched : List (Call memory) :=
  [.enableMonitoring, .process, .useDevice exposed.device, .appendInput ⟨4, 3⟩, .process,
    .appendInput ⟨4, 3⟩, .process, .enableMonitoring]

/-- Two runs are completed by these calls, whatever the device is before them. -/
theorem watched_session (device : Memory) : ∃ runs : List (Running memory),
    Call.session watched ⟨developed, device⟩ none = some runs ∧ runs.length = 2 := by
  have hlength : (Call.session watched ⟨developed, device⟩ none).map List.length = some 2 := by cbv
  exact Option.map_eq_some_iff.mp hlength

set_option maxRecDepth 10000 in
/-- On a device with a timer the panorama tells of the runs that were completed. -/
theorem panorama_monitored : ∃ (device : Memory) (runs : List (Running memory)), runs.length = 2 ∧
    (Call.performAll watched ⟨developed, device⟩).pipeline.Accounts runs := by
  have hbuilt : (Pipeline.build (B := memory) "panorama" panorama
      (Memory.fresh (some ⟨5⟩))).result = .ok developed := by cbv
  have htimer : (Pipeline.build (B := memory) "panorama" panorama
      (Memory.fresh (some ⟨5⟩))).state.timer.isSome = true := by cbv
  have hdevices : ∀ after, Call.useDevice after ∈ watched → after.timer.isSome = true := by
    intro after hm
    simp only [watched, List.mem_cons, reduceCtorEq, Call.useDevice.injEq, false_or, or_false,
      List.not_mem_nil] at hm
    rw [hm]
    rfl
  have haccounts := Pipeline.monitor_accounts (B := memory) panorama panorama_constructed
    memory_timed "panorama" (Memory.fresh (some ⟨5⟩)) developed hbuilt htimer watched hdevices
  obtain ⟨runs, hruns, hl⟩ := watched_session (Pipeline.build (B := memory) "panorama" panorama
    (Memory.fresh (some ⟨5⟩))).state
  exact ⟨_, runs, hl, haccounts.1 runs hruns⟩

end Device

end RenderGraph
