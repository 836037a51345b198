import RenderGraph.Proofs.Layout.Construction
import RenderGraph.Proofs.Run.Binding

/-!
# Calls on a pipeline

A pipeline is used through calls that may fail, in any order, while its device is
used for other things as well. Each call is an action on the pipeline and its
device; what a run does to them is told by how it ends.
-/

namespace RenderGraph

variable {B : Backend}

/-- One call on a pipeline, or one use of its device for something else. -/
inductive Call (B : Backend) where
  /-- A texture is bound to the next free input. -/
  | appendInput (texture : B.Texture)
  /-- All outputs of a pipeline are bound to the next free inputs. -/
  | appendOutputsOf (provider : Pipeline B)
  /-- The pipeline is run once. -/
  | process
  /-- All textures are unbound. -/
  | reset
  /-- The pipeline is told what to do. -/
  | run (command : Command)
  /-- The filter with a path is changed. -/
  | tweak (path : String) (change : B.Filter → B.Filter)
  /-- Monitoring is switched on. -/
  | enableMonitoring
  /-- Monitoring is switched off. -/
  | disableMonitoring
  /-- The device is used or set up for something else. -/
  | useDevice (after : B.State)

namespace Pipeline

/-- Changes a pipeline, unless the change fails. -/
def change (f : Pipeline B → Except Error (Pipeline B)) : Action (Running B) Fault Unit :=
  fun running =>
    match f running.pipeline with
    | .ok pipeline => ⟨{ running with pipeline }, [], .ok ()⟩
    | .error e => ⟨running, [], .error (.error e)⟩

end Pipeline

namespace Call

/-- What a call does. -/
def perform : Call B → Action (Running B) Fault Unit
  | appendInput texture => Pipeline.change fun pipeline => pipeline.appendInput texture
  | appendOutputsOf provider => Pipeline.change fun pipeline => pipeline.appendOutputsOf provider
  | process => Pipeline.process
  | reset => Pipeline.run .reset
  | run command => Pipeline.run command
  | tweak path change => Pipeline.change fun pipeline => pipeline.modifyFilter path change
  | enableMonitoring => Pipeline.change fun pipeline => .ok pipeline.enableMonitoring
  | disableMonitoring => Pipeline.change fun pipeline => .ok pipeline.disableMonitoring
  | useDevice after => Action.modify fun running => { running with device := after }

/-- What calls leave of a pipeline and its device, one after another, also where they fail. -/
def performAll (calls : List (Call B)) (running : Running B) : Running B :=
  calls.foldl (fun running call => (call.perform running).state) running

/-- Whether a call runs the pipeline. -/
def isRun : Call B → Bool
  | process => true
  | run .process => true
  | _ => false

/-- A call is made on the pipeline and does not use the device for something else. -/
def OnPipeline : Call B → Prop
  | useDevice _ => False
  | _ => True

/-- A property of filters before and after a change holds for all tweaks. -/
def Tweaks (R : B.Filter → B.Filter → Prop) : Call B → Prop
  | tweak _ change => ∀ filter, R filter (change filter)
  | _ => True

/-- A property that holds for all tweaks can be weakened. -/
theorem Tweaks.imp {R S : B.Filter → B.Filter → Prop} {call : Call B} (tweaks : call.Tweaks R)
    (h : ∀ filter after, R filter after → S filter after) : call.Tweaks S := by
  cases call with
  | tweak path change => exact fun filter => h _ _ (tweaks filter)
  | _ => trivial

end Call

namespace Pipeline

section Results

variable {pipeline provider next : Pipeline B}

/-- A texture is bound behind the others as long as an input is free. -/
theorem appendInput_eq_ok_iff {texture : B.Texture} :
    pipeline.appendInput texture = .ok next ↔ pipeline.inputs.length < pipeline.inputCount ∧
      next = { pipeline with inputs := pipeline.inputs ++ [texture] } := by
  simp only [appendInput]
  split <;> simp [*, eq_comm]

/-- Reading all outputs gives one texture for each of them, that of its port. -/
theorem outputs_eq_ok_iff {textures : List B.Texture} :
    pipeline.outputs = .ok textures ↔ textures.length = pipeline.plan.outputs.length ∧
      ∀ port texture, textures[port]? = some texture → pipeline.output port = .ok texture := by
  rw [outputs, mapM_eq_ok_iff, List.forall₂_iff_get, eq_comm]
  refine and_congr_right fun hl => ?_
  constructor
  · intro h port texture ht
    obtain ⟨hlt, rfl⟩ := List.getElem?_eq_some_iff.mp ht
    rw [output, List.getElem?_eq_getElem (hl ▸ hlt)]
    exact h port (hl ▸ hlt) hlt
  · intro h port hp ht
    have hread := h port _ (List.getElem?_eq_getElem ht)
    rwa [output, List.getElem?_eq_getElem hp] at hread

/-- The outputs of a pipeline are bound behind the other textures if all of them fit. -/
theorem appendOutputsOf_eq_ok_iff :
    pipeline.appendOutputsOf provider = .ok next ↔ ∃ textures, provider.outputs = .ok textures ∧
      pipeline.inputs.length + textures.length ≤ pipeline.inputCount ∧
      next = { pipeline with inputs := pipeline.inputs ++ textures } := by
  simp only [appendOutputsOf, bind_eq_ok_iff, within_eq_ok_iff]
  refine exists_congr fun textures => and_congr_right fun _ => ?_
  split <;> simp [*, eq_comm]

/-- A change of the filter with a path is a change of a filter. -/
theorem exists_of_modifyFilter {path : String} {change : B.Filter → B.Filter}
    (h : pipeline.modifyFilter path change = .ok next) :
    ∃ index, next = { pipeline with filters := pipeline.filters.modify index change } := by
  obtain ⟨index, -, h⟩ := bind_eq_ok_iff.mp h
  exact ⟨index, (Except.ok.inj h).symm⟩

/-- A change that succeeds changes nothing but the pipeline, and one that fails changes nothing. -/
theorem change_cases (f : Pipeline B → Except Error (Pipeline B)) (running : Running B) :
    (∃ next, f running.pipeline = .ok next ∧
      change f running = ⟨⟨next, running.device⟩, [], .ok ()⟩) ∨
    ∃ e, f running.pipeline = .error e ∧ change f running = ⟨running, [], .error (.error e)⟩ := by
  cases h : f running.pipeline with
  | ok next => exact .inl ⟨next, rfl, by rw [change, h]⟩
  | error e => exact .inr ⟨e, rfl, by rw [change, h]⟩

/-- A change keeps what all its results have. -/
theorem change_keeps {f : Pipeline B → Except Error (Pipeline B)} {I : Running B → Prop}
    (h : ∀ pipeline next device, f pipeline = .ok next → I ⟨pipeline, device⟩ → I ⟨next, device⟩) :
    (change f).Keeps I := by
  intro running hi
  rcases change_cases f running with ⟨next, hf, hc⟩ | ⟨e, -, hc⟩
  · rw [hc]
    exact h _ _ _ hf hi
  · rw [hc]
    exact hi

/-- What all calls of a sequence keep holds after them. -/
theorem performAll_keeps {I : Running B → Prop} {calls : List (Call B)}
    (h : ∀ call ∈ calls, call.perform.Keeps I) {running : Running B} (hi : I running) :
    I (Call.performAll calls running) := by
  induction calls generalizing running with
  | nil => exact hi
  | cons call rest ih =>
    have hrest := fun next hn => h next (List.mem_cons_of_mem call hn)
    exact ih hrest (h call List.mem_cons_self running hi)

end Results

/-- What rendering leaves of a pipeline and its device. -/
def after (running : Running B) (progress : Progress B) : Running B :=
  ⟨{ running.pipeline with filters := progress.filters }, progress.device⟩

/-- How a run ends, and what it leaves of the pipeline and the device. -/
inductive Ending (running : Running B) : Running B → Except Fault Unit → Prop
  /-- An input is free. Nothing changes. -/
  | refused : running.pipeline.inputs.length < running.pipeline.inputCount →
    Ending running running (.error (.error (Cause.tooFewInputs running.pipeline.name
      running.pipeline.inputCount running.pipeline.inputs.length)))
  /-- A filter cannot be rendered. -/
  | failed {fault : Fault} {progress : Progress B} :
    running.pipeline.inputCount ≤ running.pipeline.inputs.length →
    (running.pipeline.renderAll running.pipeline.plan.schedule
      ⟨running.pipeline.filters, running.device⟩).result = .error fault →
    (running.pipeline.renderAll running.pipeline.plan.schedule
      ⟨running.pipeline.filters, running.device⟩).state = progress →
    Ending running (after running progress) (.error fault)
  /-- The times cannot be recorded. -/
  | unrecorded {samples : List Sample} {progress : Progress B} :
    running.pipeline.inputCount ≤ running.pipeline.inputs.length →
    (running.pipeline.renderAll running.pipeline.plan.schedule
      ⟨running.pipeline.filters, running.device⟩).result = .ok samples →
    (running.pipeline.renderAll running.pipeline.plan.schedule
      ⟨running.pipeline.filters, running.device⟩).state = progress →
    running.pipeline.monitor.record? samples = none →
    Ending running (after running progress) (.error .overflow)
  /-- All filters are rendered. All textures are unbound. -/
  | completed {samples : List Sample} {progress : Progress B} {monitor : Monitor} :
    running.pipeline.inputCount ≤ running.pipeline.inputs.length →
    (running.pipeline.renderAll running.pipeline.plan.schedule
      ⟨running.pipeline.filters, running.device⟩).result = .ok samples →
    (running.pipeline.renderAll running.pipeline.plan.schedule
      ⟨running.pipeline.filters, running.device⟩).state = progress →
    running.pipeline.monitor.record? samples = some monitor →
    Ending running ⟨reset { (after running progress).pipeline with monitor }, progress.device⟩
      (.ok ())

/-- A run ends in one of these ways. -/
theorem process_ending (running : Running B) :
    Ending running (process running).state (process running).result := by
  by_cases few : running.pipeline.inputs.length < running.pipeline.inputCount
  · simp only [process, Bind.bind, Action.bind, Action.get, if_pos few]
    exact .refused few
  have enough := Nat.le_of_not_lt few
  simp only [process, Bind.bind, Action.bind, Action.get, if_neg few, renderSchedule]
  cases rendered : (running.pipeline.renderAll running.pipeline.plan.schedule
      ⟨running.pipeline.filters, running.device⟩).result with
  | error fault => exact .failed enough rendered rfl
  | ok samples =>
    simp only [complete, Bind.bind, Action.bind, Action.get]
    cases recorded : running.pipeline.monitor.record? samples with
    | none => exact .unrecorded enough rendered rfl recorded
    | some monitor => exact .completed enough rendered rfl recorded

/-- A property that binding a texture, rendering and timing preserve, also where they fail. -/
structure Withstands (pipeline : Pipeline B) (I : Progress B → Prop) : Prop where
  /-- A texture that the plan names can be bound to an input of any filter. -/
  setInput : ∀ filters device index port binding texture,
    pipeline.boundTexture binding = .ok texture → I ⟨filters, device⟩ →
      I ⟨filters.modify index (B.setInput port texture), device⟩
  /-- A filter can be rendered into a target of the pipeline. -/
  render : ∀ filters filter target, target ∈ pipeline.targets →
    (B.render filter target).Keeps fun device => I ⟨filters, device⟩
  /-- The timer can be armed. -/
  startTimer : ∀ filters device, I ⟨filters, device⟩ → I ⟨filters, (B.startTimer device).2⟩
  /-- The timer can be stopped. -/
  stopTimer : ∀ filters, B.stopTimer.Keeps fun device => I ⟨filters, device⟩

section Rendering

variable {pipeline : Pipeline B} {I : Progress B → Prop}

/-- What holds of the filters alone is no matter of rendering and timing. -/
theorem Withstands.of_filters {P : List B.Filter → Prop}
    (h : ∀ filters index port binding texture, pipeline.boundTexture binding = .ok texture →
      P filters → P (filters.modify index (B.setInput port texture))) :
    pipeline.Withstands fun progress => P progress.filters where
  setInput := fun filters _ => h filters
  render := fun _ _ _ _ _ hp => hp
  startTimer := fun _ _ hp => hp
  stopTimer := fun _ _ hp => hp

variable (withstands : pipeline.Withstands I)
include withstands

/-- The inputs of a filter can be bound. -/
theorem Withstands.bindInputs (index : Nat) (bindings : List Schedule.Binding) :
    (pipeline.bindInputs index bindings).Keeps I := by
  refine .forM (fun entry progress hi => ?_) _
  simp only [bindInput, Bind.bind, Action.bind, Action.ofExcept]
  cases hb : pipeline.boundTexture entry.1 with
  | error e => exact hi
  | ok texture => exact withstands.setInput _ _ index entry.2 entry.1 texture hb hi

/-- A filter can be rendered once its inputs are bound, timed or not. -/
theorem Withstands.renderBound (index : Nat) (path : String) (filter : B.Filter)
    {target : B.Target} (hm : target ∈ pipeline.targets) :
    (pipeline.renderBound index path filter target).Keeps I := by
  intro progress hi
  have hrender := withstands.render progress.filters filter target hm
  rw [Pipeline.renderBound]
  cases pipeline.monitor.isEnabled with
  | true =>
    have htimed : (renderTimed index path filter target).Keeps
        fun device => I ⟨progress.filters, device⟩ := by
      refine .bind (withstands.startTimer progress.filters) fun armed => ?_
      refine .bind (.of_state_eq fun _ => rfl) fun started => ?_
      refine .bind hrender fun rendered => ?_
      refine .bind (withstands.stopTimer progress.filters) fun stopped => ?_
      refine .bind (.of_state_eq fun _ => rfl) fun finished => ?_
      refine .bind (.of_state_eq fun _ => rfl) fun _ => ?_
      exact .bind (.of_state_eq fun _ => rfl) fun measured => .of_state_eq fun _ => rfl
    exact htimed progress.device hi
  | false =>
    have huntimed : (renderUntimed path filter target).Keeps
        fun device => I ⟨progress.filters, device⟩ :=
      .bind hrender fun _ => .of_state_eq fun _ => rfl
    exact huntimed progress.device hi

/-- The textures of a filter can be bound and the filter can be rendered. -/
theorem Withstands.renderFilter (index : Nat) : (pipeline.renderFilter index).Keeps I := by
  rw [Pipeline.renderFilter]
  cases pipeline.plan.filters[index]? with
  | none => exact .of_state_eq fun _ => rfl
  | some planned =>
    refine .bind (withstands.bindInputs index _) fun _ => ?_
    refine .bind (.of_state_eq fun _ => rfl) fun _ => ?_
    refine .bind (.of_state_eq fun _ => rfl) fun before => ?_
    cases before.filters[index]? with
    | none => exact .of_state_eq fun _ => rfl
    | some filter =>
      cases ht : pipeline.targets[planned.target]? with
      | none => exact .of_state_eq fun _ => rfl
      | some target =>
        exact withstands.renderBound index planned.path filter (List.mem_of_getElem? ht)

/-- All filters can be rendered. -/
theorem Withstands.renderAll (order : List Nat) : (pipeline.renderAll order).Keeps I := by
  induction order with
  | nil => exact .of_state_eq fun _ => rfl
  | cons index rest ih =>
    rw [Pipeline.renderAll]
    refine .bind (withstands.renderFilter index) fun samples => ?_
    exact .bind ih fun more => .of_state_eq fun _ => rfl

end Rendering

/-- A property that holds before a run holds after it, however the run ends, if rendering preserves
it and the release of all inputs does. -/
theorem process_preserves {running : Running B} {I : Running B → Prop} (hi : I running)
    (withstands : running.pipeline.Withstands fun progress => I (after running progress))
    (released : ∀ samples progress monitor, I (after running progress) →
      running.pipeline.monitor.record? samples = some monitor →
      I ⟨reset { (after running progress).pipeline with monitor }, progress.device⟩) :
    I (process running).state := by
  have rendered := withstands.renderAll running.pipeline.plan.schedule
    ⟨running.pipeline.filters, running.device⟩ hi
  have ending := process_ending running
  generalize (process running).state = left at ending ⊢
  generalize (process running).result = result at ending
  cases ending with
  | refused => exact hi
  | failed _ _ hp => exact hp ▸ rendered
  | unrecorded _ _ hp => exact hp ▸ rendered
  | completed _ _ hp hm => exact released _ _ _ (hp ▸ rendered) hm

end Pipeline

/-- A property is kept by a call if it is kept by each change that calls are made of. -/
theorem Call.perform_keeps {I : Running B → Prop} {call : Call B}
    (bind : ∀ pipeline device textures,
      pipeline.inputs.length + textures.length ≤ pipeline.inputCount → I ⟨pipeline, device⟩ →
        I ⟨{ pipeline with inputs := pipeline.inputs ++ textures }, device⟩)
    (process : Pipeline.process.Keeps I)
    (reset : ∀ pipeline device, I ⟨pipeline, device⟩ → I ⟨pipeline.reset, device⟩)
    (tweak : ∀ pipeline device path change index, call = .tweak path change →
      I ⟨pipeline, device⟩ →
        I ⟨{ pipeline with filters := pipeline.filters.modify index change }, device⟩)
    (monitor : ∀ pipeline device, I ⟨pipeline, device⟩ →
      I ⟨pipeline.enableMonitoring, device⟩ ∧ I ⟨pipeline.disableMonitoring, device⟩)
    (device : ∀ pipeline device after, I ⟨pipeline, device⟩ → I ⟨pipeline, after⟩) :
    call.perform.Keeps I := by
  cases call with
  | appendInput texture =>
    refine Pipeline.change_keeps fun pipeline next device h hi => ?_
    obtain ⟨hlt, rfl⟩ := Pipeline.appendInput_eq_ok_iff.mp h
    exact bind pipeline device [texture] hlt hi
  | appendOutputsOf provider =>
    refine Pipeline.change_keeps fun pipeline next device h hi => ?_
    obtain ⟨textures, -, hle, rfl⟩ := Pipeline.appendOutputsOf_eq_ok_iff.mp h
    exact bind pipeline device textures hle hi
  | process => exact process
  | reset => exact fun running hi => reset running.pipeline running.device hi
  | run command =>
    cases command with
    | process => exact process
    | reset => exact fun running hi => reset running.pipeline running.device hi
  | tweak path change =>
    refine Pipeline.change_keeps fun pipeline next device h hi => ?_
    obtain ⟨index, rfl⟩ := Pipeline.exists_of_modifyFilter h
    exact tweak pipeline device path change index rfl hi
  | enableMonitoring =>
    refine Pipeline.change_keeps fun pipeline next device h hi => ?_
    obtain rfl := Except.ok.inj h
    exact (monitor pipeline device hi).1
  | disableMonitoring =>
    refine Pipeline.change_keeps fun pipeline next device h hi => ?_
    obtain rfl := Except.ok.inj h
    exact (monitor pipeline device hi).2
  | useDevice after => exact fun running hi => device running.pipeline running.device after hi

/-- What calls never change of a pipeline. -/
structure Pipeline.SameBuild (pipeline left : Pipeline B) : Prop where
  /-- Its name. -/
  name : left.name = pipeline.name
  /-- The layout it was built from. -/
  layout : left.layout = pipeline.layout
  /-- Its render targets. -/
  targets : left.targets = pipeline.targets
  /-- Its plan. -/
  plan : left.plan = pipeline.plan

namespace Pipeline.SameBuild

variable {pipeline left last : Pipeline B}

/-- A pipeline is of the same build as itself. -/
theorem refl (pipeline : Pipeline B) : pipeline.SameBuild pipeline :=
  ⟨rfl, rfl, rfl, rfl⟩

/-- What is never changed is not changed by calls in a row. -/
theorem trans (h : pipeline.SameBuild left) (k : left.SameBuild last) : pipeline.SameBuild last :=
  ⟨k.name.trans h.name, k.layout.trans h.layout, k.targets.trans h.targets, k.plan.trans h.plan⟩

/-- Outputs are looked up in what calls never change. -/
theorem output_eq (h : pipeline.SameBuild left) (port : Nat) :
    left.output port = pipeline.output port := by
  have houtput : left.outputTexture = pipeline.outputTexture := by
    funext output
    simp only [outputTexture, attachment, h.targets]
  rw [output, output, h.plan, h.name, houtput]

end Pipeline.SameBuild

/-- What runs the pipeline does nothing else. -/
theorem Call.perform_of_isRun {call : Call B} (h : call.isRun = true) :
    call.perform = Pipeline.process := by
  cases call with
  | process => rfl
  | run command =>
    cases command with
    | process => rfl
    | reset => cases h
  | _ => cases h

/-- What does not run the pipeline leaves the device alone. -/
theorem Call.device_perform {call : Call B} (on : call.OnPipeline) (h : call.isRun = false)
    (running : Running B) : (call.perform running).state.device = running.device := by
  have change : ∀ f : Pipeline B → Except Error (Pipeline B),
      (Pipeline.change f running).state.device = running.device := fun f =>
    Pipeline.change_keeps (I := fun left => left.device = running.device) (fun _ _ _ _ hi => hi)
      running rfl
  cases call with
  | appendInput texture => exact change _
  | appendOutputsOf provider => exact change _
  | process => cases h
  | reset => rfl
  | run command =>
    cases command with
    | process => cases h
    | reset => rfl
  | tweak path f => exact change _
  | enableMonitoring => rfl
  | disableMonitoring => rfl
  | useDevice after => exact on.elim

/-- Whatever is called on a pipeline, it stays of the same build. -/
theorem Call.perform_sameBuild (call : Call B) (running : Running B) :
    running.pipeline.SameBuild (call.perform running).state.pipeline := by
  refine Call.perform_keeps (I := fun left => running.pipeline.SameBuild left.pipeline)
    ?bind ?process ?reset ?tweak ?monitor ?device running (.refl running.pipeline)
  case bind => exact fun _ _ _ _ h => ⟨h.name, h.layout, h.targets, h.plan⟩
  case process =>
    intro start h
    refine Pipeline.process_preserves (I := fun left => running.pipeline.SameBuild left.pipeline)
      h ?_ fun _ _ _ hi _ => ⟨hi.name, hi.layout, hi.targets, hi.plan⟩
    refine .of_filters (P := fun filters =>
      running.pipeline.SameBuild { start.pipeline with filters }) ?_
    exact fun _ _ _ _ _ _ hi => ⟨hi.name, hi.layout, hi.targets, hi.plan⟩
  case reset => exact fun _ _ h => ⟨h.name, h.layout, h.targets, h.plan⟩
  case tweak => exact fun _ _ _ _ _ _ h => ⟨h.name, h.layout, h.targets, h.plan⟩
  case monitor =>
    exact fun _ _ h => ⟨⟨h.name, h.layout, h.targets, h.plan⟩, h.name, h.layout, h.targets, h.plan⟩
  case device => exact fun _ _ _ h => h

end RenderGraph
