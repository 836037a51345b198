import RenderGraph.Proofs.Run.InRange

/-!
# Which textures are bound

The textures that are bound to a pipeline are those that were appended since it
last released its inputs, in this order, whatever calls failed in between. Apart
from attachments of the pipeline a filter holds no other textures, and none at all
once the inputs are released.
-/

namespace RenderGraph

variable {B : Backend}

namespace Call

/-- The textures that a call appends if it succeeds. -/
def appends : Call B → List B.Texture
  | appendInput texture => [texture]
  | appendOutputsOf provider => provider.outputs.toOption.getD []
  | _ => []

/-- Whether a call releases all inputs if it succeeds. -/
def releases : Call B → Bool
  | process => true
  | reset => true
  | run _ => true
  | _ => false

/-- A call fails. -/
def Fails (call : Call B) (running : Running B) : Prop :=
  ∃ fault, (call.perform running).result = .error fault

/-- Calls with their results. -/
def log : List (Call B) → Running B → List (Call B × Except Fault Unit)
  | [], _ => []
  | call :: rest, running =>
    (call, (call.perform running).result) :: log rest (call.perform running).state

/-- The calls after the last one that released the inputs. -/
def sinceRelease (calls : List (Call B × Except Fault Unit)) : List (Call B × Except Fault Unit) :=
  (calls.reverse.takeWhile fun (call, result) => !(call.releases && result.isOk)).reverse

/-- The textures that were appended, in order. -/
def appended (calls : List (Call B × Except Fault Unit)) : List B.Texture :=
  (calls.filter fun (_, result) => result.isOk).flatMap fun (call, _) => call.appends

section Logs

variable {call : Call B} {running : Running B}

/-- The last of some calls is performed in the state that the others leave. -/
theorem performAll_concat (calls : List (Call B)) (call : Call B) (running : Running B) :
    performAll (calls ++ [call]) running = (call.perform (performAll calls running)).state := by
  simp [performAll]

/-- Its result is the last one in the log. -/
theorem log_concat (calls : List (Call B)) (call : Call B) (running : Running B) :
    log (calls ++ [call]) running =
      log calls running ++ [(call, (call.perform (performAll calls running)).result)] := by
  induction calls generalizing running with
  | nil => rfl
  | cons first rest ih =>
    rw [List.cons_append, log, log, ih]
    rfl

/-- What one more call does to the textures that were appended since the last release. -/
theorem appended_concat (calls : List (Call B × Except Fault Unit)) (call : Call B)
    (result : Except Fault Unit) :
    appended (sinceRelease (calls ++ [(call, result)])) =
      if result.isOk then
        if call.releases then [] else appended (sinceRelease calls) ++ call.appends
      else appended (sinceRelease calls) := by
  cases hr : result.isOk <;> cases hc : call.releases <;>
    simp [appended, sinceRelease, hr, hc]

/-- What one call does to the textures that are bound. -/
theorem inputs_perform (call : Call B) (running : Running B) :
    (call.perform running).state.pipeline.inputs =
      if (call.perform running).result.isOk then
        if call.releases then [] else running.pipeline.inputs ++ call.appends
      else running.pipeline.inputs := by
  have processed : (Pipeline.process running).state.pipeline.inputs =
      if (Pipeline.process running).result.isOk then [] else running.pipeline.inputs := by
    have ending := Pipeline.process_ending running
    generalize (Pipeline.process running).state = left at ending ⊢
    generalize (Pipeline.process running).result = result at ending ⊢
    cases ending <;> rfl
  cases call with
  | appendInput texture =>
    rcases Pipeline.change_cases (fun pipeline => pipeline.appendInput texture) running with
      ⟨next, hn, hc⟩ | ⟨e, -, hc⟩
    · obtain ⟨-, rfl⟩ := Pipeline.appendInput_eq_ok_iff.mp hn
      rw [perform, hc]
      rfl
    · rw [perform, hc]
      rfl
  | appendOutputsOf provider =>
    rcases Pipeline.change_cases (fun pipeline => pipeline.appendOutputsOf provider) running with
      ⟨next, hn, hc⟩ | ⟨e, -, hc⟩
    · obtain ⟨textures, ht, -, rfl⟩ := Pipeline.appendOutputsOf_eq_ok_iff.mp hn
      rw [perform, hc, appends, ht]
      rfl
    · rw [perform, hc]
      rfl
  | process => exact processed
  | reset => rfl
  | run command =>
    cases command with
    | process => exact processed
    | reset => rfl
  | tweak path change =>
    rcases Pipeline.change_cases (fun pipeline => pipeline.modifyFilter path change) running with
      ⟨next, hn, hc⟩ | ⟨e, -, hc⟩
    · obtain ⟨index, rfl⟩ := Pipeline.exists_of_modifyFilter hn
      rw [perform, hc]
      exact (List.append_nil _).symm
    · rw [perform, hc]
      rfl
  | enableMonitoring => exact (List.append_nil _).symm
  | disableMonitoring => exact (List.append_nil _).symm
  | useDevice after => exact (List.append_nil _).symm

/-- The textures that are bound are those that were appended since the last release. -/
theorem inputs_performAll (calls : List (Call B)) {running : Running B}
    (h : running.pipeline.inputs = []) :
    (performAll calls running).pipeline.inputs = appended (sinceRelease (log calls running)) := by
  induction calls using List.reverseRecOn with
  | nil => exact h
  | append_singleton calls call ih =>
    rw [performAll_concat, log_concat, appended_concat, inputs_perform, ih]

/-- There are never more of them than there are inputs. -/
theorem perform_keeps_bounded (call : Call B) :
    call.perform.Keeps fun running =>
      running.pipeline.inputs.length ≤ running.pipeline.inputCount := by
  apply perform_keeps
  case bind =>
    intro pipeline device textures hle _
    exact (List.length_append).trans_le hle
  case process =>
    intro running hi
    refine Pipeline.process_preserves
      (I := fun running => running.pipeline.inputs.length ≤ running.pipeline.inputCount) hi
      (.of_filters (P := fun _ => running.pipeline.inputs.length ≤ running.pipeline.inputCount)
        fun _ _ _ _ _ _ h => h) ?_
    exact fun _ _ _ _ _ => Nat.zero_le _
  case reset => exact fun _ _ _ => Nat.zero_le _
  case tweak => exact fun _ _ _ _ _ _ hi => hi
  case monitor => exact fun _ _ hi => ⟨hi, hi⟩
  case device => exact fun _ _ _ hi => hi

end Logs

section Answers

variable {running : Running B}

/-- A change of the pipeline that fails leaves everything as it is. -/
theorem state_of_change_error {f : Pipeline B → Except Error (Pipeline B)} {fault : Fault}
    (h : (Pipeline.change f running).result = .error fault) :
    (Pipeline.change f running).state = running := by
  rcases Pipeline.change_cases f running with ⟨next, -, hc⟩ | ⟨e, -, hc⟩
  · rw [hc] at h
    cases h
  · rw [hc]

/-- A change of the pipeline fails unless it has a result. -/
theorem change_fails_iff {f : Pipeline B → Except Error (Pipeline B)} :
    (∃ fault, (Pipeline.change f running).result = .error fault) ↔
      ¬ ∃ next, f running.pipeline = .ok next := by
  rcases Pipeline.change_cases f running with ⟨next, hn, hc⟩ | ⟨e, he, hc⟩
  · simp [hc, hn]
  · simp [hc, he]

/-- No texture can be appended if and only if no input is free. -/
theorem appendInput_fails_iff
    (bounded : running.pipeline.inputs.length ≤ running.pipeline.inputCount)
    (texture : B.Texture) : (appendInput texture).Fails running ↔
      running.pipeline.inputs.length = running.pipeline.inputCount := by
  rw [Fails, perform, change_fails_iff]
  simp only [Pipeline.appendInput_eq_ok_iff, exists_and_left, exists_eq, and_true]
  omega

/-- The outputs of a pipeline cannot be appended if and only if there are more of them than free
inputs. -/
theorem appendOutputsOf_fails_iff {provider : Pipeline B} {textures : List B.Texture}
    (readable : provider.outputs = .ok textures) : (appendOutputsOf provider).Fails running ↔
      running.pipeline.inputCount < running.pipeline.inputs.length + textures.length := by
  rw [Fails, perform, change_fails_iff]
  simp only [Pipeline.appendOutputsOf_eq_ok_iff, readable, Except.ok.injEq, exists_eq_left',
    exists_and_left, exists_eq, and_true]
  omega

end Answers

end Call

namespace Pipeline

variable {slots : B.Filter → List (Option B.Texture)}

/-- A pipeline holds no texture for its next run, and neither does any of its filters. -/
structure Emptied (slots : B.Filter → List (Option B.Texture)) (pipeline : Pipeline B) : Prop where
  /-- No texture is bound. -/
  inputs : pipeline.inputs = []
  /-- All slots of all filters are empty. -/
  slots : ∀ filter ∈ pipeline.filters, ∀ slot ∈ slots filter, slot = none

/-- Every texture that a filter holds is bound to the pipeline or one of its attachments. -/
def Contained (slots : B.Filter → List (Option B.Texture)) (pipeline : Pipeline B) : Prop :=
  ∀ filter ∈ pipeline.filters, ∀ texture, some texture ∈ slots filter →
    texture ∈ pipeline.inputs ∨ ∃ target ∈ pipeline.targets, texture ∈ B.attachments target

/-- Where nothing is held, nothing else is. -/
theorem Emptied.contained {pipeline : Pipeline B} (emptied : pipeline.Emptied slots) :
    pipeline.Contained slots := by
  intro filter hf texture ht
  cases emptied.slots filter hf _ ht

/-- Resetting empties a pipeline. -/
theorem reset_emptied (exact : B.Exact slots) (pipeline : Pipeline B) :
    pipeline.reset.Emptied slots := by
  refine ⟨rfl, fun filter hf slot hs => ?_⟩
  obtain ⟨before, -, rfl⟩ := List.mem_map.mp hf
  rw [exact.clearInputs] at hs
  obtain ⟨-, -, rfl⟩ := List.mem_map.mp hs
  rfl

/-- What the plan names is a bound texture or an attachment. -/
theorem mem_of_boundTexture {pipeline : Pipeline B} {binding : Schedule.Binding}
    {texture : B.Texture} (h : pipeline.boundTexture binding = .ok texture) :
    texture ∈ pipeline.inputs ∨ ∃ target ∈ pipeline.targets, texture ∈ B.attachments target := by
  cases binding with
  | input port =>
    simp only [boundTexture] at h
    split at h
    case h_1 hp =>
      obtain rfl := Except.ok.inj h
      exact .inl (List.mem_of_getElem? hp)
    case h_2 => cases h
  | attachment id index =>
    simp only [boundTexture] at h
    split at h
    case h_1 => cases h
    case h_2 target ht =>
      split at h
      case h_1 ha =>
        obtain rfl := Except.ok.inj h
        exact .inr ⟨target, List.mem_of_getElem? ht, List.mem_of_getElem? ha⟩
      case h_2 => cases h

/-- Filters hold nothing else after what the plan names is bound to one of them. -/
theorem Contained.setInput (exact : B.Exact slots) {pipeline : Pipeline B}
    (contained : pipeline.Contained slots) (index port : Nat) {texture : B.Texture}
    (ht : texture ∈ pipeline.inputs ∨ ∃ target ∈ pipeline.targets, texture ∈ B.attachments target) :
    Contained slots
      { pipeline with filters := pipeline.filters.modify index (B.setInput port texture) } := by
  intro filter hf held hh
  rcases mem_of_mem_modify hf with hf | ⟨before, hb, rfl⟩
  · exact contained filter hf held hh
  · rw [exact.setInput] at hh
    rcases List.mem_or_eq_of_mem_set hh with hh | he
    · exact contained before hb held hh
    · exact Option.some.inj he ▸ ht

/-- They hold nothing else after any calls that leave the inputs of filters alone. -/
theorem perform_keeps_contained (exact : B.Exact slots) (call : Call B)
    (tweaks : call.Tweaks fun filter after => slots after = slots filter) :
    call.perform.Keeps fun running => running.pipeline.Contained slots := by
  apply Call.perform_keeps
  case bind =>
    intro pipeline _ textures _ contained filter hf texture ht
    exact (contained filter hf texture ht).imp_left (List.mem_append_left textures)
  case process =>
    intro running contained
    refine process_preserves (I := fun running => running.pipeline.Contained slots) contained ?_ ?_
    · exact .of_filters (P := fun filters => Contained slots { running.pipeline with filters })
        fun filters index port binding texture found hc =>
          hc.setInput exact index port (mem_of_boundTexture found)
    · exact fun _ _ _ _ _ => (reset_emptied exact _).contained
  case reset => exact fun pipeline _ _ => (reset_emptied exact pipeline).contained
  case tweak =>
    rintro pipeline _ path change index rfl contained filter hf texture ht
    rcases mem_of_mem_modify hf with hf | ⟨before, hb, rfl⟩
    · exact contained filter hf texture ht
    · exact contained before hb texture (tweaks before ▸ ht)
  case monitor => exact fun _ _ contained => ⟨contained, contained⟩
  case device => exact fun _ _ _ contained => contained

/-- A call that succeeds in releasing the inputs empties the pipeline. -/
theorem emptied_of_releases (exact : B.Exact slots) {call : Call B} {running : Running B}
    (releases : call.releases = true) (succeeds : (call.perform running).result = .ok ()) :
    (call.perform running).state.pipeline.Emptied slots := by
  have processed : ∀ left, Ending running left (.ok ()) → left.pipeline.Emptied slots := by
    intro left ending
    cases ending
    exact reset_emptied exact _
  cases call with
  | process => exact processed _ (succeeds ▸ process_ending running)
  | reset => exact reset_emptied exact running.pipeline
  | run command =>
    cases command with
    | process => exact processed _ (succeeds ▸ process_ending running)
    | reset => exact reset_emptied exact running.pipeline
  | _ => cases releases

/-- A run is refused because of free inputs if and only if there are some. -/
theorem process_refused_iff {graph : Flat.Graph B.Descriptor} (exact : B.Exact slots)
    {running : Running B} (furnished : running.pipeline.Furnished slots graph) :
    (∃ name expected actual, (process running).result =
      .error (.error (Cause.tooFewInputs name expected actual))) ↔
      running.pipeline.inputs.length < running.pipeline.inputCount := by
  have ending := process_ending running
  generalize (process running).state = left at ending
  generalize (process running).result = result at ending ⊢
  cases ending with
  | refused few => exact iff_of_true ⟨_, _, _, rfl⟩ few
  | failed enough hr _ =>
    obtain ⟨_, _, _, _, _, _, _, -, -, -, fails, -⟩ :=
      furnished.exists_failure enough exact furnished.slotted hr
    refine iff_of_false ?_ (Nat.not_lt_of_le enough)
    rintro ⟨name, expected, actual, h⟩
    -- A failure of the device names the filter, the refusal names none.
    cases fails <;> cases h
  | unrecorded enough =>
    exact iff_of_false (fun ⟨_, _, _, h⟩ => by cases h) (Nat.not_lt_of_le enough)
  | completed enough =>
    exact iff_of_false (fun ⟨_, _, _, h⟩ => by cases h) (Nat.not_lt_of_le enough)

end Pipeline

namespace Device

/-- A pipeline that was just built in memory is empty. -/
theorem emptied_of_build {name : String} {layout : Layout TermDescriptor} {device : Memory}
    {pipeline : Pipeline memory} (h : (Pipeline.build name layout device).result = .ok pipeline) :
    pipeline.Emptied TermFilter.inputs := by
  obtain ⟨compiled, hc, hp⟩ := Action.bind_eq_ok_iff.mp h
  obtain rfl := Except.ok.inj hp
  obtain ⟨graph, schedule, created, allocated, -, rfl, hf, -⟩ := Compile.compile_eq_ok hc
  refine ⟨rfl, fun filter hm slot hs => ?_⟩
  rw [(createFilters_eq_ok hf).1] at hm
  obtain ⟨flat, -, rfl⟩ := List.mem_map.mp hm
  exact List.eq_of_mem_replicate hs

/-- Resetting a pipeline in memory twice is resetting it once. -/
theorem reset_reset (pipeline : Pipeline memory) : pipeline.reset.reset = pipeline.reset := by
  have hclear : TermFilter.clearInputs ∘ TermFilter.clearInputs =
      (TermFilter.clearInputs : TermFilter MemoryTexture → TermFilter MemoryTexture) := by
    funext filter
    simp [TermFilter.clearInputs]
  simp only [Pipeline.reset, List.map_map, hclear]

/-- How a pipeline in memory answers the next call. -/
structure Answers (running : Running memory) : Prop where
  /-- No texture can be appended if and only if no input is free. -/
  appendInput : ∀ texture, (Call.appendInput texture).Fails running ↔
    running.pipeline.inputs.length = running.pipeline.inputCount
  /-- The outputs of a pipeline cannot be appended if and only if they do not all fit. -/
  appendOutputsOf : ∀ (provider : Pipeline memory) textures, provider.outputs = .ok textures →
    ((Call.appendOutputsOf provider).Fails running ↔
      running.pipeline.inputCount < running.pipeline.inputs.length + textures.length)
  /-- If they cannot, nothing has changed. -/
  unchanged : (∀ texture, (Call.appendInput texture).Fails running →
      ((Call.appendInput texture).perform running).state = running) ∧
    ∀ provider, (Call.appendOutputsOf provider).Fails running →
      ((Call.appendOutputsOf provider).perform running).state = running
  /-- A run is refused because of free inputs if and only if there are some. -/
  process : (∃ name expected actual, (Call.process.perform running).result =
    .error (.error (Cause.tooFewInputs name expected actual))) ↔
    running.pipeline.inputs.length < running.pipeline.inputCount
  /-- When the inputs are released, no texture is bound and no filter holds one. -/
  released : ∀ call : Call memory, call.releases = true → (call.perform running).result = .ok () →
    (call.perform running).state.pipeline.Emptied TermFilter.inputs
  /-- Resetting once more changes nothing. -/
  reset : (Call.reset.perform (Call.reset.perform running).state).state =
    (Call.reset.perform running).state

/-- Which textures are bound to a pipeline in memory.

Whatever was called on it since it was built, with or without success, the bound textures are those
that were appended since the inputs were last released, in this order, and there are never more of
them than inputs. A filter holds no other textures but attachments of the pipeline itself. The next
call is answered accordingly. -/
theorem inputs_since_release (layout : Layout TermDescriptor) (constructed : layout.Constructed)
    (name : String) (device : Memory) (pipeline : Pipeline memory)
    (built : (Pipeline.build name layout device).result = .ok pipeline)
    (calls : List (Call memory))
    (tweaks : ∀ call ∈ calls, call.Tweaks fun filter after : TermFilter MemoryTexture =>
      after.inputs = filter.inputs)
    (state : Memory) (running : Running memory)
    (reached : Call.performAll calls ⟨pipeline, state⟩ = running) :
    running.pipeline.inputs =
      Call.appended (Call.sinceRelease (Call.log calls ⟨pipeline, state⟩)) ∧
    running.pipeline.inputs.length ≤ running.pipeline.inputCount ∧
    (∀ filter ∈ running.pipeline.filters, ∀ texture, some texture ∈ filter.inputs →
      texture ∈ running.pipeline.inputs ∨
        ∃ target ∈ running.pipeline.targets, texture ∈ target.attachments) ∧
    Answers running := by
  have emptied := emptied_of_build built
  obtain ⟨graph, -, furnished⟩ := Pipeline.exists_furnished memory_exact constructed built
  have bounded : running.pipeline.inputs.length ≤ running.pipeline.inputCount := by
    rw [← reached]
    refine Pipeline.performAll_keeps (fun call _ => call.perform_keeps_bounded) ?_
    rw [emptied.inputs]
    exact Nat.zero_le _
  have contained : running.pipeline.Contained TermFilter.inputs :=
    reached ▸ Pipeline.performAll_keeps
      (fun call hm => Pipeline.perform_keeps_contained memory_exact call (tweaks call hm))
      emptied.contained
  have equipped : running.pipeline.Furnished TermFilter.inputs graph :=
    reached ▸ Pipeline.performAll_keeps (fun call hm =>
      Pipeline.perform_keeps_furnished memory_exact call
        ((tweaks call hm).imp fun _ _ h => congrArg List.length h)) furnished
  refine ⟨reached ▸ Call.inputs_performAll calls emptied.inputs, bounded, contained, ?_⟩
  constructor
  case appendInput => exact Call.appendInput_fails_iff bounded
  case appendOutputsOf => exact fun _ _ readable => Call.appendOutputsOf_fails_iff readable
  case unchanged =>
    exact ⟨fun _ ⟨_, h⟩ => Call.state_of_change_error h,
      fun _ ⟨_, h⟩ => Call.state_of_change_error h⟩
  case process => exact Pipeline.process_refused_iff memory_exact equipped
  case released => exact fun call => Pipeline.emptied_of_releases memory_exact
  case reset => exact congrArg (Running.mk · running.device) (reset_reset running.pipeline)

section Panorama

open Compile (plain pictured)
open Flat (picture)

/-- The picture as it is built behind the panorama, with a texture of its own. -/
def pictureBehind : Pipeline memory :=
  { pictured with targets := [⟨"rgba8", [⟨5, 4⟩]⟩] }

set_option maxRecDepth 10000 in
/-- It is built on the device of the panorama. -/
theorem pictureBehind_built :
    (Pipeline.build (B := memory) "picture" (picture plain) exposed.device).result =
      .ok pictureBehind := by
  cbv

/-- Calls on the panorama: a run fails for want of a texture, another one reads the output of the
picture, the outputs of the panorama itself are refused because they are two, and a texture is
appended. -/
def supplied : List (Call memory) :=
  [.useDevice exposed.device, .process, .appendOutputsOf pictureBehind, .process,
    .appendOutputsOf developed, .appendInput ⟨4, 3⟩]

/-- Two of these calls are refused. -/
theorem supplied_results :
    (Call.log supplied ⟨developed, Memory.fresh none⟩).map (fun entry => entry.2.isOk) =
      [true, false, true, true, false, true] := by
  cbv

/-- After these calls, of which two are refused, the panorama has the texture that was appended last
and no free input: it refuses another texture and the output of the picture. -/
theorem panorama_inputs : ∃ running : Running memory,
    (Pipeline.build (B := memory) "picture" (picture plain) exposed.device).result =
      .ok pictureBehind ∧
    Call.performAll supplied ⟨developed, Memory.fresh none⟩ = running ∧
    (Call.log supplied ⟨developed, Memory.fresh none⟩).map (fun entry => entry.2.isOk) =
      [true, false, true, true, false, true] ∧
    Call.appended (Call.sinceRelease (Call.log supplied ⟨developed, Memory.fresh none⟩)) =
      [⟨4, 3⟩] ∧
    running.pipeline.inputs = [⟨4, 3⟩] ∧ Answers running ∧
    (Call.appendInput (B := memory) ⟨3, 2⟩).Fails running ∧
    (Call.appendOutputsOf pictureBehind).Fails running := by
  have tweaks : ∀ call ∈ supplied, call.Tweaks fun filter after : TermFilter MemoryTexture =>
      after.inputs = filter.inputs := by simp [supplied, Call.Tweaks]
  obtain ⟨hinputs, -, -, answers⟩ := inputs_since_release panorama panorama_constructed "panorama"
    (Memory.fresh none) developed developed_built supplied tweaks (Memory.fresh none) _ rfl
  have happended : Call.appended (Call.sinceRelease
      (Call.log supplied ⟨developed, Memory.fresh none⟩)) = [⟨4, 3⟩] := by cbv
  rw [happended] at hinputs
  have hcount :
      (Call.performAll supplied ⟨developed, Memory.fresh none⟩).pipeline.inputCount = 1 := by cbv
  refine ⟨_, pictureBehind_built, rfl, supplied_results, happended, hinputs, answers, ?_, ?_⟩
  · rw [answers.appendInput, hinputs, hcount]
    rfl
  · rw [answers.appendOutputsOf pictureBehind [⟨5, 4⟩] rfl, hinputs, hcount]
    decide

end Panorama

end Device

end RenderGraph
