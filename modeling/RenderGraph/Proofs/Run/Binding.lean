import RenderGraph.Pipeline.Process
import RenderGraph.Proofs.Compile.Pool

/-!
# The turn of a filter

When it is the turn of a filter, the textures that the plan names are bound to its
inputs in port order. The filter is then rendered with these textures, whether or
not its time is taken.
-/

namespace RenderGraph

variable {B : Backend}

/-- Binds textures to the inputs of a filter from one on. -/
def Backend.bindFrom (B : Backend) (port : Nat) : List B.Texture → B.Filter → B.Filter
  | [], filter => filter
  | texture :: rest, filter => B.bindFrom (port + 1) rest (B.setInput port texture filter)

/-- Textures that are bound from one input on fill the slots behind those of the inputs before. -/
theorem Backend.Exact.slots_bindFrom {slots : B.Filter → List (Option B.Texture)}
    (exact : B.Exact slots) {port : Nat} {textures : List B.Texture} {filter : B.Filter}
    (hl : (slots filter).length = port + textures.length) :
    slots (B.bindFrom port textures filter) = (slots filter).take port ++ textures.map some := by
  induction textures generalizing port filter with
  | nil =>
    have htake : (slots filter).take port = slots filter :=
      List.take_of_length_le (Nat.le_of_eq hl)
    rw [Backend.bindFrom, htake, List.map_nil, List.append_nil]
  | cons texture rest ih =>
    rw [List.length_cons] at hl
    have hlt : port < (slots filter).length := by omega
    have hbound : (slots (B.setInput port texture filter)).length = port + 1 + rest.length := by
      rw [exact.setInput, List.length_set]
      omega
    have htake : (slots (B.setInput port texture filter)).take (port + 1) =
        (slots filter).take port ++ [some texture] := by
      rw [exact.setInput, List.take_add_one, List.take_set_of_le (Nat.le_refl port),
        List.getElem?_set_self hlt]
      rfl
    rw [Backend.bindFrom, ih hbound, htake, List.append_assoc, List.map_cons]
    rfl

namespace Pipeline

variable {pipeline : Pipeline B} {index : Nat} {filters : List B.Filter} {filter : B.Filter}

/-- The textures that are found for the bindings of a filter. -/
def Reads (pipeline : Pipeline B) : List Schedule.Binding → List B.Texture → Prop :=
  List.Forall₂ fun binding texture => pipeline.boundTexture binding = .ok texture

/-- Binding one input changes only the filter. -/
theorem bindInput_eq {binding : Schedule.Binding} {texture : B.Texture}
    (found : pipeline.boundTexture binding = .ok texture) (port : Nat)
    (hf : filters[index]? = some filter) (device : B.State) :
    pipeline.bindInput index port binding ⟨filters, device⟩ =
      ⟨⟨filters.set index (B.setInput port texture filter), device⟩, [], .ok ()⟩ := by
  have hset : filters.modify index (B.setInput port texture) =
      filters.set index (B.setInput port texture filter) := by
    rw [List.modify_eq_set_getElem?, hf]
    rfl
  simp [bindInput, Action.ofExcept, found, Bind.bind, Action.bind, Action.modify, hset]

/-- From one input on, the textures of the bindings are bound in port order. -/
theorem bindInputs_from {bindings : List Schedule.Binding} {textures : List B.Texture}
    (found : pipeline.Reads bindings textures) (port : Nat) (hf : filters[index]? = some filter)
    (device : B.State) :
    ((bindings.zipIdx port).forM fun entry => pipeline.bindInput index entry.2 entry.1)
        ⟨filters, device⟩ =
      ⟨⟨filters.set index (B.bindFrom port textures filter), device⟩, [], .ok ()⟩ := by
  induction found generalizing port filters filter with
  | nil =>
    obtain ⟨hlt, rfl⟩ := List.getElem?_eq_some_iff.mp hf
    rw [Backend.bindFrom, List.set_getElem_self]
    rfl
  | @cons binding texture bindings textures hb _ ih =>
    have hlt := (List.getElem?_eq_some_iff.mp hf).1
    have hself : (filters.set index (B.setInput port texture filter))[index]? =
        some (B.setInput port texture filter) := List.getElem?_set_self hlt
    have hrest := ih (port + 1) hself
    rw [List.set_set] at hrest
    rw [List.zipIdx_cons, List.forM]
    simp only [Bind.bind, Action.bind, bindInput_eq hb port hf device]
    exact hrest

/-- The textures of all bindings are bound. -/
theorem bindInputs_eq {bindings : List Schedule.Binding} {textures : List B.Texture}
    (found : pipeline.Reads bindings textures) (hf : filters[index]? = some filter)
    (device : B.State) :
    pipeline.bindInputs index bindings ⟨filters, device⟩ =
      ⟨⟨filters.set index (B.bindFrom 0 textures filter), device⟩, [], .ok ()⟩ :=
  bindInputs_from found 0 hf device

/-- What is left of the turn of a filter once its inputs are bound. -/
def renderBound (pipeline : Pipeline B) (index : Nat) (path : String) (filter : B.Filter)
    (target : B.Target) : Action (Progress B) Fault (List Sample) :=
  onDevice <|
    if pipeline.monitor.isEnabled then renderTimed index path filter target
    else renderUntimed path filter target

/-- The turn of a filter whose textures and target are found. -/
theorem renderFilter_eq {planned : PlannedFilter} {textures : List B.Texture} {target : B.Target}
    (hplanned : pipeline.plan.filters[index]? = some planned)
    (found : pipeline.Reads planned.inputs textures) (hf : filters[index]? = some filter)
    (ht : pipeline.targets[planned.target]? = some target) (device : B.State) :
    (pipeline.renderFilter index ⟨filters, device⟩).result =
        (pipeline.renderBound index planned.path (B.bindFrom 0 textures filter) target
          ⟨filters.set index (B.bindFrom 0 textures filter), device⟩).result ∧
      (pipeline.renderFilter index ⟨filters, device⟩).state =
        (pipeline.renderBound index planned.path (B.bindFrom 0 textures filter) target
          ⟨filters.set index (B.bindFrom 0 textures filter), device⟩).state := by
  have hlt := (List.getElem?_eq_some_iff.mp hf).1
  have hself : (filters.set index (B.bindFrom 0 textures filter))[index]? =
      some (B.bindFrom 0 textures filter) := List.getElem?_set_self hlt
  simp only [renderFilter, hplanned, Bind.bind, Action.bind, Action.report, Action.get,
    bindInputs_eq found hf, hself, ht]
  exact ⟨rfl, rfl⟩

section Turns

/-- What each turn does to the filters that had theirs and to their times, a run does for all its
filters, and it fails as one of the turns does. -/
theorem renderAll_ends (pipeline : Pipeline B) {J : List Nat → List Sample → Progress B → Prop}
    {F : Fault → Progress B → Prop} (order : List Nat)
    (h : ∀ done samples, ∀ i ∈ order, (pipeline.renderFilter i).Ends (J done samples)
      (fun more => J (done ++ [i]) (samples ++ more)) F)
    (done : List Nat) (samples : List Sample) : (pipeline.renderAll order).Ends (J done samples)
      (fun more => J (done ++ order) (samples ++ more)) F := by
  induction order generalizing done samples with
  | nil =>
    rw [renderAll]
    exact .pure fun progress hj => by rwa [List.append_nil, List.append_nil]
  | cons i rest ih =>
    rw [renderAll]
    have hrest := ih fun done samples j hj => h done samples j (List.mem_cons_of_mem i hj)
    refine (h done samples i List.mem_cons_self).bind fun more => ?_
    refine (hrest (done ++ [i]) (samples ++ more)).bind fun last => .pure fun progress hj => ?_
    simpa only [List.append_assoc, List.singleton_append] using hj

/-- The turn of a filter and those after it, if all of them come to an end. -/
theorem renderAll_cons {i : Nat} {rest : List Nat} {start : Progress B}
    {samples more : List Sample} (hi : (pipeline.renderFilter i start).result = .ok samples)
    (hr : (pipeline.renderAll rest (pipeline.renderFilter i start).state).result = .ok more) :
    (pipeline.renderAll (i :: rest) start).result = .ok (samples ++ more) ∧
      (pipeline.renderAll (i :: rest) start).state =
        (pipeline.renderAll rest (pipeline.renderFilter i start).state).state := by
  obtain ⟨hresult, hstate⟩ := Action.bind_of_ok hi fun samples =>
    pipeline.renderAll rest >>= fun more => pure (samples ++ more)
  obtain ⟨hlast, hleft⟩ := Action.bind_of_ok hr fun more => (pure (samples ++ more) :
    Action (Progress B) Fault (List Sample))
  rw [renderAll, hresult, hstate, hlast, hleft]
  exact ⟨rfl, rfl⟩

/-- Rendering that fails does so in the turn of some filter, after the turns before it. -/
theorem exists_of_renderAll_error {order : List Nat} {start : Progress B} {fault : Fault}
    (h : (pipeline.renderAll order start).result = .error fault) :
    ∃ done i rest samples, order = done ++ i :: rest ∧
      (pipeline.renderAll done start).result = .ok samples ∧
      (pipeline.renderFilter i (pipeline.renderAll done start).state).result = .error fault ∧
      (pipeline.renderAll order start).state =
        (pipeline.renderFilter i (pipeline.renderAll done start).state).state := by
  induction order generalizing start with
  | nil => cases h
  | cons i rest ih =>
    rw [renderAll] at h ⊢
    cases hi : (pipeline.renderFilter i start).result with
    | error e =>
      rw [Action.bind_of_error hi] at h
      obtain rfl := Except.error.inj h
      exact ⟨[], i, rest, [], rfl, rfl, hi, Action.state_of_error hi _⟩
    | ok samples =>
      obtain ⟨hresult, hstate⟩ := Action.bind_of_ok hi fun samples =>
        pipeline.renderAll rest >>= fun more => pure (samples ++ more)
      rw [hresult] at h
      rw [hstate]
      cases hr : (pipeline.renderAll rest (pipeline.renderFilter i start).state).result with
      | ok more =>
        rw [(Action.bind_of_ok hr _).1] at h
        cases h
      | error e =>
        rw [Action.bind_of_error hr] at h
        obtain rfl := Except.error.inj h
        obtain ⟨done, j, after, earlier, rfl, hdone, hj, hlast⟩ := ih hr
        -- The turns before the failure are the first one and those before it in the rest.
        obtain ⟨hok, hsame⟩ := renderAll_cons hi hdone
        refine ⟨i :: done, j, after, samples ++ earlier, rfl, hok, ?_, ?_⟩
        · rw [hsame, hj]
        · rw [Action.state_of_error hr, hlast, hsame]

end Turns

end Pipeline

end RenderGraph
