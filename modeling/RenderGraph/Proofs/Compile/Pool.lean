import RenderGraph.Gpu.Device
import RenderGraph.Proofs.Compile.Buildable

/-!
# The pool that is planned and the pool that is allocated

The scheduler counts attachments while it hands out render targets; the compiler
creates a target for its first user and lets it grow for the others. Both arrive
at the number of outputs of the most demanding user, so on a device that does
exactly what it is told every planned binding leads to an attachment that is
there.
-/

namespace RenderGraph

variable {B : Backend}

/-- Where a device succeeds it does exactly what it is told. A filter has a slot for each of its
inputs, and a texture that is bound stands in its slot until all slots are emptied. A target has the
format and the attachments that were asked for, and grows by one attachment at a time. A filter can
render into any target of its format. -/
structure Backend.Exact (B : Backend) (slots : B.Filter → List (Option B.Texture)) : Prop where
  /-- A new filter has a slot for each input. -/
  createFilter : ∀ spec state filter, (B.createFilter spec state).result = .ok filter →
    (slots filter).length = spec.inputs.size
  /-- A texture is bound by putting it into a slot. -/
  setInput : ∀ port texture filter,
    slots (B.setInput port texture filter) = (slots filter).set port (some texture)
  /-- Unbinding empties all slots. -/
  clearInputs : ∀ filter, slots (B.clearInputs filter) = (slots filter).map fun _ => none
  /-- A new target has the format and the number of attachments. -/
  createTarget : ∀ format attachments state target,
    (B.createTarget format attachments state).result = .ok target →
      B.targetFormat target = format ∧ (B.attachments target).length = attachments
  /-- A target that grows has one attachment more, of the same format. -/
  addAttachment : ∀ target state grown, (B.addAttachment target state).result = .ok grown →
    B.targetFormat grown = B.targetFormat target ∧
      (B.attachments grown).length = (B.attachments target).length + 1
  /-- A filter can render into targets of its format. -/
  matchesFormat : ∀ target filter, B.targetFormat target = B.outputFormat filter →
    B.matchesFormat target filter = true

/-- The device in memory does exactly what it is told. -/
theorem Device.memory_exact : Device.memory.Exact Device.TermFilter.inputs where
  createFilter := by
    intro spec device filter h
    simp only [Memory.createFilter] at h
    split at h
    · cases h
    · obtain rfl := Except.ok.inj h
      exact List.length_replicate
  setInput := fun _ _ _ => rfl
  clearInputs := fun _ => rfl
  createTarget := by
    intro format attachments device target h
    have hmade : ∀ n (device : Memory), (Memory.textures n device).1.length = n := by
      intro n
      induction n with
      | zero => exact fun _ => rfl
      | succ n ih => exact fun device => congrArg Nat.succ (ih _)
    obtain rfl := Except.ok.inj h
    exact ⟨rfl, hmade attachments _⟩
  addAttachment := by
    intro target device grown h
    obtain rfl := Except.ok.inj h
    exact ⟨rfl, List.length_append⟩
  matchesFormat := fun _ _ h => decide_eq_true h

/-- So does the GPU. -/
theorem Gpu.backend_exact : Gpu.backend.Exact Gpu.Filter.inputs where
  createFilter := by
    intro spec device filter h
    simp only [Gpu.Device.createFilter] at h
    split at h
    · obtain rfl := Except.ok.inj h
      exact List.length_replicate
    · cases h
  setInput := fun _ _ _ => rfl
  clearInputs := fun _ => rfl
  createTarget := by
    intro format attachments device target h
    obtain rfl := Except.ok.inj h
    exact ⟨rfl, List.length_replicate⟩
  addAttachment := by
    intro target device grown h
    obtain rfl := Except.ok.inj h
    exact ⟨rfl, List.length_append⟩
  matchesFormat := fun _ _ h => decide_eq_true h

/-- What a binding names is among the inputs and the render targets of a plan. -/
def Plan.Provides (plan : Plan) : Schedule.Binding → Prop
  | .input port => port < plan.inputs.length
  | .attachment target index =>
    ∃ planned, plan.targets[target]? = some planned ∧ index < planned.attachments

/-- Nothing in a plan leads out of range. -/
structure Plan.Bounded (plan : Plan) : Prop where
  /-- Only filters of the plan are scheduled. -/
  order : ∀ i ∈ plan.schedule, i < plan.filters.length
  /-- Every filter has a planned target. -/
  housed : ∀ planned ∈ plan.filters, planned.target < plan.targets.length
  /-- Every input of a filter is bound to something that is there. -/
  bound : ∀ planned ∈ plan.filters, ∀ binding ∈ planned.inputs, plan.Provides binding
  /-- Every output is bound to an attachment that is there. -/
  outputs : ∀ output ∈ plan.outputs, ∃ target index,
    output.binding = .attachment target index ∧ plan.Provides (.attachment target index)

namespace Compile

open Schedule (Problem State Solution Finished)

variable {slots : B.Filter → List (Option B.Texture)} {layout : Layout B.Descriptor}
  {graph : Flat.Graph B.Descriptor} {filters : List B.Filter}

/-- A filter on the device has a slot for each input of its description. -/
def Slotted (slots : B.Filter → List (Option B.Texture)) (flat : Flat.Filter B.Descriptor)
    (filter : B.Filter) : Prop :=
  (slots filter).length = flat.spec.inputs.size

/-- A target on the device has the format and the attachments of a planned one. -/
structure Allotted (planned : Schedule.Target B.Format) (target : B.Target) : Prop where
  /-- The format is the same. -/
  format : B.targetFormat target = planned.format
  /-- The number of attachments is the same. -/
  attachments : (B.attachments target).length = planned.attachments

section Creation

variable (exact : B.Exact slots)
include exact

/-- A target grows until it has the attachments that are needed, and not further. -/
theorem growFor_exact (id outputs : Nat) (target : B.Target) :
    (growFor id target outputs).Ends (fun _ => True)
      (fun grown _ => B.targetFormat grown = B.targetFormat target ∧
        (B.attachments grown).length = max (B.attachments target).length outputs)
      fun _ _ => True := by
  -- Before each round there are at least the attachments of the target, and not too many.
  have round : ∀ current : B.Target, decide ((B.attachments current).length < outputs) = true →
      ((B.addAttachment current).mapError (deviceError B (.growingTarget id))).Ends
        (fun _ => B.targetFormat current = B.targetFormat target ∧
          (B.attachments target).length ≤ (B.attachments current).length ∧
          (B.attachments current).length ≤ max (B.attachments target).length outputs)
        (fun grown _ => (B.targetFormat grown = B.targetFormat target ∧
          (B.attachments target).length ≤ (B.attachments grown).length ∧
          (B.attachments grown).length ≤ max (B.attachments target).length outputs) ∧
          outputs - (B.attachments grown).length < outputs - (B.attachments current).length)
        fun _ _ => True := by
    intro current hm
    have hlt := of_decide_eq_true hm
    refine .mapError fun state hc => ⟨fun grown h => ?_, fun _ _ => trivial⟩
    obtain ⟨hf, hleast, hmost⟩ := hc
    obtain ⟨hformat, hcount⟩ := exact.addAttachment current state grown h
    exact ⟨⟨hformat.trans hf, by omega, by omega⟩, by omega⟩
  intro state _
  refine ⟨fun grown h => ?_, fun _ _ => trivial⟩
  obtain ⟨⟨hformat, hleast, hmost⟩, hdone⟩ := (Action.Ends.repeatWhile round target state
    ⟨rfl, Nat.le_refl _, Nat.le_max_left _ _⟩).1 grown h
  have henough := Nat.le_of_not_lt (of_decide_eq_false hdone)
  exact ⟨hformat, by omega⟩

/-- A planned target is allocated with as many attachments as its most demanding user has
outputs. -/
theorem allocate_exact (graph : Flat.Graph B.Descriptor) (id : Nat)
    (planned : Schedule.Target B.Format) :
    (allocate graph id planned).Ends (fun _ => True)
      (fun target _ => B.targetFormat target = planned.format ∧
        (B.attachments target).length = (planned.users.map (outputsOf graph)).foldl max 0)
      fun _ _ => True := by
  rw [allocate]
  cases planned.users.map (outputsOf graph) with
  | nil => exact fun state _ => Action.ends_of_error trivial
  | cons first rest =>
    have hcreate : ((B.createTarget planned.format first).mapError
        (deviceError B (.allocatingTarget id))).Ends (fun _ => True)
        (fun target _ => B.targetFormat target = planned.format ∧
          (B.attachments target).length = first) fun _ _ => True :=
      .mapError fun state _ => ⟨fun target h => exact.createTarget _ _ _ _ h, fun _ _ => trivial⟩
    refine hcreate.bind fun target => ?_
    have hgrow : (rest.foldlM (growFor id) target).Ends
        (fun _ => B.targetFormat target = planned.format ∧ (B.attachments target).length = first)
        (fun grown _ => B.targetFormat grown = planned.format ∧
          (B.attachments grown).length = rest.foldl max first) fun _ _ => True := by
      refine Action.Ends.foldlM
        (I := fun done target _ => B.targetFormat target = planned.format ∧
          (B.attachments target).length = done.foldl max first)
        (fun done target outputs _ => ?_) [] target
      rintro state ⟨hformat, hlength⟩
      refine ⟨fun grown h => ?_, fun _ _ => trivial⟩
      obtain ⟨hf, hl⟩ := (growFor_exact exact id outputs target state trivial).1 grown h
      rw [List.foldl_append, List.foldl_cons, List.foldl_nil, ← hlength]
      exact ⟨hf.trans hformat, hl⟩
    rw [List.foldl_cons, Nat.zero_max]
    exact hgrow

end Creation

section Plans

variable {outputs : Ports} {final : State B.Format} {schedule : Solution B.Format}

/-- The scheduler counts the outputs of the filters of the graph. -/
theorem outputCount_eq (hl : filters.length = graph.filters.length) :
    (problem graph filters).outputCount = outputsOf graph := by
  funext i
  rw [Problem.outputCount, outputsOf]
  cases hg : graph.filters[i]? with
  | none =>
    have ht : (problem graph filters).tasks[i]? = none := by
      simp only [problem, List.getElem?_zipWith, hg]
    rw [ht]
    rfl
  | some flat =>
    obtain ⟨filter, ht⟩ := exists_task hl hg
    rw [ht]
    rfl

/-- Of the numbers in a list that is not empty the largest is found by going through it. -/
theorem isGreatest_foldl_max {list : List Nat} (h : list ≠ []) :
    IsGreatest { n | n ∈ list } (list.foldl max 0) := by
  refine ⟨?_, fun n hn => Schedule.le_foldl_max hn 0⟩
  have hmem : ∀ (rest : List Nat) (first : Nat), rest.foldl max first ∈ first :: rest := by
    intro rest
    induction rest with
    | nil => exact fun first => List.mem_singleton_self first
    | cons n rest ih =>
      intro first
      rw [List.foldl_cons]
      rcases List.mem_cons.mp (ih (max first n)) with he | hm
      · rw [he]
        rcases Nat.le_total first n with hle | hle
        · simp [Nat.max_eq_right hle]
        · simp [Nat.max_eq_left hle]
      · exact List.mem_cons_of_mem _ (List.mem_cons_of_mem _ hm)
  cases list with
  | nil => exact absurd rfl h
  | cons first rest =>
    rw [List.foldl_cons, Nat.zero_max]
    exact hmem rest first

/-- A planned filter is a filter of the graph with its target and its bindings. -/
theorem getElem?_planned {name : String} {i : Nat} {planned : PlannedFilter} :
    (plan name layout graph schedule).filters[i]? = some planned ↔ ∃ flat,
      graph.filters[i]? = some flat ∧ planned = ⟨i, flat.path, flat.spec.typeName,
        schedule.assignments[i]?.getD 0, schedule.bindings[i]?.getD []⟩ := by
  simp only [plan, List.getElem?_map, List.getElem?_zipIdx]
  cases graph.filters[i]? <;> simp [eq_comm]

end Plans

section Bounds

variable {final : State B.Format} {schedule : Solution B.Format}
  (constructed : layout.Constructed) (flattened : Flat.Flattened layout graph)
  (hl : filters.length = graph.filters.length)
  (complete : final.Complete (problem graph filters))
  (finished : Finished (problem graph filters) layout.outputs final schedule)

section Allotment

include hl complete finished

/-- Each planned target is allocated as it is planned. -/
theorem allocateAll_exact (exact : B.Exact slots) :
    (schedule.targets.zipIdx.mapM fun (planned, id) => allocate graph id planned).Ends
      (fun _ => True)
      (fun targets _ => True ∧ List.Forall₂
        (fun (entry : Schedule.Target B.Format × Nat) target => Allotted entry.1 target)
        schedule.targets.zipIdx targets)
      fun _ _ => True := by
  refine Action.Ends.mapM (I := fun _ _ => True) (fun _ entry hm => ?_) []
  obtain ⟨planned, id⟩ := entry
  have hp := List.mem_of_getElem? (List.mem_zipIdx_iff_getElem?.mp hm)
  refine (allocate_exact exact graph id planned).imp (fun target _ h => ⟨trivial, h.1, ?_⟩)
    fun _ _ _ => trivial
  rw [h.2, finished.attachments_eq complete hp, outputCount_eq hl]

/-- A planned target has as many attachments as its most demanding user has outputs. -/
theorem isGreatest_attachments {target : Schedule.Target B.Format} (h : target ∈ schedule.targets) :
    IsGreatest { n | ∃ user ∈ target.users, outputsOf graph user = n } target.attachments := by
  rw [finished.attachments_eq complete h, outputCount_eq hl]
  have hne : target.users.map (outputsOf graph) ≠ [] := fun he =>
    finished.users_ne_nil complete h (List.map_eq_nil_iff.mp he)
  simpa only [List.mem_map] using isGreatest_foldl_max hne

end Allotment

include constructed flattened in
/-- A connection from the boundary starts at an input of the layout. -/
theorem input_lt {c : Connection Anchor} (hc : c ∈ graph.connections) (hs : c.source = .boundary) :
    c.sourcePort < layout.inputs.size := by
  obtain ⟨e, he, ho⟩ := (flattened.read _ _ Flat.stands_boundary c.sourcePort).mp
    ⟨c, hc, Prod.ext hs rfl⟩
  obtain ⟨hn, hp⟩ := Prod.mk.inj ho
  exact hp ▸ he.input_lt constructed hn

include constructed flattened hl complete finished

/-- What a connection carries is found where the plan says. -/
theorem provides_of_bindingOf? (name : String) {c : Connection Anchor}
    (hc : c ∈ graph.connections) {binding : Schedule.Binding}
    (hb : Schedule.bindingOf? schedule c = some binding) :
    (plan name layout graph schedule).Provides binding := by
  unfold Schedule.bindingOf? at hb
  cases hs : c.source with
  | boundary =>
    rw [hs] at hb
    obtain rfl := Option.some.inj hb
    exact input_lt constructed flattened hc hs
  | member producer =>
    rw [hs] at hb
    obtain ⟨id, hid, rfl⟩ := Option.map_eq_some_iff.mp hb
    obtain ⟨task, htask, hlt⟩ := (wellFormed constructed flattened hl).source c hc producer hs
    obtain ⟨id', planned, hid', hplanned, -, hroom⟩ := finished.exists_target complete htask
    obtain rfl := Option.some.inj (hid.symm.trans hid')
    refine ⟨⟨id, B.formatText planned.format, planned.attachments, planned.users⟩, ?_,
      Nat.lt_of_lt_of_le hlt hroom⟩
    simp [plan, List.getElem?_zipIdx, hplanned]

/-- A planned filter has a binding for each of its inputs and a target with enough attachments for
its outputs. -/
theorem exists_provision (name : String) {i : Nat} {planned : PlannedFilter}
    (h : (plan name layout graph schedule).filters[i]? = some planned) : ∃ flat target,
    graph.filters[i]? = some flat ∧ schedule.targets[planned.target]? = some target ∧
      flat.spec.outputs.size ≤ target.attachments ∧
      planned.inputs.length = flat.spec.inputs.size ∧
      ∀ binding ∈ planned.inputs, (plan name layout graph schedule).Provides binding := by
  obtain ⟨flat, hflat, rfl⟩ := getElem?_planned.mp h
  obtain ⟨filter, htask⟩ := exists_task hl hflat
  obtain ⟨id, target, hid, htarget, -, hroom⟩ := finished.exists_target complete htask
  obtain ⟨bindings, hb, hlength, hports⟩ :=
    finished.exists_bindings complete (wellFormed constructed flattened hl) htask
  refine ⟨flat, target, hflat, ?_, hroom, ?_, ?_⟩
  · simpa only [hid, Option.getD_some] using htarget
  · simp only [hb, Option.getD_some]
    exact hlength
  · intro binding hm
    simp only [hb, Option.getD_some] at hm
    obtain ⟨port, hp⟩ := List.mem_iff_getElem?.mp hm
    have hlt := (List.getElem?_eq_some_iff.mp hp).1
    obtain ⟨c, honly, hbinding⟩ := hports port (hlength ▸ hlt)
    exact provides_of_bindingOf? constructed flattened hl complete finished name
      ((honly c).mpr rfl).1 (hbinding.symm.trans hp)

/-- The plan of a schedule leads nowhere out of range. -/
theorem plan_bounded (name : String) : (plan name layout graph schedule).Bounded := by
  constructor
  case order =>
    intro i hi
    have hrange := complete.sound.range i (finished.order ▸ hi)
    have ht := List.getElem?_eq_getElem hrange
    obtain ⟨flat, -, hflat, -⟩ := getElem?_tasks.mp ht
    simpa [plan] using (List.getElem?_eq_some_iff.mp hflat).1
  case housed =>
    intro planned hm
    obtain ⟨i, hi⟩ := List.mem_iff_getElem?.mp hm
    obtain ⟨-, target, -, htarget, -⟩ :=
      exists_provision constructed flattened hl complete finished name hi
    simpa [plan] using (List.getElem?_eq_some_iff.mp htarget).1
  case bound =>
    intro planned hm
    obtain ⟨i, hi⟩ := List.mem_iff_getElem?.mp hm
    obtain ⟨-, -, -, -, -, -, hprovides⟩ :=
      exists_provision constructed flattened hl complete finished name hi
    exact hprovides
  case outputs =>
    intro output hm
    obtain ⟨port, hport⟩ := List.mem_iff_getElem?.mp hm
    simp only [plan, List.getElem?_zipWith_eq_some] at hport
    obtain ⟨title, binding, htitle, hbinding, rfl⟩ := hport
    have hlt : port < layout.outputs.size := (List.getElem?_eq_some_iff.mp htitle).1
    obtain ⟨c, producer, honly, hs, hb⟩ :=
      finished.exists_output (wellFormed constructed flattened hl) hlt
    have hresolved := hb.symm.trans hbinding
    have hprovides := provides_of_bindingOf? constructed flattened hl complete finished name
      ((honly c).mpr rfl).1 hresolved
    rw [Schedule.bindingOf?, hs] at hresolved
    obtain ⟨target, -, rfl⟩ := Option.map_eq_some_iff.mp hresolved
    exact ⟨target, c.sourcePort, rfl, hprovides⟩

end Bounds

end Compile

end RenderGraph
