import RenderGraph.Proofs.Action
import RenderGraph.Proofs.Compile.Problem
import RenderGraph.Proofs.Schedule.Faithful

/-!
# Compiling on a device that does what it is told

On a device that reports no error and gives targets the format that is asked for,
compiling succeeds as soon as the layout is flattened and scheduled.
-/

namespace RenderGraph

variable {B : Backend}

/-- In every state of a kind the device does what it is told: it creates filters and targets
without an error, targets have the format that was asked for, and adding an attachment to a target
gives it more of them. -/
structure Backend.Reliable (B : Backend) (good : B.State → Prop) : Prop where
  /-- Filters can be created. -/
  createFilter : ∀ spec, (B.createFilter spec).Succeeds good fun _ state => good state
  /-- Targets can be created and have the format. -/
  createTarget : ∀ format attachments, (B.createTarget format attachments).Succeeds good
    fun target state => good state ∧ B.targetFormat target = format
  /-- Attachments can be added, which counts, and do not change the format. -/
  addAttachment : ∀ target, (B.addAttachment target).Succeeds good fun grown state =>
    good state ∧ B.targetFormat grown = B.targetFormat target ∧
      (B.attachments target).length < (B.attachments grown).length
  /-- A filter can render into targets of its format. -/
  matchesFormat : ∀ target filter, B.targetFormat target = B.outputFormat filter →
    B.matchesFormat target filter = true

namespace Compile

open Schedule (Problem State Solution Finished)

variable {layout : Layout B.Descriptor} {graph : Flat.Graph B.Descriptor} {filters : List B.Filter}
  {good : B.State → Prop}

section Targets

/-- A target grows until its user fits, because each attachment that is added counts. Its format
does not change. -/
theorem growFor_succeeds (reliable : B.Reliable good) (id outputs : Nat) (target : B.Target) :
    (growFor id target outputs).Succeeds good
      fun grown state => good state ∧ B.targetFormat grown = B.targetFormat target := by
  have round : ∀ current : B.Target,
      decide ((B.attachments current).length < outputs) = true →
      ((B.addAttachment current).mapError (deviceError B (.growingTarget id))).Succeeds
        (fun state => good state ∧ B.targetFormat current = B.targetFormat target)
        fun grown state => (good state ∧ B.targetFormat grown = B.targetFormat target) ∧
          outputs - (B.attachments grown).length < outputs - (B.attachments current).length := by
    intro current hm state ⟨hs, hf⟩
    have hlt := of_decide_eq_true hm
    obtain ⟨grown, hok, hs', hformat, hcount⟩ :=
      (reliable.addAttachment current).mapError (deviceError B (.growingTarget id)) state hs
    exact ⟨grown, hok, ⟨hs', hformat.trans hf⟩, by omega⟩
  intro state hs
  obtain ⟨grown, hok, hgrown, -⟩ := Action.Succeeds.repeatWhile round target state ⟨hs, rfl⟩
  exact ⟨grown, hok, hgrown⟩

/-- A planned target with a user is allocated in its format. -/
theorem allocate_succeeds (reliable : B.Reliable good) (graph : Flat.Graph B.Descriptor) (id : Nat)
    {planned : Schedule.Target B.Format} (hu : planned.users ≠ []) :
    (allocate graph id planned).Succeeds good
      fun target state => good state ∧ B.targetFormat target = planned.format := by
  rw [Compile.allocate]
  cases hm : planned.users.map (outputsOf graph) with
  | nil => exact absurd (List.map_eq_nil_iff.mp hm) hu
  | cons first rest =>
    refine ((reliable.createTarget planned.format first).mapError _).bind fun target => ?_
    refine Action.Succeeds.foldlM
      (I := fun _ target state => good state ∧ B.targetFormat target = planned.format)
      (fun _ target outputs _ => ?_) [] target
    intro state ⟨hs, hf⟩
    rw [← hf]
    exact growFor_succeeds reliable id outputs target state hs

/-- All planned targets are allocated in their formats. -/
theorem allocateAll_succeeds (reliable : B.Reliable good) (graph : Flat.Graph B.Descriptor)
    {targets : List (Schedule.Target B.Format)} (hu : ∀ planned ∈ targets, planned.users ≠ []) :
    (targets.zipIdx.mapM fun (planned, id) => allocate graph id planned).Succeeds good
      fun allocated state => good state ∧ List.Forall₂
        (fun (entry : Schedule.Target B.Format × Nat) target =>
          B.targetFormat target = entry.1.format) targets.zipIdx allocated := by
  refine Action.Succeeds.mapM (I := fun _ state => good state) (fun _ entry hm => ?_) []
  obtain ⟨planned, id⟩ := entry
  have hp := List.mem_of_getElem? (List.mem_zipIdx_iff_getElem?.mp hm)
  exact allocate_succeeds reliable graph id (hu planned hp)

end Targets

section Formats

variable {outputs : Ports} {final : State B.Format} {schedule : Solution B.Format}

/-- The target that a filter is assigned is planned, and the filter is one of its users. -/
theorem exists_planned (complete : final.Complete (problem graph filters))
    (finished : Finished (problem graph filters) outputs final schedule) {i id : Nat}
    (h : schedule.assignments[i]? = some id) :
    ∃ lease, final.leases[id]? = some lease ∧ i ∈ lease.users ∧
      schedule.targets.zipIdx[id]? = some (lease.toTarget, id) := by
  have ha := finished.assigned.mp h
  have hl := complete.sound.leased i id ha
  have hlease := List.getElem?_eq_getElem hl
  exact ⟨_, hlease, complete.sound.mem_users hlease ha, by simp [finished.targets, hl]⟩

/-- Every filter has a target of its format. -/
theorem checkFormats_eq_ok (fits : ∀ target filter, B.targetFormat target = B.outputFormat filter →
      B.matchesFormat target filter = true) (complete : final.Complete (problem graph filters))
    (finished : Finished (problem graph filters) outputs final schedule) {targets : List B.Target}
    (hf : List.Forall₂ (fun (entry : Schedule.Target B.Format × Nat) target =>
      B.targetFormat target = entry.1.format) schedule.targets.zipIdx targets) :
    checkFormats graph filters targets schedule.assignments = .ok () := by
  refine forM_eq_ok_iff.mpr ?_
  rintro ⟨⟨flat, filter⟩, id⟩ hm
  obtain ⟨i, hi⟩ := List.mem_iff_getElem?.mp hm
  obtain ⟨hpair, hid⟩ := List.getElem?_zip_eq_some.mp hi
  obtain ⟨hflat, hfilter⟩ := List.getElem?_zip_eq_some.mp hpair
  have ht := getElem?_tasks.mpr ⟨flat, filter, hflat, hfilter, rfl⟩
  obtain ⟨lease, hlease, huser, hplanned⟩ := exists_planned complete finished hid
  have hformat := (complete.sound.kept id lease hlease).format i huser _ ht
  obtain ⟨target, hg, htarget⟩ := getElem?_of_forall₂ hf hplanned
  have hmatch := fits target filter (htarget.trans hformat.symm)
  simp only [checkFormat, hg, hmatch, if_true]

end Formats

section Invariants

variable {I : B.State → Prop}

/-- Allocating a target keeps what creating targets and adding attachments keep, if each attachment
that is added counts. -/
theorem allocate_keeps (create : ∀ format attachments, (B.createTarget format attachments).Keeps I)
    (add : ∀ target, (B.addAttachment target).Keeps I)
    (counts : ∀ target state grown, (B.addAttachment target state).result = .ok grown →
      (B.attachments target).length < (B.attachments grown).length)
    (graph : Flat.Graph B.Descriptor) (id : Nat) (planned : Schedule.Target B.Format) :
    (allocate graph id planned).Keeps I := by
  have grow : ∀ (target : B.Target) outputs, (growFor id target outputs).Keeps I := by
    intro target outputs
    refine .repeatWhile (fun current => outputs - (B.attachments current).length)
      (fun current => (add current).mapError _) (fun current state grown hm h => ?_) target
    have hlt := of_decide_eq_true hm
    have hcount := counts current state grown (Action.mapError_eq_ok_iff.mp h)
    omega
  rw [Compile.allocate]
  cases planned.users.map (outputsOf graph) with
  | nil => exact .of_state_eq fun _ => rfl
  | cons first rest =>
    refine .bind ((create planned.format first).mapError _) fun target => ?_
    exact .foldlM grow rest target

/-- Compiling keeps what creating filters and targets and adding attachments keep, whether or not it
succeeds. -/
theorem compile_keeps (filter : ∀ spec, (B.createFilter spec).Keeps I)
    (create : ∀ format attachments, (B.createTarget format attachments).Keeps I)
    (add : ∀ target, (B.addAttachment target).Keeps I)
    (counts : ∀ target state grown, (B.addAttachment target state).result = .ok grown →
      (B.attachments target).length < (B.attachments grown).length)
    (name : String) (layout : Layout B.Descriptor) : (compile name layout).Keeps I := by
  rw [compile]
  refine .bind (.of_state_eq fun _ => rfl) fun _ => ?_
  refine .bind (.of_state_eq fun _ => rfl) fun graph => ?_
  have created : ∀ flat, (createFilter (B := B) flat).Keeps I :=
    fun flat => (filter flat.spec).mapError _
  refine .bind (.mapM created graph.filters) fun filters => ?_
  refine .bind (.of_state_eq fun _ => rfl) fun _ => ?_
  refine .bind (.of_state_eq fun _ => rfl) fun schedule => ?_
  have allocated : ∀ entry : Schedule.Target B.Format × Nat,
      (allocate graph entry.2 entry.1).Keeps I :=
    fun entry => allocate_keeps create add counts graph entry.2 entry.1
  refine .bind (.mapM allocated schedule.targets.zipIdx) fun targets => ?_
  refine .bind (.of_state_eq fun _ => rfl) fun _ => ?_
  exact .bind (.of_state_eq fun _ => rfl) fun _ => .of_state_eq fun _ => rfl

end Invariants

end Compile

end RenderGraph
