import RenderGraph.Pipeline.Basic
import RenderGraph.Proofs.Compile.Allocation
import RenderGraph.Proofs.Device.Memory

/-!
# Allocating render targets in memory

The attachments of all targets of a pipeline are in different cells, and a target
has enough of them for each of its users.
-/

namespace RenderGraph.Device

open Compile (outputsOf)

variable {front : List MemoryTexture}

/-- A new target has new cells, as many as it is told. -/
theorem createTarget_housed (format : String) (attachments : Nat) :
    (Memory.createTarget format attachments).Succeeds (Housed front) fun target device =>
      Housed (front ++ target.attachments) device ∧ target.attachments.length = attachments := by
  intro device housed
  refine ⟨_, rfl, ?_⟩
  have hnew := Memory.textures_cells attachments
    { device with targetsCreated := device.targetsCreated + 1 }
  refine ⟨housed.append hnew.1 hnew.2, ?_⟩
  have hl := congrArg List.length hnew.1
  rwa [List.length_map, List.length_range'] at hl

/-- An attachment that is added to the latest target has a new cell. -/
theorem addAttachment_housed (target : TermTarget MemoryTexture) :
    (Memory.addAttachment target).Succeeds (Housed (front ++ target.attachments))
      fun grown device => Housed (front ++ grown.attachments) device ∧
        grown.attachments.length = target.attachments.length + 1 := by
  intro device housed
  have hnew := Memory.textures_cells 1
    { device with attachmentsAdded := device.attachmentsAdded + 1 }
  have hgrown := housed.append hnew.1 hnew.2
  rw [List.append_assoc] at hgrown
  exact ⟨_, rfl, hgrown, List.length_append⟩

/-- A target grows until a user fits and never shrinks. -/
theorem growFor_housed (id outputs : Nat) (target : TermTarget MemoryTexture) :
    (Compile.growFor (B := memory) id target outputs).Succeeds
      (Housed (front ++ target.attachments)) fun grown device =>
        Housed (front ++ grown.attachments) device ∧
          outputs ≤ grown.attachments.length ∧
          target.attachments.length ≤ grown.attachments.length := by
  have round : ∀ current : TermTarget MemoryTexture,
      decide (current.attachments.length < outputs) = true →
      ((Memory.addAttachment current).mapError
        (Compile.deviceError memory (.growingTarget id))).Succeeds
        (fun device => Housed (front ++ current.attachments) device ∧
          target.attachments.length ≤ current.attachments.length)
        fun grown device => (Housed (front ++ grown.attachments) device ∧
          target.attachments.length ≤ grown.attachments.length) ∧
          outputs - grown.attachments.length < outputs - current.attachments.length := by
    intro current hm device ⟨housed, hle⟩
    have hlt := of_decide_eq_true hm
    obtain ⟨grown, hok, hgrown, hl⟩ := ((addAttachment_housed current).mapError _) device housed
    exact ⟨grown, hok, ⟨hgrown, by omega⟩, by omega⟩
  intro device housed
  obtain ⟨grown, hok, ⟨hgrown, hle⟩, hdone⟩ :=
    Action.Succeeds.repeatWhile round target device ⟨housed, Nat.le_refl _⟩
  exact ⟨grown, hok, hgrown, Nat.le_of_not_lt (of_decide_eq_false hdone), hle⟩

variable {δ : Type} {graph : Flat.Graph TermDescriptor}

/-- A planned target with a user is allocated in new cells, with enough attachments for all of its
users. -/
theorem allocate_housed (graph : Flat.Graph TermDescriptor) (id : Nat)
    {planned : Schedule.Target String} (hu : planned.users ≠ []) :
    (Compile.allocate (B := memory) graph id planned).Succeeds (Housed front) fun target device =>
      Housed (front ++ target.attachments) device ∧
        ∀ user ∈ planned.users, outputsOf (B := memory) graph user ≤ target.attachments.length := by
  have hall : ∀ target : TermTarget MemoryTexture,
      (∀ outputs ∈ planned.users.map (outputsOf (B := memory) graph),
        outputs ≤ target.attachments.length) →
      ∀ user ∈ planned.users, outputsOf (B := memory) graph user ≤ target.attachments.length :=
    fun target h user hm => h _ (List.mem_map_of_mem hm)
  rw [Compile.allocate]
  cases hm : planned.users.map (outputsOf (B := memory) graph) with
  | nil => exact absurd (List.map_eq_nil_iff.mp hm) hu
  | cons first rest =>
    rw [hm] at hall
    refine ((createTarget_housed planned.format first).mapError _).bind fun target => ?_
    intro device hnew
    have hfirst : ∀ outputs ∈ [first], outputs ≤ target.attachments.length := by
      intro outputs hm
      obtain rfl := List.mem_singleton.mp hm
      exact Nat.le_of_eq hnew.2.symm
    have hgrow : ∀ (done : List Nat) (target : TermTarget MemoryTexture), ∀ outputs ∈ rest,
        (Compile.growFor (B := memory) id target outputs).Succeeds
          (fun device => Housed (front ++ target.attachments) device ∧
            ∀ outputs ∈ first :: done, outputs ≤ target.attachments.length)
          fun grown device => Housed (front ++ grown.attachments) device ∧
            ∀ o ∈ first :: (done ++ [outputs]), o ≤ grown.attachments.length := by
      intro done target outputs _ device hdone
      obtain ⟨grown, hok, hgrown, ho, hl⟩ := growFor_housed id outputs target device hdone.1
      refine ⟨grown, hok, hgrown, fun o hm => ?_⟩
      rw [← List.cons_append, List.mem_append, List.mem_singleton] at hm
      rcases hm with hm | rfl
      · exact Nat.le_trans (hdone.2 o hm) hl
      · exact ho
    obtain ⟨last, hok, hlast, hl⟩ := Action.Succeeds.foldlM hgrow [] target device ⟨hnew.1, hfirst⟩
    exact ⟨last, hok, hlast, hall last hl⟩

/-- All planned targets are allocated in different cells, each with enough attachments for all of
its users. -/
theorem allocateAll_housed (graph : Flat.Graph TermDescriptor)
    {targets : List (Schedule.Target String)} (hu : ∀ planned ∈ targets, planned.users ≠ []) :
    (targets.zipIdx.mapM fun (planned, id) =>
        Compile.allocate (B := memory) graph id planned).Succeeds (Housed front)
      fun allocated device => Housed (front ++ allocated.flatMap TermTarget.attachments) device ∧
        List.Forall₂ (fun (entry : Schedule.Target String × Nat)
            (target : TermTarget MemoryTexture) =>
          ∀ user ∈ entry.1.users, outputsOf (B := memory) graph user ≤ target.attachments.length)
          targets.zipIdx allocated := by
  intro device housed
  refine Action.Succeeds.mapM
    (I := fun done device => Housed (front ++ done.flatMap TermTarget.attachments) device)
    (fun done entry hm => ?_) [] device (by rwa [List.flatMap_nil, List.append_nil])
  obtain ⟨planned, id⟩ := entry
  have hp := List.mem_of_getElem? (List.mem_zipIdx_iff_getElem?.mp hm)
  refine (allocate_housed graph id (hu planned hp)).imp fun target device ht => ?_
  refine ⟨?_, ht.2⟩
  rw [List.flatMap_append, List.flatMap_singleton, ← List.append_assoc]
  exact ht.1

/-- Creating a target keeps what is shown. -/
theorem createTarget_shows {texture : MemoryTexture} {text : String} (format : String)
    (attachments : Nat) : (Memory.createTarget format attachments).Keeps
      fun device => device.Shows texture text :=
  fun _ h => Memory.Shows.newTextures attachments h

/-- So does adding an attachment. -/
theorem addAttachment_shows {texture : MemoryTexture} {text : String}
    (target : TermTarget MemoryTexture) :
    (Memory.addAttachment target).Keeps fun device => device.Shows texture text :=
  fun _ h => Memory.Shows.newTextures 1 h

/-- So does building a pipeline, whether or not it succeeds. -/
theorem build_shows {texture : MemoryTexture} {text : String} (name : String)
    (layout : Layout TermDescriptor) : (Pipeline.build (B := memory) name layout).Keeps
      fun device => device.Shows texture text := by
  have created : ∀ spec, (Memory.createFilter spec).Keeps
      fun device => device.Shows texture text := by
    intro spec device h
    rw [Memory.createFilter]
    split <;> exact h
  refine .bind ?_ fun compiled => .bind (.of_state_eq fun _ => rfl) fun _ => .of_state_eq fun _ => rfl
  have counts : ∀ target device grown, (Memory.addAttachment target device).result = .ok grown →
      target.attachments.length < grown.attachments.length := by
    intro target device grown h
    obtain rfl := Except.ok.inj h
    simp
  exact Compile.compile_keeps (B := memory) created createTarget_shows addAttachment_shows counts
    name layout

end RenderGraph.Device
