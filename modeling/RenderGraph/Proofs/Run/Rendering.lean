import RenderGraph.Proofs.Device.Memory
import RenderGraph.Proofs.Run.Binding

/-!
# Rendering one filter in memory

The textures that the plan names are bound to the inputs of a filter, and its
terms are written to its target, whether or not the time is taken.
-/

namespace RenderGraph.Device

section Binding

/-- Binding textures to a filter changes nothing but its inputs. -/
theorem TermFilter.bindFrom_eq (port : Nat) (textures : List MemoryTexture)
    (filter : TermFilter MemoryTexture) : memory.bindFrom port textures filter =
      { filter with inputs := (memory.bindFrom port textures filter).inputs } := by
  induction textures generalizing port filter with
  | nil => rfl
  | cons texture rest ih =>
    rw [Backend.bindFrom]
    exact (ih (port + 1) (filter.setInput port texture)).trans rfl

/-- A filter that is given a texture for each of its inputs has these and nothing else. -/
theorem TermFilter.bindAll_eq {textures : List MemoryTexture} {filter : TermFilter MemoryTexture}
    (hl : filter.inputs.length = textures.length) :
    memory.bindFrom 0 textures filter = { filter with inputs := textures.map some } := by
  have hslots := memory_exact.slots_bindFrom (hl.trans (Nat.zero_add _).symm)
  rw [List.take_zero, List.nil_append] at hslots
  rw [bindFrom_eq, hslots]

end Binding

section Rendering

variable {filter : TermFilter MemoryTexture} {target : TermTarget MemoryTexture}
  {inputs : List MemoryTexture} {device : Memory}

/-- A filter writes the same terms when its time is taken, and the time is one of that filter. -/
theorem renderTimed_written (index : Nat) (path : String)
    (allowed : device.failRender ≠ some filter.typeName) (bound : filter.inputs = inputs.map some)
    (housed : Housed target.attachments device)
    (hl : filter.outputs ≤ target.attachments.length) :
    ∃ samples, (Pipeline.renderTimed (B := memory) index path filter target device).result =
        .ok samples ∧ (∀ sample ∈ samples, sample.filter = index) ∧
      Written target.attachments 0 (filter.terms (inputs.map device.contents)) device
        (Pipeline.renderTimed (B := memory) index path filter target device).state := by
  -- Arming the timer touches no cell.
  have harmed : Housed target.attachments (Memory.startTimer device).2 :=
    ⟨housed.distinct, housed.created⟩
  have hallowed : (Memory.startTimer device).2.failRender ≠ some filter.typeName := allowed
  obtain ⟨hok, hw⟩ := Memory.render_written hallowed bound harmed hl
  simp only [Pipeline.renderTimed, Bind.bind, Action.bind, Action.get, Action.attempt,
    Action.ofExcept, hok, Memory.stopTimer, Except.mapError, Pure.pure, Action.pure]
  exact ⟨_, rfl, by simp, hw.failRender, hw.length, hw.read, hw.kept⟩

/-- A filter writes its terms when its time is not taken. -/
theorem renderUntimed_written (path : String)
    (allowed : device.failRender ≠ some filter.typeName) (bound : filter.inputs = inputs.map some)
    (housed : Housed target.attachments device)
    (hl : filter.outputs ≤ target.attachments.length) :
    (Pipeline.renderUntimed (B := memory) path filter target device).result = .ok [] ∧
      Written target.attachments 0 (filter.terms (inputs.map device.contents)) device
        (Pipeline.renderUntimed (B := memory) path filter target device).state := by
  obtain ⟨hok, hw⟩ := Memory.render_written allowed bound housed hl
  simp only [Pipeline.renderUntimed, Bind.bind, Action.bind, Action.mapError, hok, Except.mapError,
    Pure.pure, Action.pure, true_and]
  exact hw

variable {pipeline : Pipeline memory} {index : Nat} {filters : List (TermFilter MemoryTexture)}

/-- A filter with textures at all inputs writes its terms when it is its turn, whether or not the
run is timed. -/
theorem renderBound_written (pipeline : Pipeline memory) (index : Nat) (path : String)
    (filters : List (TermFilter MemoryTexture))
    (allowed : device.failRender ≠ some filter.typeName)
    (bound : filter.inputs = inputs.map some) (housed : Housed target.attachments device)
    (hl : filter.outputs ≤ target.attachments.length) :
    ∃ samples after,
      (pipeline.renderBound index path filter target ⟨filters, device⟩).result = .ok samples ∧
      (∀ sample ∈ samples, sample.filter = index) ∧
      (pipeline.renderBound index path filter target ⟨filters, device⟩).state =
        ⟨filters, after⟩ ∧
      Written target.attachments 0 (filter.terms (inputs.map device.contents)) device after := by
  simp only [Pipeline.renderBound, Pipeline.onDevice, Action.zoom]
  cases pipeline.monitor.isEnabled with
  | true =>
    obtain ⟨samples, hok, hs, hw⟩ := renderTimed_written index path allowed bound housed hl
    exact ⟨samples, _, hok, hs, rfl, hw⟩
  | false =>
    obtain ⟨hok, hw⟩ := renderUntimed_written path allowed bound housed hl
    exact ⟨[], _, hok, by simp, rfl, hw⟩

/-- One step of a run: a filter that is planned, not refused and not without a target gets the
textures of its bindings and writes its terms. -/
theorem renderFilter_written {planned : PlannedFilter} {textures : List MemoryTexture}
    (plan : pipeline.plan.filters[index]? = some planned)
    (found : pipeline.Reads planned.inputs textures)
    (hf : filters[index]? = some filter) (hin : filter.inputs.length = planned.inputs.length)
    (ht : pipeline.targets[planned.target]? = some target)
    (allowed : device.failRender ≠ some filter.typeName)
    (housed : Housed target.attachments device)
    (hl : filter.outputs ≤ target.attachments.length) :
    ∃ samples after, (pipeline.renderFilter index ⟨filters, device⟩).result = .ok samples ∧
      (∀ sample ∈ samples, sample.filter = index) ∧
      (pipeline.renderFilter index ⟨filters, device⟩).state =
        ⟨filters.set index { filter with inputs := textures.map some }, after⟩ ∧
      Written target.attachments 0 (filter.terms (textures.map device.contents)) device after := by
  have hturn := Pipeline.renderFilter_eq plan found hf ht device
  rw [TermFilter.bindAll_eq (hin.trans found.length_eq)] at hturn
  rw [hturn.1, hturn.2]
  exact renderBound_written pipeline index planned.path _ allowed rfl housed hl

end Rendering

end RenderGraph.Device
