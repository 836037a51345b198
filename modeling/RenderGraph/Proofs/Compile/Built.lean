import RenderGraph.Proofs.Compile.Buildable

/-!
# What a built pipeline is made of

Behind every pipeline that is built stand a flattened graph, a scheduler that came to
its end and the allocation of what it planned. What is said of pipelines that were
just built follows from these.
-/

namespace RenderGraph.Pipeline

open Compile (createFilter problem allocate)
open Schedule (State Solution Finished)

variable {B : Backend}

/-- A pipeline was built from a layout by way of a graph, with a schedule that was read off the
final state of the scheduler. -/
structure Built (name : String) (layout : Layout B.Descriptor) (state : B.State)
    (pipeline : Pipeline B) (graph : Flat.Graph B.Descriptor) (final : State B.Format)
    (schedule : Solution B.Format) : Prop where
  /-- The graph is the flattened layout. -/
  flatten : Flat.flatten layout = .ok graph
  /-- It has what there is to be flattened. -/
  flattened : Flat.Flattened layout graph
  /-- The filters were created for those of the graph, in their order. -/
  created : (graph.filters.mapM createFilter state).result = .ok pipeline.filters
  /-- The scheduler has taken up all filters. -/
  complete : final.Complete (problem graph pipeline.filters)
  /-- The schedule is what it arrived at. -/
  finished : Finished (problem graph pipeline.filters) layout.outputs final schedule
  /-- The targets were allocated as planned. -/
  allocated : ((schedule.targets.zipIdx.mapM fun (target, id) => allocate graph id target)
    (graph.filters.mapM createFilter state).state).result = .ok pipeline.targets
  /-- The plan tells of the schedule. -/
  plan : pipeline.plan = Compile.plan name layout graph schedule
  /-- The pipeline keeps its layout. -/
  layout : pipeline.layout = layout
  /-- Nothing is measured yet. -/
  monitor : pipeline.monitor = .off

variable {name : String} {layout : Layout B.Descriptor} {state : B.State} {pipeline : Pipeline B}

/-- Every pipeline that is built from a layout that can be constructed was built by way of a
graph and a schedule. -/
theorem exists_built (constructed : layout.Constructed)
    (h : (build name layout state).result = .ok pipeline) :
    ∃ graph final schedule, Built name layout state pipeline graph final schedule := by
  obtain ⟨compiled, hc, hp⟩ := Action.bind_eq_ok_iff.mp h
  obtain rfl := Except.ok.inj hp
  obtain ⟨graph, schedule, created, allocated, hg, rfl, hf, hs, rfl, ht, -, hplan⟩ :=
    Compile.compile_eq_ok hc
  have flattened := Flat.flattened_of_eq_ok constructed hg
  have wf := Compile.wellFormed constructed flattened (Action.length_of_mapM hf)
  obtain ⟨final, complete, hfinal⟩ := wf.exists_finish hs
  refine ⟨graph, final, schedule, ?_⟩
  constructor
  case flatten => exact hg
  case flattened => exact flattened
  case created => exact hf
  case complete => exact complete
  case finished => exact Schedule.State.finish_eq_ok hfinal
  case allocated => exact ht
  case plan => exact hplan
  case layout => rfl
  case monitor => rfl

section Parts

variable {graph : Flat.Graph B.Descriptor} {final : State B.Format} {schedule : Solution B.Format}
  (built : Built name layout state pipeline graph final schedule)
include built

/-- Each filter on the device was created, in some state of the device, for the filter of the graph
at its position. -/
theorem Built.created_each : List.Forall₂ (fun (flat : Flat.Filter B.Descriptor) filter =>
    ∃ device, (B.createFilter flat.spec device).result = .ok filter)
    graph.filters pipeline.filters := by
  have hends : (graph.filters.mapM createFilter).Ends (fun _ => True)
      (fun filters _ => True ∧ List.Forall₂ (fun (flat : Flat.Filter B.Descriptor) filter =>
        ∃ device, (B.createFilter flat.spec device).result = .ok filter) graph.filters filters)
      fun _ _ => True := by
    refine Action.Ends.mapM (I := fun _ _ => True) (fun _ flat _ => .mapError ?_) []
    exact fun device _ => ⟨fun filter h => ⟨trivial, device, h⟩, fun _ _ => trivial⟩
  exact ((hends state trivial).1 _ built.created).2

/-- There is a filter on the device for each filter of the graph. -/
theorem Built.length_filters : pipeline.filters.length = graph.filters.length :=
  built.created_each.length_eq.symm

/-- There is a planned filter for each of them. -/
theorem Built.length_planned : pipeline.plan.filters.length = graph.filters.length := by
  rw [built.plan, Compile.plan, List.length_map, List.length_zipIdx]

/-- The scheduler has a task for each of them. -/
theorem Built.length_tasks :
    (problem graph pipeline.filters).tasks.length = graph.filters.length := by
  rw [problem, List.length_zipWith, built.length_filters, Nat.min_self]

/-- All of them are scheduled, each once. -/
theorem Built.perm_schedule :
    pipeline.plan.schedule.Perm (List.range graph.filters.length) := by
  rw [built.plan, ← built.length_tasks, Compile.plan, built.finished.order]
  exact built.complete.perm_range

end Parts

end RenderGraph.Pipeline
