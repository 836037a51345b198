import RenderGraph.Proofs.Compile.Buildable
import RenderGraph.Proofs.Flat.Reordered
import RenderGraph.Proofs.Schedule.Reordered

/-!
# Compiling does not depend on the order of connections

The connections of a layout are listed in the order in which they were made, at
every level. Building looks at which there are and never at their order, so the
plan of a pipeline is the same for every order, except that it lists its own
connections in some other order, too.
-/

namespace RenderGraph

variable {B : Backend}

/-- The same result of compiling with other connections in its plan. -/
def Compiled.withConnections (connections : List (Connection Anchor)) (compiled : Compiled B) :
    Compiled B :=
  { compiled with plan := { compiled.plan with connections } }

namespace Compile

open Schedule (Solution)

variable {a b : Layout B.Descriptor} {graph : Flat.Graph B.Descriptor}
  {connections : List (Connection Anchor)}

section Stages

variable (h : a.Reordered b) (hp : graph.connections.Perm connections)
include h

/-- The plan differs in its connections only. -/
theorem plan_reordered (name : String) (schedule : Solution B.Format) :
    plan name b { graph with connections } schedule =
      { plan name a graph schedule with connections } := by
  simp only [plan, h.inputs, h.outputs]

include hp

/-- The same targets are allocated for the same schedule. -/
theorem afterSchedule_reordered (name : String) (filters : List B.Filter)
    (schedule : Solution B.Format) :
    afterSchedule name b { graph with connections } filters schedule =
      Compiled.withConnections connections <$> afterSchedule name a graph filters schedule := by
  have hallocate : allocate { graph with connections } = allocate (B := B) graph := rfl
  have hcheck : checkFormats { graph with connections } = checkFormats (B := B) graph := rfl
  have hevent : compiledEvent { plan name a graph schedule with connections } =
      compiledEvent (plan name a graph schedule) := by
    simp only [compiledEvent, plan, hp.length_eq]
  simp only [afterSchedule, plan_reordered h, hallocate, hcheck, hevent, map_bind, map_pure,
    Compiled.withConnections]

/-- The same schedule is found for the same filters. -/
theorem afterFilters_reordered (fedOnce : FedOnce graph.connections) (name : String)
    (filters : List B.Filter) :
    afterFilters name b { graph with connections } filters =
      Compiled.withConnections connections <$> afterFilters name a graph filters := by
  have hsolve : (problem { graph with connections } filters).solve b.outputs =
      (problem graph filters).solve a.outputs := by
    have hfed : FedOnce (problem graph filters).connections := fedOnce
    rw [← h.outputs]
    exact Schedule.solve_reordered hfed hp a.outputs
  simp only [afterFilters, hsolve, map_bind, afterSchedule_reordered h hp]

end Stages

/-- Layouts that agree up to the order of connections are both compiled, with the same result up
to the order of connections in the plan, or both not, with failures of the same category. -/
theorem compile_reordered (ha : a.Constructed) (hb : b.Constructed) (h : a.Reordered b)
    (name : String) (state : B.State) :
    (∃ compiled connections, (compile name a state).result = .ok compiled ∧
      (compile name b state).result = .ok (compiled.withConnections connections) ∧
      compiled.plan.connections.Perm connections ∧
      (compile name a state).state = (compile name b state).state) ∨
    ∃ e e', (compile name a state).result = .error e ∧ (compile name b state).result = .error e' ∧
      e.kind = e'.kind := by
  rcases Flat.flatten_reordered ha hb h with
    ⟨graph, connections, hg, ho, fedOnce, hp⟩ | ⟨e, e', he, he', hk, hk'⟩
  · have hfilters : afterFilters name b { graph with connections } =
        fun filters => Compiled.withConnections connections <$> afterFilters name a graph filters :=
      funext fun filters => afterFilters_reordered h hp fedOnce name filters
    obtain ⟨hra, hsa⟩ := compile_of_flatten_ok hg name state
    obtain ⟨hrb, hsb⟩ := compile_of_flatten_ok ho name state
    rw [hfilters, ← map_bind] at hrb hsb
    obtain ⟨hmr, hms⟩ := Action.map_eq (Compiled.withConnections connections)
      (graph.filters.mapM createFilter >>= afterFilters name a graph) state
    rw [hmr, ← hra] at hrb
    rw [hms, ← hsa] at hsb
    cases hc : (compile name a state).result with
    | error e => exact Or.inr ⟨e, e, rfl, by rw [hrb, hc]; rfl, rfl⟩
    | ok compiled =>
      refine Or.inl ⟨compiled, connections, rfl, by rw [hrb, hc]; rfl, ?_, hsb.symm⟩
      obtain ⟨found, schedule, -, -, hf, -, -, -, -, -, -, hplan⟩ := compile_eq_ok hc
      obtain rfl := Except.ok.inj (hg.symm.trans hf)
      rw [hplan]
      exact hp
  · refine Or.inr ⟨_, _, compile_of_flatten_error he, compile_of_flatten_error he', ?_⟩
    rw [Error.kind_within, Error.kind_within, hk, hk']

/-- Building puts the result of compiling into a pipeline without bound inputs. -/
theorem build_of_compiled {name : String} {state : B.State} {compiled : Compiled B}
    (h : (compile name a state).result = .ok compiled) :
    (Pipeline.build name a state).result =
        .ok ⟨name, a, compiled.filters, compiled.targets, compiled.plan, [], .off⟩ ∧
      (Pipeline.build name a state).state = (compile name a state).state :=
  Action.bind_of_ok h _

/-- The order in which connections were made does not matter. Two layouts that have the same ports
and elements at every level, and the same connections in some order, are both built on the same
device or both not, with failures of the same category. The plans of the pipelines are the same
except for the order of their connections; filters, targets and the device are the same, too. -/
theorem build_ignores_connection_order (a b : Layout B.Descriptor) (ha : a.Constructed)
    (hb : b.Constructed) (h : a.Reordered b) (name : String) (state : B.State) :
    (∃ p q, (Pipeline.build name a state).result = .ok p ∧
      (Pipeline.build name b state).result = .ok q ∧
      q.plan = { p.plan with connections := q.plan.connections } ∧
      p.plan.connections.Perm q.plan.connections ∧ p.filters = q.filters ∧ p.targets = q.targets ∧
      (Pipeline.build name a state).state = (Pipeline.build name b state).state) ∨
    ∃ e e', (Pipeline.build name a state).result = .error e ∧
      (Pipeline.build name b state).result = .error e' ∧ e.kind = e'.kind := by
  rcases compile_reordered ha hb h name state with
    ⟨compiled, connections, hra, hrb, hp, hs⟩ | ⟨e, e', he, he', hk⟩
  · obtain ⟨hbuilt, hstate⟩ := build_of_compiled hra
    obtain ⟨hbuilt', hstate'⟩ := build_of_compiled hrb
    exact Or.inl ⟨_, _, hbuilt, hbuilt', rfl, hp, rfl, rfl, hstate.trans (hs.trans hstate'.symm)⟩
  · exact Or.inr ⟨e, e', Action.bind_of_error he _, Action.bind_of_error he' _, hk⟩

section Turned

open Flat (framed box picture)
open Device (Memory)

/-- A layout whose connections were made in the opposite order. -/
def turned {δ : Type} (layout : Layout δ) : Layout δ :=
  { layout with connections := layout.connections.reverse }

/-- The picture with all connections made in the opposite order, also in its box. -/
def turnedPicture {δ : Type} (descriptor : δ) : Layout δ :=
  turned (framed "Picture" "box" (.pipeline (turned (box descriptor))))

/-- The picture agrees with the turned one. -/
theorem picture_reordered {δ : Type} (descriptor : δ) :
    (picture descriptor).Reordered (turnedPicture descriptor) := by
  have hperm : ∀ layout : Layout δ, layout.connections.Perm (turned layout).connections :=
    fun layout => (List.reverse_perm layout.connections).symm
  have hspec : Layout.ElementsReordered (box descriptor).elements (box descriptor).elements :=
    .cons (.filter _) .nil
  exact .level rfl rfl (.cons (.pipeline (.level rfl rfl hspec (hperm _))) .nil)
    (hperm (framed "Picture" "box" (.pipeline (turned (box descriptor)))))

/-- The turned picture can be constructed: the outputs are connected first. -/
theorem turnedPicture_constructed {δ : Type} (descriptor : δ) :
    (turnedPicture descriptor).Constructed := by
  have hframe : ∀ typeName : String,
      Layout.Constructed (⟨typeName, ⟨["in"]⟩, ⟨["out"]⟩, [], []⟩ : Layout δ) := fun typeName =>
    Layout.constructed_of_declared typeName (Ports.declared_singleton rfl)
      (Ports.declared_singleton rfl)
  have hf : FilterSpec.Constructed (⟨"Blur", ⟨["in"]⟩, ⟨["out"]⟩, descriptor⟩ : FilterSpec δ) :=
    FilterSpec.constructed_of_declared "Blur" (Ports.declared_singleton rfl)
      (Ports.declared_singleton rfl) descriptor
  have hbox : (turned (box descriptor)).Constructed := by
    have he := (hframe "Box").addFilter hf (show Layout.add _ "blur" _ = .ok _ from rfl)
    have ho := he.connectToOutput (show Layout.connectToOutput _ 0 0 0 = .ok _ from rfl)
    exact ho.connectToInput (show Layout.connectToInput _ 0 0 0 = .ok _ from rfl)
  have he := (hframe "Picture").addPipeline hbox (show Layout.add _ "box" _ = .ok _ from rfl)
  have ho := he.connectToOutput (show Layout.connectToOutput _ 0 0 0 = .ok _ from rfl)
  exact ho.connectToInput (show Layout.connectToInput _ 0 0 0 = .ok _ from rfl)

/-- Both pictures are built on a new device, with the same plan up to the order of connections. -/
theorem picture_turned : (picture plain).Constructed ∧ (turnedPicture plain).Constructed ∧
    (picture plain).Reordered (turnedPicture plain) ∧ ∃ p q : Pipeline Device.memory,
      (Pipeline.build "picture" (picture plain) (Memory.fresh none)).result = .ok p ∧
      (Pipeline.build "picture" (turnedPicture plain) (Memory.fresh none)).result = .ok q ∧
      q.plan = { p.plan with connections := q.plan.connections } ∧
      p.plan.connections.Perm q.plan.connections := by
  have constructed := Flat.picture_constructed plain
  have constructed' := turnedPicture_constructed plain
  have reordered := picture_reordered plain
  refine ⟨constructed, constructed', reordered, ?_⟩
  rcases build_ignores_connection_order (B := Device.memory) (picture plain) (turnedPicture plain)
      constructed constructed' reordered "picture" (Memory.fresh none) with
    ⟨p, q, hp, hq, hplan, hperm, -⟩ | ⟨e, e', he, -⟩
  · exact ⟨p, q, hp, hq, hplan, hperm⟩
  · -- Nothing is missing in the picture, so it is built.
    have hgood : (Memory.fresh none).failCreate = none := rfl
    rcases compile_cases (B := Device.memory) constructed memory_reliable hgood with
      ⟨-, -, compiled, hc⟩ | ⟨hn, -⟩
    · rw [(build_of_compiled hc).1] at he
      cases he
    · exact absurd ⟨picture_complete plain, picture_acyclic plain⟩ hn

end Turned

end Compile

end RenderGraph
