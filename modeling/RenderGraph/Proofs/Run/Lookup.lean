import RenderGraph.Device.Memory
import RenderGraph.Proofs.Flat.Paths
import RenderGraph.Proofs.Compile.Buildable

/-!
# Looking filters up by path

A pipeline finds a filter by the first path in its plan that is the same. Every
filter is found under its own path exactly when the layout has no paths that run
together.
-/

namespace RenderGraph

variable {B : Backend}

section Plans

variable {plan : Plan} {i : Nat} {planned : PlannedFilter}

/-- A filter of a plan with different paths is the first one with its path. -/
theorem Plan.path_ne_of_lt (distinct : (plan.filters.map PlannedFilter.path).Nodup)
    (h : plan.filters[i]? = some planned) {j : Nat} (hj : j < i)
    (hl : j < plan.filters.length) : plan.filters[j].path ≠ planned.path := by
  intro he
  have hsame := nodup_map_iff_index.mp distinct j i _ _ (List.getElem?_eq_getElem hl) h he
  omega

/-- In a plan with different paths a filter is found under its path. -/
theorem Plan.filter?_eq (distinct : (plan.filters.map PlannedFilter.path).Nodup)
    (h : plan.filters[i]? = some planned) : plan.filter? planned.path = some planned :=
  find?_eq_some_of_nodup distinct (List.mem_of_getElem? h)

/-- In a plan with different paths the number of a filter is found under its path. -/
theorem Plan.filterIndex?_eq (distinct : (plan.filters.map PlannedFilter.path).Nodup)
    (h : plan.filters[i]? = some planned) : plan.filterIndex? planned.path = some i := by
  obtain ⟨hl, hi⟩ := List.getElem?_eq_some_iff.mp h
  refine List.findIdx?_eq_some_iff_getElem.mpr ⟨hl, ?_, fun j hj => ?_⟩
  · rw [hi]
    exact decide_eq_true rfl
  · simpa using plan.path_ne_of_lt distinct h hj (Nat.lt_trans hj hl)

end Plans

namespace Pipeline

/-- Whatever is looked up by a path is that of the filter with a number. -/
structure Finds (pipeline : Pipeline B) (path : String) (i : Nat) : Prop where
  /-- The number itself. -/
  index : pipeline.filterIndex path = .ok i
  /-- The filter. -/
  filter : pipeline.filter path = pipeline.filterAt i
  /-- A change of the filter changes no other one. -/
  modify : ∀ change, pipeline.modifyFilter path change =
    .ok { pipeline with filters := pipeline.filters.modify i change }
  /-- The time of the last run. -/
  timing : pipeline.timing path = pipeline.monitor.last i
  /-- The mean time. -/
  meanTiming : pipeline.meanTiming path = pipeline.monitor.mean i
  /-- The filter of the plan. -/
  planned : pipeline.plan.filter? path = pipeline.plan.filters[i]?

variable {pipeline : Pipeline B}

/-- With different paths in the plan every filter is found under its own one. -/
theorem finds_filterPath (distinct : (pipeline.plan.filters.map PlannedFilter.path).Nodup) {i : Nat}
    (hi : i < pipeline.plan.filters.length) :
    ∃ path, pipeline.filterPath i = .ok path ∧ pipeline.Finds path i := by
  have h := List.getElem?_eq_getElem hi
  have hindex : pipeline.filterIndex pipeline.plan.filters[i].path = .ok i := by
    rw [filterIndex, Plan.filterIndex?_eq distinct h]
  refine ⟨pipeline.plan.filters[i].path, by rw [filterPath, h], ?_⟩
  constructor
  case index => exact hindex
  case filter =>
    rw [Pipeline.filter, hindex]
    rfl
  case modify =>
    intro change
    rw [modifyFilter, hindex]
    rfl
  case timing =>
    rw [timing, hindex]
    rfl
  case meanTiming =>
    rw [meanTiming, hindex]
    rfl
  case planned => rw [Plan.filter?_eq distinct h, h]

/-- If every filter is found under its own path, the paths are different. -/
theorem nodup_of_finds (h : ∀ i < pipeline.plan.filters.length,
    ∃ path, pipeline.filterPath i = .ok path ∧ pipeline.Finds path i) :
    (pipeline.plan.filters.map PlannedFilter.path).Nodup := by
  refine nodup_map_iff_index.mpr fun i j a b ha hb he => ?_
  have hpath : ∀ {k : Nat} {planned : PlannedFilter}, pipeline.plan.filters[k]? = some planned →
      pipeline.Finds planned.path k := by
    intro k planned hk
    obtain ⟨path, hp, hf⟩ := h k (List.getElem?_eq_some_iff.mp hk).1
    rw [filterPath, hk] at hp
    exact Except.ok.inj hp ▸ hf
  have hi := (hpath ha).index
  have hj := (hpath hb).index
  rw [he, hj] at hi
  exact (Except.ok.inj hi).symm

variable {layout : Layout B.Descriptor} {name : String} {state : B.State}

/-- The plan of a pipeline that is built names the filters of the flattened layout, and there is a
filter on the device for each of them. -/
theorem exists_graph_of_build (built : (build name layout state).result = .ok pipeline) :
    ∃ graph, Flat.flatten layout = .ok graph ∧
      pipeline.plan.filters.map PlannedFilter.path = graph.filters.map Flat.Filter.path ∧
      pipeline.filters.length = graph.filters.length := by
  obtain ⟨compiled, hc, hp⟩ := Action.bind_eq_ok_iff.mp built
  obtain rfl := Except.ok.inj hp
  obtain ⟨graph, schedule, created, -, hg, rfl, hf, -, -, -, -, hplan⟩ := Compile.compile_eq_ok hc
  refine ⟨graph, hg, ?_, Action.length_of_mapM hf⟩
  simp only [hplan, Compile.plan, List.map_map]
  have hpaths : (PlannedFilter.path ∘ fun (entry : Flat.Filter B.Descriptor × Nat) =>
      { index := entry.2
        path := entry.1.path
        typeName := entry.1.spec.typeName
        target := schedule.assignments[entry.2]?.getD 0
        inputs := schedule.bindings[entry.2]?.getD [] }) = Flat.Filter.path ∘ Prod.fst := rfl
  rw [hpaths, ← List.map_map, List.zipIdx_map_fst]

/-- In a pipeline that was built the paths of the filters are different, and every filter is found
under its own path, exactly when paths run together nowhere in the layout. -/
theorem found_by_path_iff (layout : Layout B.Descriptor) (constructed : layout.Constructed)
    (name : String) (state : B.State) (pipeline : Pipeline B)
    (built : (build name layout state).result = .ok pipeline) :
    ((pipeline.plan.filters.map PlannedFilter.path).Nodup ↔ layout.Unambiguous) ∧
    ∀ later : Pipeline B, later.plan = pipeline.plan →
      ((∀ i < pipeline.filters.length, ∃ path, later.filterPath i = .ok path ∧
        later.Finds path i) ↔ layout.Unambiguous) := by
  obtain ⟨graph, hg, hpaths, hlength⟩ := exists_graph_of_build built
  have hdistinct : (pipeline.plan.filters.map PlannedFilter.path).Nodup ↔ layout.Unambiguous := by
    rw [hpaths]
    exact Flat.nodup_paths_iff constructed hg
  have hplanned : pipeline.filters.length = pipeline.plan.filters.length := by
    have hl := congrArg List.length hpaths
    rw [List.length_map, List.length_map] at hl
    exact hlength.trans hl.symm
  refine ⟨hdistinct, fun later hlater => ?_⟩
  rw [← hdistinct, hplanned, ← hlater]
  constructor
  · exact nodup_of_finds
  · exact fun distinct i hi => finds_filterPath distinct hi

section Tandem

open Compile (plain)
open Device (Memory memory)
open Flat (framed)

/-- Two filters in a row, each in a layout of its own. -/
def tandem (first inner second other : String) : Layout Device.TermDescriptor where
  typeName := "Tandem"
  inputs := ⟨["in"]⟩
  outputs := ⟨["out"]⟩
  elements := [⟨first, .pipeline (framed "Box" inner
      (.filter ⟨"Blur", ⟨["in"]⟩, ⟨["out"]⟩, plain⟩))⟩,
    ⟨second, .pipeline (framed "Box" other
      (.filter ⟨"Sharpen", ⟨["in"]⟩, ⟨["out"]⟩, plain⟩))⟩]
  connections := [⟨.boundary, 0, .member 0, 0⟩, ⟨.member 0, 0, .member 1, 0⟩,
    ⟨.member 1, 0, .boundary, 0⟩]

/-- It can be constructed from admissible names, of which the outer two differ. -/
theorem tandem_constructed {first inner second other : String}
    (hfirst : checkName .element first = .ok ()) (hinner : checkName .element inner = .ok ())
    (hsecond : checkName .element second = .ok ()) (hother : checkName .element other = .ok ())
    (hne : first ≠ second) : (tandem first inner second other).Constructed := by
  have hp : Layout.Constructed
      (⟨"Tandem", ⟨["in"]⟩, ⟨["out"]⟩, [], []⟩ : Layout Device.TermDescriptor) :=
    Layout.constructed_of_declared "Tandem" (Ports.declared_singleton rfl)
      (Ports.declared_singleton rfl)
  have hone := hp.addPipeline (Flat.framed_constructed "Box" hinner "Blur" plain)
    (Layout.add_eq_ok_iff.mpr ⟨hfirst, nofun, rfl⟩)
  have htwo := hone.addPipeline (Flat.framed_constructed "Box" hother "Sharpen" plain)
    (Layout.add_eq_ok_iff.mpr ⟨hsecond, by simpa using hne, rfl⟩)
  have hin := htwo.connectToInput (show Layout.connectToInput _ 0 0 0 = .ok _ from rfl)
  have hrow := hin.connect (show Layout.connect _ ⟨.member 0, 0, .member 1, 0⟩ = .ok _ from rfl)
  exact hrow.connectToOutput (show Layout.connectToOutput _ 1 0 0 = .ok _ from rfl)

/-- The pipeline that is built from it on a new device, when its filters have the given paths. -/
def tandemBuilt (layout : Layout Device.TermDescriptor) (blur sharpen : String) :
    Pipeline memory where
  name := "tandem"
  layout
  filters := [.ofSpec ⟨"Blur", ⟨["in"]⟩, ⟨["out"]⟩, plain⟩,
    .ofSpec ⟨"Sharpen", ⟨["in"]⟩, ⟨["out"]⟩, plain⟩]
  targets := [⟨"rgba8", [⟨1, 0⟩]⟩, ⟨"rgba8", [⟨2, 1⟩]⟩]
  plan :=
    { name := "tandem"
      filters := [⟨0, blur, "Blur", 0, [.input 0]⟩, ⟨1, sharpen, "Sharpen", 1, [.attachment 0 0]⟩]
      schedule := [0, 1]
      targets := [⟨0, "\"rgba8\"", 1, [0]⟩, ⟨1, "\"rgba8\"", 1, [1]⟩]
      connections := [⟨.boundary, 0, .member 0, 0⟩, ⟨.member 0, 0, .member 1, 0⟩,
        ⟨.member 1, 0, .boundary, 0⟩]
      inputs := ["in"]
      outputs := [⟨"out", .attachment 1 0⟩] }
  inputs := []
  monitor := .off

set_option maxRecDepth 10000 in
/-- Two filters of the same name in different layouts are found, each under its own path. -/
theorem namesakes_found :
    (tandem "left" "stage" "right" "stage").Constructed ∧
    (build (B := memory) "tandem" (tandem "left" "stage" "right" "stage")
      (Memory.fresh none)).result = .ok (tandemBuilt (tandem "left" "stage" "right" "stage")
        "left::stage" "right::stage") ∧
    ∀ i < 2, ∃ path, (tandemBuilt (tandem "left" "stage" "right" "stage")
        "left::stage" "right::stage").filterPath i = .ok path ∧
      (tandemBuilt (tandem "left" "stage" "right" "stage")
        "left::stage" "right::stage").Finds path i := by
  have constructed : (tandem "left" "stage" "right" "stage").Constructed :=
    tandem_constructed rfl rfl rfl rfl (by decide)
  have built : (build (B := memory) "tandem" (tandem "left" "stage" "right" "stage")
      (Memory.fresh none)).result = .ok (tandemBuilt (tandem "left" "stage" "right" "stage")
        "left::stage" "right::stage") := by cbv
  have hiff := found_by_path_iff _ constructed "tandem" _ _ built
  exact ⟨constructed, built, (hiff.2 _ rfl).mpr (hiff.1.mp (by decide))⟩

set_option maxRecDepth 10000 in
/-- Admissible names can collide: in a layout called with a colon at the end, and in one called
without it, whose filter has the colon at the beginning. The second filter is then out of reach,
its path leads to the first one. -/
theorem colons_collide :
    (tandem "a:" "b" "a" ":b").Constructed ∧
    (build (B := memory) "tandem" (tandem "a:" "b" "a" ":b") (Memory.fresh none)).result =
      .ok (tandemBuilt (tandem "a:" "b" "a" ":b") "a:::b" "a:::b") ∧
    (tandemBuilt (tandem "a:" "b" "a" ":b") "a:::b" "a:::b").filterPath 1 = .ok "a:::b" ∧
    (tandemBuilt (tandem "a:" "b" "a" ":b") "a:::b" "a:::b").filterIndex "a:::b" = .ok 0 ∧
    ¬ ((tandemBuilt (tandem "a:" "b" "a" ":b") "a:::b" "a:::b").plan.filters.map
      PlannedFilter.path).Nodup :=
  ⟨tandem_constructed rfl rfl rfl rfl (by decide), by cbv, rfl, rfl, by decide⟩

end Tandem

end Pipeline

end RenderGraph
