import RenderGraph.Pipeline.Basic
import RenderGraph.Device.Memory
import RenderGraph.Proofs.Compile.Allocation

/-!
# Which layouts can be built

On a device that does what it is told a layout is built exactly when every nested
boundary port is used on both sides or on neither, every port that needs a
connection has one, and no filter depends on itself. The last condition alone
makes it a build error.
-/

namespace RenderGraph

variable {B : Backend}

namespace Compile

open Schedule (Problem State Solution Finished)

variable {layout : Layout B.Descriptor} {graph : Flat.Graph B.Descriptor}

/-- The part of compiling that follows scheduling. -/
def afterSchedule (name : String) (layout : Layout B.Descriptor) (graph : Flat.Graph B.Descriptor)
    (filters : List B.Filter) (schedule : Solution B.Format) :
    Action B.State Error (Compiled B) := do
  let targets ← schedule.targets.zipIdx.mapM fun (target, id) => allocate graph id target
  Action.ofExcept (checkFormats graph filters targets schedule.assignments)
  Action.report [compiledEvent (plan name layout graph schedule)]
  return ⟨filters, targets, plan name layout graph schedule⟩

/-- The part of compiling that follows the creation of filters. -/
def afterFilters (name : String) (layout : Layout B.Descriptor) (graph : Flat.Graph B.Descriptor)
    (filters : List B.Filter) : Action B.State Error (Compiled B) := do
  let (found, events) := (problem graph filters).solve layout.outputs
  Action.report events
  afterSchedule name layout graph filters (← Action.ofExcept (within (.scheduling name) found))

/-- Compiling a layout that is not flattened fails as flattening does. -/
theorem compile_of_flatten_error {name : String} {e : Error} {state : B.State}
    (h : Flat.flatten layout = .error e) :
    (compile name layout state).result = .error (e.within (.flattening name)) := by
  simp [compile, Action.report, Action.ofExcept, Bind.bind, Action.bind, h]

/-- Compiling a layout that is flattened goes on with its filters. -/
theorem compile_of_flatten_ok (h : Flat.flatten layout = .ok graph) (name : String)
    (state : B.State) :
    (compile name layout state).result =
        ((graph.filters.mapM createFilter >>= afterFilters name layout graph) state).result ∧
      (compile name layout state).state =
        ((graph.filters.mapM createFilter >>= afterFilters name layout graph) state).state := by
  simp only [compile, Action.report, Action.ofExcept, Bind.bind, Action.bind, h, within_ok]
  cases ((graph.filters.mapM createFilter) state).result <;> exact ⟨rfl, rfl⟩

section Stages

variable {filters : List B.Filter} {name : String} {state : B.State}

/-- A flattened graph that cannot be scheduled is not compiled. -/
theorem afterFilters_of_error {e : Error}
    (h : ((problem graph filters).solve layout.outputs).1 = .error e) :
    (afterFilters name layout graph filters state).result =
      .error (e.within (.scheduling name)) := by
  simp [afterFilters, Action.report, Action.ofExcept, Bind.bind, Action.bind, h]

/-- Compiling a flattened graph that can be scheduled goes on with its schedule. -/
theorem afterFilters_of_ok {schedule : Solution B.Format}
    (h : ((problem graph filters).solve layout.outputs).1 = .ok schedule) (name : String)
    (state : B.State) :
    (afterFilters name layout graph filters state).result =
        (afterSchedule name layout graph filters schedule state).result ∧
      (afterFilters name layout graph filters state).state =
        (afterSchedule name layout graph filters schedule state).state := by
  simp [afterFilters, Action.report, Action.ofExcept, Bind.bind, Action.bind, h]

/-- What is compiled from a schedule has the targets that were allocated. -/
theorem afterSchedule_eq_ok {schedule : Solution B.Format} {compiled : Compiled B}
    (h : (afterSchedule name layout graph filters schedule state).result = .ok compiled) :
    ((schedule.targets.zipIdx.mapM fun (target, id) => allocate graph id target) state).result =
        .ok compiled.targets ∧
      (afterSchedule name layout graph filters schedule state).state =
        ((schedule.targets.zipIdx.mapM fun (target, id) => allocate graph id target) state).state ∧
      compiled.filters = filters ∧ compiled.plan = plan name layout graph schedule := by
  simp only [afterSchedule] at h ⊢
  obtain ⟨targets, ht, hrest⟩ := Action.bind_eq_ok_iff.mp h
  rw [(Action.bind_of_ok ht _).2]
  cases hc : checkFormats graph filters targets schedule.assignments with
  | error e => simp [Action.ofExcept, Bind.bind, Action.bind, hc] at hrest
  | ok u =>
    have he : (⟨filters, targets, plan name layout graph schedule⟩ : Compiled B) = compiled := by
      simpa [Action.ofExcept, Action.report, Bind.bind, Action.bind, Pure.pure, Action.pure, hc]
        using hrest
    subst he
    refine ⟨ht, ?_, rfl, rfl⟩
    simp [Action.ofExcept, Action.report, Bind.bind, Action.bind, Pure.pure, Action.pure]

/-- A layout that is compiled was flattened and scheduled, and its targets were allocated. -/
theorem compile_eq_ok {compiled : Compiled B}
    (h : (compile name layout state).result = .ok compiled) :
    ∃ graph schedule created allocated, Flat.flatten layout = .ok graph ∧
      (graph.filters.mapM createFilter) state = created ∧ created.result = .ok compiled.filters ∧
      ((problem graph compiled.filters).solve layout.outputs).1 = .ok schedule ∧
      (schedule.targets.zipIdx.mapM fun (target, id) => allocate graph id target) created.state =
        allocated ∧
      allocated.result = .ok compiled.targets ∧
      (compile name layout state).state = allocated.state ∧
      compiled.plan = plan name layout graph schedule := by
  cases hg : Flat.flatten layout with
  | error e =>
    rw [compile_of_flatten_error hg] at h
    cases h
  | ok graph =>
    have hcompile := compile_of_flatten_ok hg name state
    rw [hcompile.1] at h
    obtain ⟨filters, hf, hrest⟩ := Action.bind_eq_ok_iff.mp h
    have hfilters := Action.bind_of_ok hf (afterFilters name layout graph)
    cases hs : ((problem graph filters).solve layout.outputs).1 with
    | error e =>
      rw [afterFilters_of_error hs] at hrest
      cases hrest
    | ok schedule =>
      have hschedule := afterFilters_of_ok hs name ((graph.filters.mapM createFilter) state).state
      rw [hschedule.1] at hrest
      obtain ⟨ht, hst, rfl, hp⟩ := afterSchedule_eq_ok hrest
      exact ⟨graph, schedule, _, _, rfl, rfl, hf, hs, rfl, ht,
        hcompile.2.trans (hfilters.2.trans (hschedule.2.trans hst)), hp⟩

end Stages

section Reliable

variable {filters : List B.Filter} {good : B.State → Prop} {name : String}

/-- All filters of a graph are created. -/
theorem createFilters_succeeds (reliable : B.Reliable good)
    (flats : List (Flat.Filter B.Descriptor)) :
    (flats.mapM createFilter).Succeeds good
      fun filters state => good state ∧ List.Forall₂ (fun _ _ => True) flats filters := by
  refine Action.Succeeds.mapM (I := fun _ state => good state) (fun _ flat _ => ?_) []
  refine ((reliable.createFilter flat.spec).mapError _).imp fun filter state hs => ?_
  exact ⟨hs, trivial⟩

/-- What is scheduled is allocated. -/
theorem afterSchedule_succeeds (reliable : B.Reliable good)
    (wf : (problem graph filters).WellFormed layout.outputs) {schedule : Solution B.Format}
    (solved : ((problem graph filters).solve layout.outputs).1 = .ok schedule) :
    (afterSchedule name layout graph filters schedule).Succeeds good fun _ _ => True := by
  obtain ⟨final, complete, hf⟩ := wf.exists_finish solved
  have finished := State.finish_eq_ok hf
  have hu : ∀ target ∈ schedule.targets, target.users ≠ [] :=
    fun target ht => finished.users_ne_nil complete ht
  refine (allocateAll_succeeds reliable graph hu).bind fun targets state hs => ?_
  have hc := checkFormats_eq_ok reliable.matchesFormat complete finished hs.2
  refine ⟨⟨filters, targets, plan name layout graph schedule⟩, ?_, trivial⟩
  simp [Action.ofExcept, Action.report, Bind.bind, Action.bind, Pure.pure, Action.pure, hc]

/-- A layout is compiled when it is complete and no filter depends on itself, and only then; if
it is complete and not compiled, that is a build error. -/
theorem compile_cases (constructed : layout.Constructed) (reliable : B.Reliable good)
    {state : B.State} (hs : good state) :
    (layout.Complete ∧ layout.Acyclic ∧
      ∃ compiled, (compile name layout state).result = .ok compiled) ∨
    (¬ (layout.Complete ∧ layout.Acyclic) ∧
      ∃ e, (compile name layout state).result = .error e ∧
        (layout.Complete → e.kind = .build)) := by
  rcases Flat.flatten_cases constructed with ⟨matched, graph, hg, flattened⟩ | ⟨hm, e, he, -⟩
  · have hacyclic : layout.Acyclic ↔ ∀ i, ¬ Relation.TransGen graph.Feeds i i := by
      refine ⟨fun h => h graph hg, fun h graph' hg' => ?_⟩
      obtain rfl : graph = graph' := Except.ok.inj (hg.symm.trans hg')
      exact h
    obtain ⟨filters, hf, hs', hz⟩ := createFilters_succeeds reliable graph.filters state hs
    have hl : filters.length = graph.filters.length := hz.length_eq.symm
    have wf := wellFormed constructed flattened hl
    have hclosed : (problem graph filters).Closed layout.outputs ↔ layout.Complete := by
      rw [closed_iff flattened hl, Layout.complete_iff, and_iff_right matched]
    have hcompile : (compile name layout state).result = (afterFilters name layout graph filters
        ((graph.filters.mapM createFilter) state).state).result := by
      rw [(compile_of_flatten_ok hg name state).1, (Action.bind_of_ok hf _).1]
    cases hsolve : ((problem graph filters).solve layout.outputs).1 with
    | ok schedule =>
      obtain ⟨compiled, hc, -⟩ := afterSchedule_succeeds reliable wf hsolve _ hs'
      refine Or.inl ⟨hclosed.mp (wf.closed_of_solve hsolve),
        hacyclic.mpr (wf.acyclic_of_solve hsolve), compiled, ?_⟩
      rw [hcompile, (afterFilters_of_ok hsolve _ _).1, hc]
    | error e =>
      have hstuck : layout.Complete → ¬ layout.Acyclic ∧ e.kind = .build := by
        intro complete
        rcases wf.solve_cases (hclosed.mpr complete) with ⟨schedule, hok⟩ | ⟨hc, e', he', hk⟩
        · rw [hsolve] at hok
          cases hok
        · obtain rfl : e = e' := Except.error.inj (hsolve.symm.trans he')
          exact ⟨fun ha => hc (hacyclic.mp ha), hk⟩
      refine Or.inr ⟨fun h => (hstuck h.1).1 h.2, e.within (.scheduling name), ?_, ?_⟩
      · rw [hcompile, afterFilters_of_error hsolve]
      · exact fun complete => (hstuck complete).2
  · refine Or.inr ⟨fun h => hm h.1.matched, _, compile_of_flatten_error he, ?_⟩
    exact fun complete => absurd complete.matched hm

end Reliable

/-- The exact condition for a layout to be built. On a device that does what it is told, building
succeeds when nothing is missing at any level of the layout and no filter of the flattened graph
depends on itself, and only then. If only the latter fails, that is a build error. -/
theorem build_succeeds_iff (layout : Layout B.Descriptor) (constructed : layout.Constructed)
    {good : B.State → Prop} (reliable : B.Reliable good) (name : String) (state : B.State)
    (hs : good state) :
    ((∃ pipeline, (Pipeline.build name layout state).result = .ok pipeline) ↔
      layout.Complete ∧ layout.Acyclic) ∧
    (layout.Complete → ¬ layout.Acyclic →
      ∃ e, (Pipeline.build name layout state).result = .error e ∧ e.kind = .build) := by
  rcases compile_cases constructed reliable hs with
    ⟨complete, acyclic, compiled, hc⟩ | ⟨hn, e, he, hk⟩
  · have hok : ∃ pipeline, (Pipeline.build name layout state).result = .ok pipeline :=
      ⟨_, (Action.bind_of_ok hc _).1⟩
    exact ⟨iff_of_true hok ⟨complete, acyclic⟩, fun _ ha => absurd acyclic ha⟩
  · have hfail : (Pipeline.build name layout state).result = .error e := Action.bind_of_error he _
    refine ⟨iff_of_false ?_ hn, fun complete _ => ⟨e, hfail, hk complete⟩⟩
    rintro ⟨pipeline, hok⟩
    rw [hfail] at hok
    cases hok

section Picture

open Flat (picture box framed)
open Device (Memory TermDescriptor)

/-- A device in memory that refuses no filters does what it is told. -/
theorem memory_reliable : Device.memory.Reliable fun device => device.failCreate = none where
  createFilter := by
    intro spec device hd
    refine ⟨.ofSpec spec, ?_, ?_⟩ <;> simp [Memory.createFilter, hd]
  createTarget := by
    intro format attachments device hd
    have hmade : ∀ n (device : Memory),
        (Memory.textures n device).2.failCreate = device.failCreate := by
      intro n
      induction n with
      | zero => exact fun _ => rfl
      | succ n ih => exact fun device => (ih _).trans rfl
    exact ⟨_, rfl, (hmade attachments _).trans hd, rfl⟩
  addAttachment := by
    intro target device hd
    exact ⟨_, rfl, hd, rfl, by simp⟩
  matchesFormat := fun _ _ h => decide_eq_true h

/-- The picture is visited first, then the box in it. -/
theorem picture_visited {δ : Type} (descriptor : δ) :
    Flat.visited (picture descriptor) = [⟨[], picture descriptor⟩, ⟨[0], box descriptor⟩] := by
  have hbox : (⟨[], picture descriptor⟩ : Flat.Occurrence δ).nested = [⟨[0], box descriptor⟩] := rfl
  have hnone : (⟨[0], box descriptor⟩ : Flat.Occurrence δ).nested = [] := rfl
  simp [Flat.visited, Flat.visits, hbox, hnone]

/-- The only filter of the picture. -/
theorem picture_filter {δ : Type} {descriptor : δ} {address : List Nat} {spec : FilterSpec δ}
    (h : (picture descriptor).at? address = some (.filter spec)) :
    address = [0, 0] ∧ spec = ⟨"Blur", ⟨["in"]⟩, ⟨["out"]⟩, descriptor⟩ := by
  have hm := Flat.mem_filtersIn_iff.mpr h
  have hf : Flat.filtersIn (picture descriptor) =
      [([0, 0], ⟨"Blur", ⟨["in"]⟩, ⟨["out"]⟩, descriptor⟩)] := by
    rw [Flat.filtersIn, picture_visited]
    rfl
  rw [hf, List.mem_singleton, Prod.mk.injEq] at hm
  exact hm

/-- Nothing is missing in the picture. -/
theorem picture_complete {δ : Type} (descriptor : δ) : (picture descriptor).Complete := by
  have hbox : (picture descriptor).at? [0] = some (.pipeline (box descriptor)) := rfl
  refine Layout.complete_iff.mpr ⟨Flat.picture_matched descriptor, ?_⟩
  constructor
  case fed =>
    intro address spec ha port hp
    obtain ⟨rfl, rfl⟩ := picture_filter ha
    obtain rfl : port = 0 := Nat.lt_one_iff.mp hp
    exact (Layout.authored_target_iff hbox (.member 0) 0).mpr ⟨_, List.mem_cons_self, rfl⟩
  case renders =>
    intro address spec ha
    obtain ⟨rfl, rfl⟩ := picture_filter ha
    exact Nat.one_ne_zero
  case read =>
    intro address spec ha port hp
    obtain ⟨rfl, rfl⟩ := picture_filter ha
    obtain rfl : port = 0 := Nat.lt_one_iff.mp hp
    exact (Layout.authored_origin_iff hbox (.member 0) 0).mpr
      ⟨⟨.member 0, 0, .boundary, 0⟩, by simp [box, framed], rfl⟩
  case resolved =>
    intro port hp
    obtain rfl : port = 0 := Nat.lt_one_iff.mp hp
    exact ⟨_, ⟨[], picture descriptor, rfl, ⟨.member 0, 0, .boundary, 0⟩,
      by simp [picture, framed], rfl⟩, rfl⟩

/-- The only filter of the picture does not depend on itself. -/
theorem picture_acyclic {δ : Type} (descriptor : δ) : (picture descriptor).Acyclic := by
  have hf : Flat.flatten (picture descriptor) =
      .ok ⟨[⟨"box::blur", ⟨"Blur", ⟨["in"]⟩, ⟨["out"]⟩, descriptor⟩⟩],
        [⟨.boundary, 0, .member 0, 0⟩, ⟨.member 0, 0, .boundary, 0⟩]⟩ := by cbv
  intro graph hg i hi
  obtain rfl := Except.ok.inj (hf.symm.trans hg)
  obtain ⟨j, ⟨c, hc, hs, hd⟩, -⟩ := Relation.TransGen.head'_iff.mp hi
  have hends : c.source = .boundary ∨ c.destination = .boundary := by
    rcases List.mem_pair.mp hc with rfl | rfl
    · exact Or.inl rfl
    · exact Or.inr rfl
  rw [hs, hd] at hends
  simp at hends

/-- How the filter of the picture renders. -/
def plain : TermDescriptor := ⟨"rgba8", 16⟩

/-- The picture is built on a new device. -/
theorem picture_built : ∃ pipeline : Pipeline Device.memory,
    (Pipeline.build "picture" (picture plain) (Memory.fresh none)).result = .ok pipeline :=
  (build_succeeds_iff (B := Device.memory) (picture plain) (Flat.picture_constructed plain)
    memory_reliable "picture" (Memory.fresh none) rfl).1.mpr
    ⟨picture_complete plain, picture_acyclic plain⟩

/-- The picture as it is built on a new device. -/
def pictured : Pipeline Device.memory where
  name := "picture"
  layout := picture plain
  filters := [.ofSpec ⟨"Blur", ⟨["in"]⟩, ⟨["out"]⟩, plain⟩]
  targets := [⟨"rgba8", [⟨1, 0⟩]⟩]
  plan :=
    { name := "picture"
      filters := [⟨0, "box::blur", "Blur", 0, [.input 0]⟩]
      schedule := [0]
      targets := [⟨0, "\"rgba8\"", 1, [0]⟩]
      connections := [⟨.boundary, 0, .member 0, 0⟩, ⟨.member 0, 0, .boundary, 0⟩]
      inputs := ["in"]
      outputs := [⟨"out", .attachment 0 0⟩] }
  inputs := []
  monitor := .off

end Picture

end Compile

end RenderGraph
