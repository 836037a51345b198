import RenderGraph.Proofs.Schedule.Preservation
import Mathlib.Data.List.Perm.Subperm
import Mathlib.Data.List.Permutation

/-!
# Complete runs of the scheduler

From the first state on every step keeps the invariant and schedules one filter.
A run that succeeds therefore ends in a state in which all filters are scheduled,
and the schedule is read off that state.
-/

namespace RenderGraph.Schedule

variable {φ : Type} {problem : Problem φ} {outputs : Ports}

/-- The state before the first step satisfies the invariant. -/
theorem start_sound (wf : problem.WellFed) : (start problem).Sound problem := by
  have hnone : ∀ i : Nat, (start problem).assignments[i]?.join = none := by
    intro i
    simp only [start, List.getElem?_map]
    cases problem.tasks[i]? <;> rfl
  constructor
  case nodup => exact List.nodup_nil
  case range => exact fun i hi => absurd hi List.not_mem_nil
  case assignments_length => exact List.length_map _
  case bindings_length => exact List.length_map _
  case assigned =>
    refine fun i => ⟨fun hi => absurd hi List.not_mem_nil, fun ⟨target, ht⟩ => ?_⟩
    rw [hnone] at ht
    cases ht
  case candidates_nodup => exact List.nodup_nil
  case candidate => exact fun i hi => absurd hi List.not_mem_nil
  case missing_length => exact (length_foldl_supply _ _).trans (List.length_map _)
  case uncounted => rintro i (hi | hi) <;> exact absurd hi List.not_mem_nil
  case counted =>
    intro i task ht _ _
    simp only [start, getElem?_foldl_supply, List.getElem?_map, ht, Option.map_some]
    exact congrArg (some <| some ·) (wf.unsupplied_nil ht).symm
  case topological => exact fun i j _ hj => absurd hj List.not_mem_nil
  case allRead => exact fun i hi => absurd hi List.not_mem_nil
  case bound => exact fun i hi => absurd hi List.not_mem_nil
  case leased =>
    intro i target hi
    rw [hnone] at hi
    cases hi
  case kept => exact fun target lease hl => by cases hl
  case released =>
    intro i j target hi
    rw [hnone] at hi
    cases hi

section Choice

variable {α : Type} {weight : α → Nat}

/-- The lightest element is one of the list. -/
theorem lightest?_mem {list : List α} {a : α} (h : lightest? weight list = some a) :
    a ∈ list := by
  induction list generalizing a with
  | nil => cases h
  | cons b rest ih =>
    simp only [lightest?] at h
    split at h
    · exact Option.some.inj h ▸ List.mem_cons_self
    case h_2 c hc =>
      split at h
      · exact Option.some.inj h ▸ List.mem_cons_of_mem b (ih hc)
      · exact Option.some.inj h ▸ List.mem_cons_self

variable {state : State φ}

/-- A candidate is known to be a filter. -/
theorem mem_candidateTasks {index : Nat} {task : Task φ} :
    (index, task) ∈ candidateTasks problem state ↔
      index ∈ state.candidates ∧ problem.tasks[index]? = some task := by
  simp only [candidateTasks, List.mem_filterMap, Option.map_eq_some_iff, Prod.mk.injEq]
  constructor
  · rintro ⟨i, hi, found, hf, rfl, rfl⟩
    exact ⟨hi, hf⟩
  · rintro ⟨hi, hf⟩
    exact ⟨index, hi, task, hf, rfl, rfl⟩

variable [DecidableEq φ]

/-- Only a candidate is chosen. -/
theorem choose?_sound {index : Nat} {task : Task φ}
    (h : choose? problem state = some (index, task)) :
    index ∈ state.candidates ∧ problem.tasks[index]? = some task := by
  simp only [choose?] at h
  split at h
  case h_1 entry hl =>
    rw [Option.some.inj h] at hl
    exact mem_candidateTasks.mp (List.mem_filter.mp (lightest?_mem hl)).1
  case h_2 => exact mem_candidateTasks.mp (List.mem_of_mem_head? h)

/-- A candidate is chosen as long as there is one. -/
theorem State.Sound.choose?_eq_none (sound : state.Sound problem)
    (h : choose? problem state = none) : state.candidates = [] := by
  simp only [choose?] at h
  split at h
  · cases h
  rw [List.head?_eq_none_iff] at h
  apply List.eq_nil_iff_forall_not_mem.mpr
  intro i hi
  obtain ⟨-, task, ht, -⟩ := sound.candidate i hi
  have hm := mem_candidateTasks.mpr ⟨hi, ht⟩
  rw [h] at hm
  cases hm

end Choice

section Results

/-- Where an output is found: at the filter that feeds it. -/
theorem outputBinding_eq_ok_iff {assignments : List (Option Nat)} {port : Nat} {name : String}
    {binding : Binding} :
    outputBinding problem assignments port name = .ok binding ↔
      ∃ c producer, sourceOf? problem.connections .boundary port = some c ∧
        c.source = .member producer ∧ Resolves assignments c binding := by
  simp only [outputBinding, getD_none_eq_join]
  cases sourceOf? problem.connections .boundary port with
  | none => simp
  | some c =>
    cases hs : c.source with
    | boundary => simp [hs]
    | member producer =>
      cases ha : assignments[producer]?.join with
      | none => simp [hs, ha, Resolves]
      | some target => simp [hs, ha, Resolves, eq_comm]

/-- What the schedule takes from the final state. -/
structure Finished (problem : Problem φ) (outputs : Ports) (final : State φ)
    (schedule : Solution φ) : Prop where
  /-- The order is that of the state. -/
  order : schedule.order = final.order
  /-- So are the bindings of the filters. -/
  bindings : schedule.bindings = final.bindings
  /-- The targets are those of the state, without their readers. -/
  targets : schedule.targets = final.leases.map Lease.toTarget
  /-- Every filter has the target that the state gives it. -/
  assignments : final.assignments = schedule.assignments.map some
  /-- Every output is resolved. -/
  outputs : List.Forall₂ (fun entry binding =>
    outputBinding problem final.assignments entry.2 entry.1 = .ok binding)
    outputs.names.zipIdx schedule.outputs

/-- A schedule is made of the outputs, the targets of the filters and the state. -/
theorem State.finish_eq (state : State φ) :
    state.finish problem outputs = do
      let found ← outputs.names.zipIdx.mapM fun entry =>
        outputBinding problem state.assignments entry.2 entry.1
      let assignments ← state.assignments.zipIdx.mapM fun entry =>
        assignmentOf problem entry.2 entry.1
      return ⟨state.order, assignments, state.bindings, found,
        state.leases.map Lease.toTarget⟩ :=
  rfl

/-- The schedule of a state in which every filter has a target and every output is resolved. -/
theorem State.finish_eq_ok {final : State φ} {schedule : Solution φ}
    (h : final.finish problem outputs = .ok schedule) :
    Finished problem outputs final schedule := by
  rw [State.finish_eq] at h
  cases hf : outputs.names.zipIdx.mapM fun entry =>
      outputBinding problem final.assignments entry.2 entry.1 with
  | error e => simp [hf, bind, Except.bind] at h
  | ok found =>
    cases ha : final.assignments.zipIdx.mapM fun entry =>
        assignmentOf problem entry.2 entry.1 with
    | error e => simp [hf, ha, bind, Except.bind] at h
    | ok assignments =>
      simp only [hf, ha, bind, Except.bind, pure, Except.pure, Except.ok.injEq] at h
      subst h
      refine ⟨rfl, rfl, rfl, ?_, mapM_eq_ok_iff.mp hf⟩
      have hz := mapM_eq_ok_iff.mp ha
      have hm : List.Forall₂ (fun (entry : Option Nat × Nat) target => entry.1 = some target)
          final.assignments.zipIdx assignments := by
        apply hz.imp
        rintro ⟨target, index⟩ found hfound
        cases target with
        | none => cases hfound
        | some target => exact congrArg some (Except.ok.inj hfound)
      calc final.assignments = final.assignments.zipIdx.map Prod.fst := by simp
        _ = assignments.map some := by
          rw [← List.forall₂_eq_eq_eq, List.forall₂_map_left_iff, List.forall₂_map_right_iff]
          exact hm

/-- A state in which all filters are scheduled. -/
structure State.Complete (problem : Problem φ) (state : State φ) : Prop where
  /-- The invariant holds. -/
  sound : state.Sound problem
  /-- Every filter is scheduled. -/
  mem_order : ∀ i < problem.tasks.length, i ∈ state.order

/-- As many filters as there are, all different, are all filters. -/
theorem State.Sound.complete {state : State φ} (sound : state.Sound problem)
    (hl : state.order.length = problem.tasks.length) : state.Complete problem := by
  refine ⟨sound, fun i hi => ?_⟩
  have hsub : state.order.Subperm (List.range problem.tasks.length) :=
    List.subperm_of_subset sound.nodup fun j hj => List.mem_range.mpr (sound.range j hj)
  have hperm := hsub.perm_of_length_le (by rw [List.length_range, hl])
  exact hperm.mem_iff.mpr (List.mem_range.mpr hi)

/-- Once every filter is scheduled every filter has a target. -/
theorem State.Complete.exists_assignment {state : State φ} (complete : state.Complete problem) :
    ∀ entry ∈ state.assignments.zipIdx, ∃ target,
      assignmentOf problem entry.2 entry.1 = .ok target := by
  rintro ⟨target, index⟩ hm
  have ht : state.assignments[index]? = some target := List.mem_zipIdx_iff_getElem?.mp hm
  have hl := (List.getElem?_eq_some_iff.mp ht).1
  rw [complete.sound.assignments_length] at hl
  obtain ⟨found, hf⟩ := (complete.sound.assigned index).mp (complete.mem_order index hl)
  rw [ht] at hf
  obtain rfl : target = some found := hf
  exact ⟨found, rfl⟩

/-- The schedule has the targets of the state it describes. -/
theorem Finished.assigned {final : State φ} {schedule : Solution φ}
    (finished : Finished problem outputs final schedule) {i target : Nat} :
    schedule.assignments[i]? = some target ↔ final.assignments[i]?.join = some target := by
  rw [finished.assignments, List.getElem?_map]
  cases schedule.assignments[i]? <;> simp

/-- A filter with a target is scheduled. -/
theorem Finished.mem_order {final : State φ} {schedule : Solution φ}
    (complete : final.Complete problem) (finished : Finished problem outputs final schedule)
    {i target : Nat}
    (hi : schedule.assignments[i]? = some target) : i ∈ final.order :=
  (complete.sound.assigned i).mpr ⟨target, finished.assigned.mp hi⟩

end Results

section Steps

variable [DecidableEq φ] {state : State φ}

/-- A step makes the ready filters candidates and schedules the one that is chosen. -/
theorem step_eq_ok {next : State φ} (h : step problem state = .ok next) :
    ∃ index task bindings, choose? problem state.promote = some (index, task) ∧
      problem.AllRead index task ∧
      problem.Bound (state.promote.assignmentsAfter problem index task) index task bindings ∧
      next = state.promote.advance problem index task bindings := by
  simp only [Schedule.step] at h
  split at h
  · cases h
  case h_2 index task hc =>
    obtain ⟨allRead, bindings, bound, rfl⟩ := State.schedule_eq_ok_iff.mp h
    exact ⟨index, task, bindings, hc, allRead, bound, rfl⟩

/-- A step schedules a filter that was ready, and keeps the invariant. -/
theorem State.Sound.step (sound : state.Sound problem) (wf : problem.WellFed)
    {next : State φ} (h : step problem state = .ok next) :
    next.Sound problem ∧ ∃ index, next.order = state.order ++ [index] := by
  obtain ⟨index, task, bindings, hc, allRead, bound, rfl⟩ := step_eq_ok h
  obtain ⟨hm, ht⟩ := choose?_sound hc
  exact ⟨sound.promote.advance wf hm ht allRead bound, index, rfl⟩

/-- What every step preserves holds at the end of a run. -/
theorem State.Sound.steps_induction (wf : problem.WellFed) {motive : State φ → Prop}
    (hstep : ∀ state next, state.Sound problem → motive state →
      Schedule.step problem state = .ok next → motive next)
    (n : Nat) {state final : State φ} (sound : state.Sound problem) (hm : motive state)
    (h : Schedule.steps problem n state = (final, none)) : motive final := by
  induction n generalizing state with
  | zero =>
    obtain rfl : state = final := congrArg Prod.fst h
    exact hm
  | succ n ih =>
    rw [Schedule.steps] at h
    split at h
    case h_1 next hn => exact ih (sound.step wf hn).1 (hstep state next sound hm hn) h
    case h_2 => cases h

/-- A run of so many steps schedules so many filters, and keeps the invariant. -/
theorem State.Sound.steps (wf : problem.WellFed) (n : Nat) {state final : State φ}
    (sound : state.Sound problem) (h : steps problem n state = (final, none)) :
    final.Sound problem ∧ final.order.length = state.order.length + n := by
  induction n generalizing state with
  | zero =>
    obtain rfl : state = final := congrArg Prod.fst h
    exact ⟨sound, rfl⟩
  | succ n ih =>
    rw [Schedule.steps] at h
    split at h
    case h_1 next hn =>
      obtain ⟨hs, index, ho⟩ := sound.step wf hn
      obtain ⟨hf, hl⟩ := ih hs h
      exact ⟨hf, by simp only [hl, ho, List.length_append, List.length_singleton]; omega⟩
    case h_2 => cases h

/-- A run that goes through all filters ends in a complete state. -/
theorem Problem.WellFed.complete_of_steps (wf : problem.WellFed) {final : State φ}
    (h : steps problem problem.tasks.length (start problem) = (final, none)) :
    final.Complete problem := by
  obtain ⟨sound, hl⟩ := (start_sound wf).steps wf _ h
  exact sound.complete (hl.trans (by simp [start]))

/-- So does one through a graph that the scheduler may rely on. -/
theorem exists_complete_of_steps (wf : problem.WellFormed outputs) {final : State φ}
    (h : steps problem problem.tasks.length (start problem) = (final, none)) :
    final.Complete problem :=
  wf.wellFed.complete_of_steps h

/-- A schedule is what the state at the end of a run describes. -/
theorem exists_steps {schedule : Solution φ} (h : (problem.solve outputs).1 = .ok schedule) :
    ∃ final : State φ, steps problem problem.tasks.length (start problem) = (final, none) ∧
      final.finish problem outputs = .ok schedule := by
  simp only [Problem.solve] at h
  split at h
  · cases h
  case h_2 final hf => exact ⟨final, hf, h⟩

/-- A schedule is what a complete final state describes. -/
theorem Problem.WellFormed.exists_finish (wf : problem.WellFormed outputs)
    {schedule : Solution φ} (h : (problem.solve outputs).1 = .ok schedule) :
    ∃ final : State φ, final.Complete problem ∧ final.finish problem outputs = .ok schedule := by
  obtain ⟨final, hf, hfinish⟩ := exists_steps h
  exact ⟨final, exists_complete_of_steps wf hf, hfinish⟩

end Steps

end RenderGraph.Schedule
