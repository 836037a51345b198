import RenderGraph.Proofs.Schedule.Run
import Mathlib.Data.Fintype.EquivFin
import Mathlib.Order.WellFounded
import Mathlib.Logic.Relation

/-!
# When a graph can be scheduled

The scheduler succeeds exactly on graphs in which every port that needs a
connection has one and no filter depends on itself. If only the latter fails, it
gets stuck.
-/

namespace RenderGraph.Schedule

variable {φ : Type} {problem : Problem φ} {outputs : Ports}

/-- A filter depends on another one, directly or through others. -/
def Problem.Depends (problem : Problem φ) (producer consumer : Nat) : Prop :=
  Relation.TransGen problem.Feeds producer consumer

/-- No filter depends on itself. -/
def Problem.Acyclic (problem : Problem φ) : Prop :=
  ∀ i, ¬ problem.Depends i i

/-- No port that needs a connection is left open. -/
structure Problem.Closed (problem : Problem φ) (outputs : Ports) : Prop where
  /-- Every input of a filter has a source. -/
  fed : ∀ i task, problem.tasks[i]? = some task → ∀ port < task.inputs.size,
    ∃ c ∈ problem.connections, c.target = (.member i, port)
  /-- Every filter has outputs, and all of them are read. -/
  allRead : ∀ i task, problem.tasks[i]? = some task → problem.AllRead i task
  /-- Every output of the pipeline is fed by a filter. -/
  resolved : ∀ port < outputs.size, ∃ c ∈ problem.connections,
    c.target = (.boundary, port) ∧ c.source ≠ .boundary

section Dependencies

/-- Of filters none of which depends on itself, one depends on none of the others. -/
theorem Problem.exists_first (problem : Problem φ) {n : Nat} {p : Nat → Prop}
    (hp : ∀ i, p i → ¬ problem.Depends i i) (hn : ∃ i < n, p i) :
    ∃ i < n, p i ∧ ∀ j < n, p j → ¬ problem.Depends j i := by
  let Those := { i : Fin n // p i }
  have htrans : IsTrans Those fun j i => problem.Depends j.1 i.1 := ⟨fun _ _ _ h k => h.trans k⟩
  have hirrefl : Std.Irrefl fun j i : Those => problem.Depends j.1 i.1 := ⟨fun i => hp i.1 i.2⟩
  have wf := Finite.wellFounded_of_trans_of_irrefl fun j i : Those => problem.Depends j.1 i.1
  obtain ⟨i, hi, hpi⟩ := hn
  obtain ⟨⟨m, hm⟩, -, hmin⟩ := wf.has_min Set.univ ⟨⟨⟨i, hi⟩, hpi⟩, trivial⟩
  exact ⟨m, m.isLt, hm, fun j hj hpj => hmin ⟨⟨j, hj⟩, hpj⟩ trivial⟩

/-- Of the filters that are not scheduled yet, one depends on scheduled filters only. -/
theorem Problem.Acyclic.exists_ready (acyclic : problem.Acyclic) {n : Nat} {order : List Nat}
    (hn : ∃ i < n, i ∉ order) :
    ∃ i < n, i ∉ order ∧ ∀ j < n, problem.Feeds j i → j ∈ order := by
  obtain ⟨m, hm, ho, hfirst⟩ := problem.exists_first (p := (· ∉ order)) (fun i _ => acyclic i) hn
  refine ⟨m, hm, ho, fun j hj hf => ?_⟩
  by_contra hjo
  exact hfirst j hj hjo (.single hf)

/-- In an order that respects the connections no filter depends on itself. -/
theorem Problem.acyclic_of_before {order : List Nat} (hn : order.Nodup)
    (h : ∀ i j, problem.Feeds i j → Before order i j) : problem.Acyclic := by
  intro i hi
  have hb : ∀ j, problem.Depends i j → Before order i j := by
    intro j hj
    induction hj with
    | single hf => exact h _ _ hf
    | tail _ hf ih => exact ih.trans hn (h _ _ hf)
  exact Before.irrefl hn (hb i hi)

end Dependencies

section Candidates

/-- If no input is left open, a filter whose sources are all scheduled misses no texture. -/
theorem Problem.Closed.unsupplied_eq_zero (closed : problem.Closed outputs)
    (wf : problem.WellFormed outputs) {order : List Nat} {i : Nat} {task : Task φ}
    (ht : problem.tasks[i]? = some task) (h : ∀ j, problem.Feeds j i → j ∈ order) :
    problem.unsupplied order i task.inputs.size = 0 := by
  refine List.countP_eq_zero.mpr fun port hp => ?_
  obtain ⟨c, hc, hct⟩ := closed.fed i task ht port (List.mem_range.mp hp)
  have hs := wf.fedOnce.sourceOf?_eq hc hct
  rw [Problem.supplied, hs, Option.any_some]
  cases hsrc : c.source with
  | boundary => simp [provides]
  | member j =>
    have hj := h j (problem.feeds_of_sourceOf? hs hsrc)
    simp [provides, hj]

variable {state : State φ}

/-- As long as filters are left, one of them has become ready. -/
theorem State.Sound.exists_candidate (sound : state.Sound problem)
    (wf : problem.WellFormed outputs) (closed : problem.Closed outputs)
    (acyclic : problem.Acyclic) (hl : state.order.length < problem.tasks.length) :
    ∃ i, i ∈ state.promote.candidates := by
  have hleft : ∃ i < problem.tasks.length, i ∉ state.order := by
    by_contra hall
    have hsub : List.range problem.tasks.length ⊆ state.order := by
      intro i hi
      by_contra ho
      exact hall ⟨i, List.mem_range.mp hi, ho⟩
    have hle := (List.subperm_of_subset List.nodup_range hsub).length_le
    rw [List.length_range] at hle
    omega
  obtain ⟨i, hi, ho, hready⟩ := acyclic.exists_ready hleft
  have ht := List.getElem?_eq_getElem hi
  have hall : ∀ j, problem.Feeds j i → j ∈ state.order := by
    intro j hf
    obtain ⟨c, hc, hsrc, -⟩ := id hf
    obtain ⟨task, hj, -⟩ := wf.source c hc j hsrc
    exact hready j (List.getElem?_eq_some_iff.mp hj).1 hf
  have hz := closed.unsupplied_eq_zero wf ht hall
  refine ⟨i, ?_⟩
  by_contra hc
  have hm := sound.promote.counted i _ ht ho hc
  exact state.promote_missing_ne_zero i (hm.trans (congrArg (some <| some ·) hz))

variable [DecidableEq φ]

/-- A candidate can be scheduled if no port is left open. -/
theorem State.Sound.exists_schedule (sound : state.Sound problem)
    (wf : problem.WellFormed outputs) (closed : problem.Closed outputs) {index : Nat}
    {task : Task φ} (hc : index ∈ state.candidates) (ht : problem.tasks[index]? = some task) :
    ∃ next, state.schedule problem index task = .ok next := by
  obtain ⟨bindings, bound⟩ := sound.exists_bound wf.wellFed hc ht
  exact ⟨_, State.schedule_eq_ok_iff.mpr ⟨closed.allRead index task ht, bindings, bound, rfl⟩⟩

/-- A step that fails although no port is left open finds no candidate. -/
theorem State.Sound.step_cases (sound : state.Sound problem) (wf : problem.WellFormed outputs)
    (closed : problem.Closed outputs) :
    (∃ next, Schedule.step problem state = .ok next) ∨ (state.promote.candidates = [] ∧
      ∃ e, Schedule.step problem state = .error e ∧ e.kind = .build) := by
  cases hc : choose? problem state.promote with
  | none =>
    refine Or.inr ⟨sound.promote.choose?_eq_none hc, ?_⟩
    refine ⟨⟨.stuckScheduling ((waiting state.promote.missing).map problem.pathOf), []⟩, ?_, rfl⟩
    rw [Schedule.step, hc]
  | some entry =>
    obtain ⟨index, task⟩ := entry
    obtain ⟨hm, ht⟩ := choose?_sound hc
    obtain ⟨next, hs⟩ := sound.promote.exists_schedule wf closed hm ht
    exact Or.inl ⟨next, by rw [Schedule.step, hc]; exact hs⟩

/-- With nothing left open a run either goes through all filters or gets stuck. -/
theorem State.Sound.steps_cases (wf : problem.WellFormed outputs)
    (closed : problem.Closed outputs) (n : Nat) {state : State φ} (sound : state.Sound problem)
    (hl : state.order.length + n = problem.tasks.length) :
    (∃ final, Schedule.steps problem n state = (final, none)) ∨
      (¬ problem.Acyclic ∧
        ∃ final e, Schedule.steps problem n state = (final, some e) ∧ e.kind = .build) := by
  induction n generalizing state with
  | zero => exact Or.inl ⟨state, rfl⟩
  | succ n ih =>
    rw [Schedule.steps]
    rcases sound.step_cases wf closed with ⟨next, hs⟩ | ⟨hc, e, hs, hk⟩
    · obtain ⟨sound', index, ho⟩ := sound.step wf.wellFed hs
      rw [hs]
      refine ih sound' ?_
      rw [ho, List.length_append, List.length_singleton]
      omega
    · refine Or.inr ⟨fun acyclic => ?_, state, e, by rw [hs], hk⟩
      obtain ⟨i, hi⟩ := sound.exists_candidate wf closed acyclic (by omega)
      rw [hc] at hi
      cases hi

end Candidates

section Solving

/-- A complete state describes a schedule if every output is fed by a filter. -/
theorem State.Complete.exists_finish {final : State φ} (complete : final.Complete problem)
    (wf : problem.WellFormed outputs) (closed : problem.Closed outputs) :
    ∃ schedule, final.finish problem outputs = .ok schedule := by
  have hout : ∀ entry ∈ outputs.names.zipIdx, ∃ binding,
      outputBinding problem final.assignments entry.2 entry.1 = .ok binding := by
    rintro ⟨name, port⟩ hm
    have hp := (List.getElem?_eq_some_iff.mp (List.mem_zipIdx_iff_getElem?.mp hm)).1
    obtain ⟨c, hc, ht, hne⟩ := closed.resolved port hp
    cases hs : c.source with
    | boundary => exact absurd hs hne
    | member j =>
      obtain ⟨task, hj, -⟩ := wf.source c hc j hs
      have hjo := complete.mem_order j (List.getElem?_eq_some_iff.mp hj).1
      obtain ⟨target, ha⟩ := (complete.sound.assigned j).mp hjo
      refine ⟨.attachment target c.sourcePort, outputBinding_eq_ok_iff.mpr
        ⟨c, j, wf.fedOnce.sourceOf?_eq hc ht, hs, ?_⟩⟩
      rw [Resolves, hs]
      exact ⟨target, ha, rfl⟩
  obtain ⟨found, hfound⟩ := exists_mapM_eq_ok hout
  obtain ⟨assignments, hassigned⟩ := exists_mapM_eq_ok complete.exists_assignment
  refine ⟨⟨final.order, assignments, final.bindings, found, final.leases.map Lease.toTarget⟩, ?_⟩
  simp only [State.finish_eq, hfound, hassigned, bind, Except.bind, pure, Except.pure]

variable [DecidableEq φ]

/-- A graph without open ports is scheduled, or a filter depends on itself and the scheduler gets
stuck. -/
theorem Problem.WellFormed.solve_cases (wf : problem.WellFormed outputs)
    (closed : problem.Closed outputs) :
    (∃ schedule, (problem.solve outputs).1 = .ok schedule) ∨
      (¬ problem.Acyclic ∧ ∃ e, (problem.solve outputs).1 = .error e ∧ e.kind = .build) := by
  rcases (start_sound wf.wellFed).steps_cases wf closed problem.tasks.length (by simp [start]) with
    ⟨final, hf⟩ | ⟨hc, final, e, hf, hk⟩
  · obtain ⟨schedule, hs⟩ := (exists_complete_of_steps wf hf).exists_finish wf closed
    exact Or.inl ⟨schedule, by rw [Problem.solve, hf]; exact hs⟩
  · exact Or.inr ⟨hc, e, by rw [Problem.solve, hf], hk⟩

/-- A graph that is scheduled has no open ports. -/
theorem Problem.WellFormed.closed_of_solve (wf : problem.WellFormed outputs)
    {schedule : Solution φ} (h : (problem.solve outputs).1 = .ok schedule) :
    problem.Closed outputs where
  fed := by
    obtain ⟨final, complete, -⟩ := wf.exists_finish h
    intro i task ht port hp
    have hi := complete.mem_order i (List.getElem?_eq_some_iff.mp ht).1
    obtain ⟨bindings, -, bound⟩ := complete.sound.bound i hi task ht
    obtain ⟨binding, -, c, hc, -⟩ := exists_left_of_forall₂ bound.flip (List.mem_range.mpr hp)
    exact ⟨c, sourceOf?_sound hc⟩
  allRead := by
    obtain ⟨final, complete, -⟩ := wf.exists_finish h
    intro i task ht
    have hi := complete.mem_order i (List.getElem?_eq_some_iff.mp ht).1
    exact complete.sound.allRead i hi task ht
  resolved := by
    obtain ⟨final, complete, hf⟩ := wf.exists_finish h
    have finished := State.finish_eq_ok hf
    intro port hp
    have hm : (outputs.names[port], port) ∈ outputs.names.zipIdx :=
      List.mem_zipIdx_iff_getElem?.mpr (List.getElem?_eq_getElem hp)
    obtain ⟨binding, -, hb⟩ := exists_left_of_forall₂ finished.outputs.flip hm
    obtain ⟨c, producer, hc, hs, -⟩ := outputBinding_eq_ok_iff.mp hb
    obtain ⟨hcm, ht⟩ := sourceOf?_sound hc
    exact ⟨c, hcm, ht, by simp [hs]⟩

/-- In a graph that is scheduled no filter depends on itself. -/
theorem Problem.WellFormed.acyclic_of_solve (wf : problem.WellFormed outputs)
    {schedule : Solution φ} (h : (problem.solve outputs).1 = .ok schedule) :
    problem.Acyclic := by
  obtain ⟨final, complete, -⟩ := wf.exists_finish h
  refine problem.acyclic_of_before complete.sound.nodup fun i j hf => ?_
  have hj : j ∈ final.order := by
    obtain ⟨c, hc, -, hd⟩ := hf
    obtain ⟨task, ht, -⟩ := wf.destination c hc j hd
    exact complete.mem_order j (List.getElem?_eq_some_iff.mp ht).1
  exact complete.sound.topological i j hf hj

end Solving

end RenderGraph.Schedule
