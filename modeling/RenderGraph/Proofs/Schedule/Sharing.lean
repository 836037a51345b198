import RenderGraph.Proofs.Schedule.Run

/-!
# Sharing render targets is safe

A render target passes to another filter only after everything that reads its
former user has been scheduled. No filter writes what it reads, and what feeds an
output of the pipeline is never overwritten.
-/

namespace RenderGraph.Schedule

variable {φ : Type} [DecidableEq φ]

/-- Of two filters with the same target the earlier one feeds no output of the pipeline and all
its readers come before the later one. Hence no filter has the target of a filter it reads, and
a filter that feeds an output of the pipeline is the last one with its target. -/
theorem shared_target_released (problem : Problem φ) (outputs : Ports)
    (wf : problem.WellFormed outputs) (schedule : Solution φ)
    (solved : (problem.solve outputs).1 = .ok schedule) :
    (∀ i j target : Nat, schedule.assignments[i]? = some target →
      schedule.assignments[j]? = some target → Before schedule.order i j →
      (∀ c ∈ problem.connections, c.source = .member i → c.destination ≠ .boundary) ∧
        ∀ reader, problem.Feeds i reader → Before schedule.order reader j) ∧
    (∀ i j : Nat, problem.Feeds i j → schedule.assignments[i]? ≠ schedule.assignments[j]?) ∧
    (∀ i j target : Nat, schedule.assignments[i]? = some target →
      schedule.assignments[j]? = some target →
      (∃ c ∈ problem.connections, c.source = .member i ∧ c.destination = .boundary) →
      j ≠ i → Before schedule.order j i) := by
  obtain ⟨final, complete, hf⟩ := wf.exists_finish solved
  have finished := State.finish_eq_ok hf
  have sound := complete.sound
  have released : ∀ i j target : Nat, schedule.assignments[i]? = some target →
      schedule.assignments[j]? = some target → Before final.order i j →
      ∀ c ∈ problem.connections, c.source = .member i →
        ∃ k, c.destination = .member k ∧ Before final.order k j :=
    fun i j target hi hj => sound.released i j target (finished.assigned.mp hi)
      (finished.assigned.mp hj)
  rw [finished.order]
  refine ⟨?_, ?_, ?_⟩
  · intro i j target hi hj hb
    constructor
    · intro c hc hs hd
      obtain ⟨k, hk, -⟩ := released i j target hi hj hb c hc hs
      rw [hd] at hk
      cases hk
    · rintro reader ⟨c, hc, hs, hd⟩
      obtain ⟨k, hk, hkj⟩ := released i j target hi hj hb c hc hs
      rw [hd, Anchor.member.injEq] at hk
      exact hk ▸ hkj
  · rintro i j ⟨c, hc, hs, hd⟩ he
    obtain ⟨task, ht, -⟩ := wf.destination c hc j hd
    have hj := complete.mem_order j (List.getElem?_eq_some_iff.mp ht).1
    obtain ⟨target, ha⟩ := (sound.assigned j).mp hj
    have haj := finished.assigned.mpr ha
    have hb := sound.topological i j ⟨c, hc, hs, hd⟩ hj
    obtain ⟨k, hk, hkj⟩ := released i j target (he.trans haj) haj hb c hc hs
    rw [hd, Anchor.member.injEq] at hk
    exact Before.irrefl sound.nodup (hk ▸ hkj)
  · rintro i j target hi hj ⟨c, hc, hs, hd⟩ hne
    have him := finished.mem_order complete hi
    have hjm := finished.mem_order complete hj
    refine (Before.total him hjm hne.symm).resolve_left fun hb => ?_
    obtain ⟨k, hk, -⟩ := released i j target hi hj hb c hc hs
    rw [hd] at hk
    cases hk

/-- Three filters in a row, all in one format. -/
def relay : Problem Bool where
  tasks := [⟨"a", ⟨["in"]⟩, ⟨["out"]⟩, true, 16⟩, ⟨"b", ⟨["in"]⟩, ⟨["out"]⟩, true, 16⟩,
    ⟨"c", ⟨["in"]⟩, ⟨["out"]⟩, true, 16⟩]
  connections := [⟨.boundary, 0, .member 0, 0⟩, ⟨.member 0, 0, .member 1, 0⟩,
    ⟨.member 1, 0, .member 2, 0⟩, ⟨.member 2, 0, .boundary, 0⟩]
  formatText := fun _ => "format"

/-- The connections of the row name existing ports, each of which is fed once. -/
theorem relay_wellFormed : relay.WellFormed ⟨["out"]⟩ := by
  constructor
  · decide
  · simp [relay, Ports.size]
  · simp [relay, Ports.size]
  · simp [relay, Ports.size]

/-- The schedule of the row: its last filter takes the target of its first one. -/
def relaySchedule : Solution Bool where
  order := [0, 1, 2]
  assignments := [0, 1, 0]
  bindings := [[.input 0], [.attachment 0 0], [.attachment 1 0]]
  outputs := [.attachment 0 0]
  targets := [⟨true, 1, [0, 2]⟩, ⟨true, 1, [1]⟩]

/-- The first filter of the row shares its target with the last one, which comes after the only
reader of the first. -/
theorem relay_target_released : relay.WellFormed ⟨["out"]⟩ ∧
    (relay.solve ⟨["out"]⟩).1 = .ok relaySchedule ∧
    relaySchedule.assignments[0]? = relaySchedule.assignments[2]? ∧
    ∀ reader, relay.Feeds 0 reader → Before relaySchedule.order reader 2 :=
  have solved : (relay.solve ⟨["out"]⟩).1 = .ok relaySchedule := rfl
  ⟨relay_wellFormed, solved, rfl,
    ((shared_target_released relay ⟨["out"]⟩ relay_wellFormed relaySchedule solved).1 0 2 0 rfl rfl
      ⟨0, 2, by decide, rfl, rfl⟩).2⟩

end RenderGraph.Schedule
