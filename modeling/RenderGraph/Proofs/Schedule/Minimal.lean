import RenderGraph.Proofs.Schedule.Faithful
import RenderGraph.Proofs.Schedule.Liveness
import Mathlib.Algebra.Order.BigOperators.Group.Finset
import Mathlib.Data.Finset.Max
import Mathlib.Order.Lattice.Nat

/-!
# The number of render targets

Filters that are live together cannot share a target, so no assignment has fewer
targets of a format than the largest number of filters of that format that are
live at one position. The scheduler plans exactly that many: the last target of
each format is planned at a position where all others of the format hold the
textures of live filters.
-/

namespace RenderGraph.Schedule

variable {φ : Type} [DecidableEq φ]

section Sharing

variable {problem : Problem φ} {order : List Nat} {τ : Type} {place : Nat → τ}

/-- An assignment of filters to targets in which those that share a target render the same format
and are never live together. -/
def Problem.Shareable (problem : Problem φ) (order : List Nat) {τ : Type} (place : Nat → τ) :
    Prop :=
  ∀ i < problem.tasks.length, ∀ j < problem.tasks.length, i ≠ j → place i = place j →
    problem.format? i = problem.format? j ∧
      ∀ k < order.length, ¬ (problem.Live order k i ∧ problem.Live order k j)

/-- The filters of a format are numbered and render it. -/
theorem Problem.mem_rendering {format : φ} {i : Nat} :
    i ∈ problem.rendering format ↔
      i < problem.tasks.length ∧ problem.format? i = some format := by
  unfold Problem.rendering
  rw [Finset.mem_filter, Finset.mem_range]

/-- Filters that are live together have different targets. -/
theorem Problem.Shareable.card_liveAt_le [DecidableEq τ] (shareable : problem.Shareable order place)
    (format : φ) {k : Nat} (hk : k < order.length) :
    (problem.liveAt order format k).card ≤ ((problem.rendering format).image place).card := by
  have hsub : problem.liveAt order format k ⊆ problem.rendering format := Finset.filter_subset _ _
  have hinj : Set.InjOn place (problem.liveAt order format k : Set Nat) := by
    intro i hi j hj he
    have hli := Finset.mem_filter.mp hi
    have hlj := Finset.mem_filter.mp hj
    have hri := Problem.mem_rendering.mp hli.1
    have hrj := Problem.mem_rendering.mp hlj.1
    by_contra hne
    have happart := (shareable i hri.1 j hrj.1 hne he).2 k hk
    exact happart ⟨hli.2, hlj.2⟩
  have hcard := Finset.card_image_of_injOn hinj
  have hle := Finset.card_le_card (Finset.image_subset_image (f := place) hsub)
  omega

/-- Filters of different formats have different targets. -/
theorem Problem.Shareable.sum_card_le [DecidableEq τ] (shareable : problem.Shareable order place)
    (formats : Finset φ) :
    ∑ format ∈ formats, ((problem.rendering format).image place).card ≤
      ((Finset.range problem.tasks.length).image place).card := by
  have hdisjoint : (formats : Set φ).PairwiseDisjoint fun format =>
      (problem.rendering format).image place := by
    intro f _ g _ hfg
    refine Finset.disjoint_left.mpr fun target hf hg => ?_
    obtain ⟨i, hi, hpi⟩ := Finset.mem_image.mp hf
    obtain ⟨j, hj, hpj⟩ := Finset.mem_image.mp hg
    have hri := Problem.mem_rendering.mp hi
    have hrj := Problem.mem_rendering.mp hj
    by_cases hij : i = j
    · rw [hij, hrj.2] at hri
      exact hfg (Option.some.inj hri.2).symm
    · have hsame := (shareable i hri.1 j hrj.1 hij (hpi.trans hpj.symm)).1
      rw [hri.2, hrj.2] at hsame
      exact hfg (Option.some.inj hsame)
  have hsub : (formats.biUnion fun format => (problem.rendering format).image place) ⊆
      (Finset.range problem.tasks.length).image place := by
    refine Finset.biUnion_subset.mpr fun format _ => ?_
    exact Finset.image_subset_image (Finset.filter_subset _ _)
  rw [← Finset.card_biUnion hdisjoint]
  exact Finset.card_le_card hsub

/-- No assignment has fewer targets than there are formats in a list which holds each format at
most as often as its filters are live together somewhere. -/
theorem Problem.Shareable.length_le [DecidableEq τ] (shareable : problem.Shareable order place)
    {formats : List φ} (h : ∀ format, formats.count format ≤
      (Finset.range order.length).sup fun k => (problem.liveAt order format k).card) :
    formats.length ≤ ((Finset.range problem.tasks.length).image place).card := by
  have hformat : ∀ format, formats.count format ≤
      ((problem.rendering format).image place).card := by
    intro format
    refine (h format).trans (Finset.sup_le fun k hk => ?_)
    exact shareable.card_liveAt_le format (Finset.mem_range.mp hk)
  calc formats.length = ∑ format ∈ formats.toFinset, formats.count format :=
        (List.sum_toFinset_count_eq_length _).symm
    _ ≤ ∑ format ∈ formats.toFinset, ((problem.rendering format).image place).card :=
        Finset.sum_le_sum fun format _ => hformat format
    _ ≤ _ := shareable.sum_card_le _

end Sharing

section Planned

variable {problem : Problem φ} {outputs : Ports} {final : State φ} {schedule : Solution φ}

/-- A value occurs in a list at as many positions as it is counted. -/
theorem count_eq_card {α : Type} [DecidableEq α] (list : List α) (a : α) :
    list.count a = ((Finset.range list.length).filter fun i => list[i]? = some a).card := by
  have hmap : list.map some = (List.range list.length).map fun i => list[i]? := by
    apply List.ext_getElem?
    intro i
    by_cases h : i < list.length
    · simp [h]
    · simp [h]
  calc list.count a = (list.map some).count (some a) :=
        (List.count_map_of_injective list some (Option.some_injective α) a).symm
    _ = (List.range list.length).countP fun i => list[i]? = some a := by
        rw [hmap, List.count_eq_countP, List.countP_map]
        refine List.countP_congr fun i _ => ?_
        simp only [Function.comp_apply, beq_iff_eq, decide_eq_true_eq]
    _ = _ := List.countP_eq_length_filter

/-- The numbers of the targets of a format. -/
def targetsOf (schedule : Solution φ) (format : φ) : Finset Nat :=
  (Finset.range schedule.targets.length).filter fun id =>
    (schedule.targets.map Target.format)[id]? = some format

/-- The number of a target of a format leads to a lease of that format. -/
theorem Finished.mem_targetsOf (finished : Finished problem outputs final schedule) {format : φ}
    {target : Nat} : target ∈ targetsOf schedule format ↔
      ∃ lease, final.leases[target]? = some lease ∧ lease.format = format := by
  have hl : schedule.targets.length = final.leases.length := by
    rw [finished.targets, List.length_map]
  have hf : (schedule.targets.map Target.format)[target]? =
      final.leases[target]?.map fun lease => lease.format := by
    rw [finished.targets, List.map_map, List.getElem?_map]
    rfl
  unfold targetsOf
  rw [Finset.mem_filter, Finset.mem_range, hf, hl, Option.map_eq_some_iff]
  constructor
  · intro h
    exact h.2
  · intro h
    have hlt := h
    obtain ⟨lease, hlease, -⟩ := hlt
    exact ⟨(List.getElem?_eq_some_iff.mp hlease).1, h⟩

/-- What a filter with a target renders has the format of the target. -/
theorem State.Complete.format_eq (complete : final.Complete problem) {i target : Nat}
    (ha : final.assignments[i]?.join = some target) {lease : Lease φ}
    (hl : final.leases[target]? = some lease) : i ∈ problem.rendering lease.format := by
  have hi := (complete.sound.assigned i).mpr ⟨target, ha⟩
  have hlt := complete.sound.range i hi
  have ht := List.getElem?_eq_getElem hlt
  have hu := complete.sound.mem_users hl ha
  have hf := (complete.sound.kept target lease hl).format i hu _ ht
  refine Problem.mem_rendering.mpr ⟨hlt, ?_⟩
  unfold Problem.format?
  rw [ht, Option.map_some, hf]

/-- In the schedule only filters of one format share a target, and no two of them are live
together. -/
theorem Finished.shareable (finished : Finished problem outputs final schedule)
    (complete : final.Complete problem) :
    problem.Shareable schedule.order fun i => schedule.assignments[i]? := by
  have sound := complete.sound
  intro i hi j hj hne he
  have him := complete.mem_order i hi
  have hjm := complete.mem_order j hj
  obtain ⟨target, ha⟩ := (sound.assigned i).mp him
  have hsi := finished.assigned.mpr ha
  have hb := finished.assigned.mp (he.symm.trans hsi)
  have hl := List.getElem?_eq_getElem (sound.leased i target ha)
  have hfi := (Problem.mem_rendering.mp (complete.format_eq ha hl)).2
  have hfj := (Problem.mem_rendering.mp (complete.format_eq hb hl)).2
  refine ⟨hfi.trans hfj.symm, fun k _ hlive => ?_⟩
  rw [finished.order] at hlive
  rcases Before.total him hjm hne with h | h
  · exact sound.not_live_together ha hb h k hlive
  · exact sound.not_live_together hb ha h k hlive.symm

/-- The filters of a format have targets of that format. -/
theorem Finished.card_image_le (finished : Finished problem outputs final schedule)
    (complete : final.Complete problem) (format : φ) :
    ((problem.rendering format).image fun i => schedule.assignments[i]?).card ≤
      (targetsOf schedule format).card := by
  have hsub : ((problem.rendering format).image fun i => schedule.assignments[i]?) ⊆
      (targetsOf schedule format).image some := by
    intro found hfound
    obtain ⟨i, hi, rfl⟩ := Finset.mem_image.mp hfound
    have hri := Problem.mem_rendering.mp hi
    have him := complete.mem_order i hri.1
    obtain ⟨target, ha⟩ := (complete.sound.assigned i).mp him
    have hl := List.getElem?_eq_getElem (complete.sound.leased i target ha)
    have hf := (Problem.mem_rendering.mp (complete.format_eq ha hl)).2
    have hformat := Option.some.inj (hf.symm.trans hri.2)
    exact Finset.mem_image.mpr ⟨target, finished.mem_targetsOf.mpr ⟨_, hl, hformat⟩,
      (finished.assigned.mpr ha).symm⟩
  exact (Finset.card_le_card hsub).trans Finset.card_image_le

/-- When the last target of a format was planned, all targets of the format held the textures of
live filters. -/
theorem Finished.exists_liveAt (finished : Finished problem outputs final schedule)
    (complete : final.Complete problem) (wf : problem.WellFormed outputs)
    (thrifty : final.Thrifty problem) {format : φ} (hne : (targetsOf schedule format).Nonempty) :
    ∃ k < schedule.order.length,
      (targetsOf schedule format).card ≤ (problem.liveAt schedule.order format k).card := by
  have hall : ∀ i j, problem.Feeds i j → j ∈ final.order := fun i j h =>
    (complete.before_of_feeds wf h).right_mem
  obtain ⟨last, hlast, hmax⟩ := Finset.exists_max_image (targetsOf schedule format) id hne
  obtain ⟨lease, hl, hformat⟩ := finished.mem_targetsOf.mp hlast
  obtain ⟨k, user, hk, ha, hheld⟩ := thrifty last lease hl
  have hlive : ∀ target ∈ targetsOf schedule format, ∃ i ∈ problem.liveAt final.order format k,
      final.assignments[i]?.join = some target := by
    intro target ht
    obtain ⟨found, hfound, hf⟩ := finished.mem_targetsOf.mp ht
    have hle : target ≤ last := hmax target ht
    by_cases he : target = last
    · refine ⟨user, Finset.mem_filter.mpr ⟨?_, problem.live_self hk⟩, he ▸ ha⟩
      exact hformat ▸ complete.format_eq ha hl
    · have hlt : target < last := by omega
      obtain ⟨holder, hm, hb, ho⟩ := hheld target found hlt hfound (hf.trans hformat.symm)
      refine ⟨holder, Finset.mem_filter.mpr ⟨?_, ?_⟩, hb⟩
      · exact hf ▸ complete.format_eq hb hfound
      · exact Problem.live_of_outstanding hall hm ho
  have hsub : (targetsOf schedule format).image some ⊆
      (problem.liveAt final.order format k).image fun i => final.assignments[i]?.join := by
    intro found hfound
    obtain ⟨target, ht, rfl⟩ := Finset.mem_image.mp hfound
    obtain ⟨i, hi, hb⟩ := hlive target ht
    exact Finset.mem_image.mpr ⟨i, hi, hb⟩
  rw [finished.order]
  refine ⟨k, (List.getElem?_eq_some_iff.mp hk).1, ?_⟩
  calc (targetsOf schedule format).card
      = ((targetsOf schedule format).image some).card :=
        (Finset.card_image_of_injective _ (Option.some_injective _)).symm
    _ ≤ _ := Finset.card_le_card hsub
    _ ≤ _ := Finset.card_image_le

/-- The targets of a format are as many as its filters that are live at the busiest position. -/
theorem Finished.count_eq_busiest (finished : Finished problem outputs final schedule)
    (complete : final.Complete problem) (wf : problem.WellFormed outputs)
    (thrifty : final.Thrifty problem) (format : φ) :
    (schedule.targets.map Target.format).count format =
      (Finset.range schedule.order.length).sup fun k =>
        (problem.liveAt schedule.order format k).card := by
  have hcount : (schedule.targets.map Target.format).count format =
      (targetsOf schedule format).card := by
    rw [count_eq_card, List.length_map]
    rfl
  rw [hcount]
  apply Nat.le_antisymm
  · rcases (targetsOf schedule format).eq_empty_or_nonempty with he | hne
    · rw [he, Finset.card_empty]
      exact Nat.zero_le _
    · obtain ⟨k, hk, hle⟩ := finished.exists_liveAt complete wf thrifty hne
      exact hle.trans (Finset.le_sup (f := fun k =>
        (problem.liveAt schedule.order format k).card) (Finset.mem_range.mpr hk))
  · refine Finset.sup_le fun k hk => ?_
    have shareable := finished.shareable complete
    exact (shareable.card_liveAt_le format (Finset.mem_range.mp hk)).trans
      (finished.card_image_le complete format)

end Planned

/-- The scheduler plans as many targets of a format as there are filters of that format live at
the busiest position of its order. No assignment of the filters to targets for that order, in
which filters that share a target render the same format and are never live together, has fewer
targets. -/
theorem targets_minimal (problem : Problem φ) (outputs : Ports)
    (wf : problem.WellFormed outputs) (schedule : Solution φ)
    (solved : (problem.solve outputs).1 = .ok schedule) :
    (∀ format, (schedule.targets.map Target.format).count format =
      (Finset.range schedule.order.length).sup fun k =>
        (problem.liveAt schedule.order format k).card) ∧
    (problem.Shareable schedule.order fun i => schedule.assignments[i]?) ∧
    ∀ {τ : Type} [DecidableEq τ] (place : Nat → τ), problem.Shareable schedule.order place →
      schedule.targets.length ≤ ((Finset.range problem.tasks.length).image place).card := by
  obtain ⟨final, hsteps, hf⟩ := exists_steps solved
  have complete := exists_complete_of_steps wf hsteps
  have thrifty := thrifty_of_steps wf hsteps
  have finished := State.finish_eq_ok hf
  have hbusiest := finished.count_eq_busiest complete wf thrifty
  refine ⟨hbusiest, finished.shareable complete, fun place hplace => ?_⟩
  have hle := hplace.length_le fun format => (hbusiest format).le
  rwa [List.length_map] at hle

/-- Two targets of one format and one of the other are as few as the order of the fork allows. -/
theorem fork_targets_minimal : fork.WellFormed ⟨["out"]⟩ ∧
    (fork.solve ⟨["out"]⟩).1 = .ok forkSchedule ∧
    ((Finset.range 4).sup fun k => (fork.liveAt forkSchedule.order true k).card) = 2 ∧
    ∀ place : Nat → Nat, fork.Shareable forkSchedule.order place →
      3 ≤ ((Finset.range 4).image place).card :=
  have solved : (fork.solve ⟨["out"]⟩).1 = .ok forkSchedule := rfl
  have minimal := targets_minimal fork ⟨["out"]⟩ fork_wellFormed forkSchedule solved
  ⟨fork_wellFormed, solved, (minimal.1 true).symm, fun place h => minimal.2.2 place h⟩

end RenderGraph.Schedule
