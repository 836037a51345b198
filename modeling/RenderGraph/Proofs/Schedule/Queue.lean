import RenderGraph.Proofs.Schedule.Progress
import Mathlib.Data.List.Infix

/-!
# The queue of the scheduler

A filter is ready once all filters that it reads are scheduled. Since when it is
can be told from the order alone, and the candidates of the scheduler are the
ready filters, the one that became ready first in front; of those that became
ready at the same position, the one with the smallest number. Among candidates
that fit a free target the first of the smallest ones is chosen.
-/

namespace RenderGraph.Schedule

variable {φ : Type} {problem : Problem φ} {outputs : Ports}

section Readiness

/-- All filters that a filter reads are among those that are scheduled. -/
def Problem.Unlocked (problem : Problem φ) (done : List Nat) (i : Nat) : Prop :=
  ∀ j, problem.Feeds j i → j ∈ done

/-- A filter is unlocked when the sources of all its inputs provide their textures. -/
theorem Problem.unlocked_iff (problem : Problem φ) {done : List Nat} {i : Nat} :
    problem.Unlocked done i ↔ ∀ c ∈ problem.connections, c.destination = .member i →
      provides done c.source = true := by
  constructor
  · intro h c hc hd
    cases hs : c.source with
    | boundary => rfl
    | member j => simpa [provides] using h j ⟨c, hc, hs, hd⟩
  · intro h j hf
    obtain ⟨c, hc, hs, hd⟩ := hf
    have hp := h c hc hd
    rw [hs] at hp
    simpa [provides] using hp

/-- Whether a filter is unlocked can be looked up. -/
instance (problem : Problem φ) (done : List Nat) (i : Nat) :
    Decidable (problem.Unlocked done i) :=
  decidable_of_iff _ problem.unlocked_iff.symm

/-- A filter that is not scheduled and reads only scheduled filters. -/
def Problem.Ready (problem : Problem φ) (done : List Nat) (i : Nat) : Prop :=
  i < problem.tasks.length ∧ i ∉ done ∧ problem.Unlocked done i

/-- Whether a filter is ready can be looked up. -/
instance (problem : Problem φ) (done : List Nat) (i : Nat) : Decidable (problem.Ready done i) :=
  inferInstanceAs (Decidable (_ ∧ _))

/-- The earliest position of an order at which a filter was unlocked: so many filters had to be
scheduled before. -/
def Problem.since (problem : Problem φ) (done : List Nat) (i : Nat) : Nat :=
  done.inits.findIdx fun front => decide (problem.Unlocked front i)

/-- A filter became ready before another one, or at the same position with a smaller number. -/
def Problem.Precedes (problem : Problem φ) (done : List Nat) (i j : Nat) : Prop :=
  problem.since done i < problem.since done j ∨
    problem.since done i = problem.since done j ∧ i < j

/-- Whether a filter became ready first can be looked up. -/
instance (problem : Problem φ) (done : List Nat) (i j : Nat) :
    Decidable (problem.Precedes done i j) :=
  inferInstanceAs (Decidable (_ ∨ _))

variable {done : List Nat} {i : Nat}

/-- A filter was unlocked at some position exactly when it is so in the end. -/
theorem Problem.since_le_iff (problem : Problem φ) (done : List Nat) (i : Nat) :
    problem.since done i ≤ done.length ↔ problem.Unlocked done i := by
  have hlt : problem.since done i < done.inits.length ↔
      ∃ front ∈ done.inits, decide (problem.Unlocked front i) = true := List.findIdx_lt_length
  rw [List.length_inits, Nat.lt_succ_iff] at hlt
  rw [hlt]
  constructor
  · intro h
    obtain ⟨front, hm, hu⟩ := h
    have hsub := ((List.mem_inits front done).mp hm).subset
    exact fun j hf => hsub (of_decide_eq_true hu j hf)
  · intro h
    exact ⟨done, (List.mem_inits done done).mpr (List.prefix_refl done), decide_eq_true h⟩

/-- Scheduling one more filter adds one position at which others can be unlocked. -/
theorem Problem.since_concat (problem : Problem φ) (done : List Nat) (index i : Nat) :
    problem.since (done ++ [index]) i =
      if problem.Unlocked done i then problem.since done i
      else if problem.Unlocked (done ++ [index]) i then done.length + 1
      else done.length + 2 := by
  have hinits : (done ++ [index]).inits = done.inits ++ [done ++ [index]] := by
    simp [List.inits_append]
  have hfound : problem.since done i < done.length + 1 ↔ problem.Unlocked done i :=
    Nat.lt_succ_iff.trans (problem.since_le_iff done i)
  unfold Problem.since at hfound ⊢
  rw [hinits, List.findIdx_append, List.findIdx_singleton, List.length_inits]
  by_cases hu : problem.Unlocked done i
  · rw [if_pos (hfound.mpr hu), if_pos hu]
  · rw [if_neg (fun h => hu (hfound.mp h)), if_neg hu]
    by_cases hn : problem.Unlocked (done ++ [index]) i
    · rw [if_pos (decide_eq_true hn), if_pos hn, Nat.zero_add]
    · rw [if_neg (by simpa using hn), if_neg hn]
      omega

end Readiness

section Candidates

variable {state : State φ}

/-- After the filters that miss nothing became candidates, the candidates are the ready filters. -/
theorem State.Sound.mem_promote_iff_ready (sound : state.Sound problem)
    (wf : problem.WellFormed outputs) (closed : problem.Closed outputs) {i : Nat} :
    i ∈ state.promote.candidates ↔ problem.Ready state.order i := by
  constructor
  · intro hc
    have hcandidate := sound.promote.candidate i hc
    obtain ⟨ho, task, ht, hz⟩ := hcandidate
    refine ⟨(List.getElem?_eq_some_iff.mp ht).1, ho, problem.unlocked_iff.mpr ?_⟩
    exact fun c hm hd => wf.wellFed.provides_of_unsupplied_eq_zero ht hz hm hd
  · intro hready
    obtain ⟨hl, ho, hu⟩ := hready
    have ht := List.getElem?_eq_getElem hl
    have hz := closed.unsupplied_eq_zero wf ht hu
    by_contra hc
    have hm := sound.promote.counted i _ ht ho hc
    exact state.promote_missing_ne_zero i (hm.trans (congrArg (some <| some ·) hz))

/-- The candidates between two steps: they became ready at an earlier position, what became ready
there is a candidate or scheduled, and they stand in the order in which they became ready. -/
structure State.Queued (problem : Problem φ) (state : State φ) : Prop where
  /-- What became ready first stands in front. -/
  sorted : state.candidates.Pairwise (problem.Precedes state.order)
  /-- A candidate became ready at an earlier position. -/
  early : ∀ i ∈ state.candidates, problem.since state.order i < state.order.length
  /-- Every other filter that is not scheduled did not. -/
  late : ∀ i < problem.tasks.length, i ∉ state.order → i ∉ state.candidates →
    state.order.length ≤ problem.since state.order i

/-- Before the first step there are no candidates, and no position is past. -/
theorem start_queued : (start problem).Queued problem :=
  ⟨.nil, nofun, fun _ _ _ _ => Nat.zero_le _⟩

/-- The filters that miss nothing are found in the order of their numbers. -/
theorem ready_sorted (missing : List (Option Nat)) : (ready missing).Pairwise (· < ·) := by
  apply (zipIdx_sorted missing).filterMap
  intro a b hab i hi j hj
  simp only [Option.ite_none_right_eq_some, Option.some.injEq] at hi hj
  omega

/-- The filters that become ready now are put behind those that became ready before. -/
theorem State.Queued.promote (queued : state.Queued problem) (sound : state.Sound problem)
    (wf : problem.WellFormed outputs) (closed : problem.Closed outputs) :
    state.promote.candidates.Pairwise (problem.Precedes state.order) := by
  have hnow : ∀ i ∈ ready state.missing, problem.since state.order i = state.order.length := by
    intro i hi
    have hm := mem_ready.mp hi
    have hnew := sound.of_missing_eq_zero hm
    have hready := (sound.mem_promote_iff_ready wf closed).mp
      (State.mem_promote_candidates.mpr (Or.inr hm))
    have hle := (problem.since_le_iff state.order i).mpr hready.2.2
    exact Nat.le_antisymm hle (queued.late i hready.1 hnew.1 hnew.2.1)
  refine List.pairwise_append.mpr ⟨queued.sorted, ?_, ?_⟩
  · refine (ready_sorted state.missing).imp_of_mem fun ha hb hab => Or.inr ⟨?_, hab⟩
    rw [hnow _ ha, hnow _ hb]
  · intro a ha b hb
    have hlt := queued.early a ha
    rw [← hnow b hb] at hlt
    exact Or.inl hlt

variable [DecidableEq φ] {index : Nat} {task : Task φ} {bindings : List Binding}

/-- Scheduling a candidate leaves the others in the order in which they became ready. -/
theorem State.Queued.advance (queued : state.Queued problem) (sound : state.Sound problem)
    (wf : problem.WellFormed outputs) (closed : problem.Closed outputs) :
    (state.promote.advance problem index task bindings).Queued problem := by
  have hnodup := sound.promote.candidates_nodup
  have hmem : ∀ i, i ∈ state.promote.candidates.erase index ↔
      i ≠ index ∧ problem.Ready state.order i := fun i =>
    hnodup.mem_erase_iff.trans (and_congr_right fun _ => sound.mem_promote_iff_ready wf closed)
  have hsince : ∀ i, problem.Unlocked state.order i →
      problem.since (state.order ++ [index]) i = problem.since state.order i := by
    intro i hu
    rw [problem.since_concat, if_pos hu]
  have hlength : (state.order ++ [index]).length = state.order.length + 1 := List.length_append
  constructor
  case sorted =>
    have hleft := (queued.promote sound wf closed).erase index
    have hsorted : (state.promote.candidates.erase index).Pairwise
        (problem.Precedes (state.order ++ [index])) := by
      refine hleft.imp_of_mem fun {a b} ha hb hab => ?_
      have hua := ((hmem a).mp ha).2.2.2
      have hub := ((hmem b).mp hb).2.2.2
      unfold Problem.Precedes at hab ⊢
      rwa [hsince a hua, hsince b hub]
    exact hsorted
  case early =>
    intro i hi
    have hu := ((hmem i).mp hi).2.2.2
    have hle := (problem.since_le_iff state.order i).mpr hu
    exact (hsince i hu).symm ▸ hlength.symm ▸ Nat.lt_succ_of_le hle
  case late =>
    intro i hl ho hni
    have hne : i ≠ index := fun h => ho (List.mem_append_right _ (List.mem_singleton.mpr h))
    have hold : i ∉ state.order := fun h => ho (List.mem_append_left _ h)
    have hlocked : ¬ problem.Unlocked state.order i :=
      fun hu => hni ((hmem i).mpr ⟨hne, hl, hold, hu⟩)
    have hnow := problem.since_concat state.order index i
    rw [if_neg hlocked] at hnow
    have hle : state.order.length + 1 ≤ problem.since (state.order ++ [index]) i := by
      rw [hnow]
      split <;> omega
    exact hlength.symm ▸ hle

end Candidates

section Choice

variable {α : Type} {weight : α → Nat}

/-- There is a lightest element unless there is none at all. -/
theorem lightest?_eq_none_iff {list : List α} : lightest? weight list = none ↔ list = [] := by
  cases list with
  | nil => simp [lightest?]
  | cons a rest =>
    simp only [lightest?, List.cons_ne_nil, iff_false]
    split
    · simp
    · split <;> simp

/-- In a list that is in order, the lightest element that is found comes before all others of its
weight. -/
theorem lightest?_first {R : α → α → Prop} {list : List α} {a : α} (sorted : list.Pairwise R)
    (h : lightest? weight list = some a) {b : α} (hb : b ∈ list) :
    b = a ∨ weight a < weight b ∨ (weight a = weight b ∧ R a b) := by
  induction list generalizing a b with
  | nil => cases hb
  | cons c rest ih =>
    have hsorted := List.pairwise_cons.mp sorted
    rw [lightest?] at h
    cases hl : lightest? weight rest with
    | none =>
      obtain rfl := lightest?_eq_none_iff.mp hl
      obtain rfl := Option.some.inj h
      exact Or.inl (List.mem_singleton.mp hb)
    | some d =>
      have hrest := fun {x} => ih (b := x) hsorted.2 hl
      rw [hl] at h
      by_cases hd : weight d < weight c
      · obtain rfl : d = a := Option.some.inj ((if_pos hd).symm.trans h)
        rcases List.mem_cons.mp hb with rfl | hb
        · exact Or.inr (Or.inl hd)
        · exact hrest hb
      · obtain rfl : c = a := Option.some.inj ((if_neg hd).symm.trans h)
        rcases List.mem_cons.mp hb with rfl | hb
        · exact Or.inl rfl
        · have hle : weight d ≤ weight b := by
            rcases hrest hb with rfl | hlt | heq
            · exact Nat.le_refl _
            · exact Nat.le_of_lt hlt
            · exact Nat.le_of_eq heq.1
          have hcb := hsorted.1 b hb
          rcases Nat.lt_or_ge (weight c) (weight b) with hlt | hge
          · exact Or.inr (Or.inl hlt)
          · exact Or.inr (Or.inr ⟨by omega, hcb⟩)

variable [DecidableEq φ] {state : State φ} {index : Nat} {task : Task φ} {R : Nat → Nat → Prop}

/-- Whether some free target has the format of a filter. -/
def State.offers (state : State φ) (task : Task φ) : Bool :=
  (freeTarget? state.leases task.format 0).isSome

/-- If no candidate fits a free target, the first candidate is chosen. Otherwise a candidate is
chosen that fits one, the first of the smallest of those. -/
theorem choose?_first (sorted : state.candidates.Pairwise R)
    (h : choose? problem state = some (index, task)) :
    (state.offers task = true ∧ ∀ j ∈ state.candidates, ∀ other, problem.tasks[j]? = some other →
      state.offers other = true → j ≠ index →
        task.footprint < other.footprint ∨ (task.footprint = other.footprint ∧ R index j)) ∨
    (∀ j ∈ state.candidates, ∀ other, problem.tasks[j]? = some other →
      state.offers other = false ∧ (j ≠ index → R index j)) := by
  have hsorted : (candidateTasks problem state).Pairwise fun a b => R a.1 b.1 := by
    apply sorted.filterMap
    intro i j hij a ha b hb
    obtain ⟨-, -, rfl⟩ := Option.map_eq_some_iff.mp ha
    obtain ⟨-, -, rfl⟩ := Option.map_eq_some_iff.mp hb
    exact hij
  simp only [choose?] at h
  split at h
  case h_1 entry hl =>
    rw [Option.some.inj h] at hl
    have hfits := List.mem_filter.mp (lightest?_mem hl)
    refine Or.inl ⟨hfits.2, fun j hj other ht hoffers hne => ?_⟩
    have hm : (j, other) ∈ (candidateTasks problem state).filter fun entry =>
        state.offers entry.2 := List.mem_filter.mpr ⟨mem_candidateTasks.mpr ⟨hj, ht⟩, hoffers⟩
    rcases lightest?_first (hsorted.filter _) hl hm with he | hlt | heq
    · exact absurd (congrArg Prod.fst he) hne
    · exact Or.inl hlt
    · exact Or.inr heq
  case h_2 hl =>
    have hnone := List.filter_eq_nil_iff.mp (lightest?_eq_none_iff.mp hl)
    refine Or.inr fun j hj other ht => ?_
    have hm := mem_candidateTasks.mpr ⟨hj, ht⟩
    refine ⟨by simpa [State.offers] using hnone _ hm, fun hne => ?_⟩
    obtain ⟨more, hcons⟩ := List.head?_eq_some_iff.mp h
    rw [hcons] at hm hsorted
    rcases List.mem_cons.mp hm with he | hm
    · exact absurd (congrArg Prod.fst he) hne
    · exact (List.pairwise_cons.mp hsorted).1 _ hm

end Choice

end RenderGraph.Schedule
