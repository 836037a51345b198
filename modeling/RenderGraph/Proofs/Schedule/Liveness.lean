import RenderGraph.Proofs.Schedule.Run
import Mathlib.Data.Finset.Card
import Mathlib.Order.Interval.Finset.Nat

/-!
# How long a texture is needed

A filter is live at a position of an order when it is scheduled by then and its
textures are written there or still to be read. The counters of the scheduler
say which filters are live, so a new target is planned only at a position where
every other target of the same format holds the textures of a live filter.
-/

namespace RenderGraph.Schedule

variable {φ : Type}

section Live

/-- An output of the pipeline reads a filter. -/
def Problem.FeedsOutput (problem : Problem φ) (producer : Nat) : Prop :=
  ∃ c ∈ problem.connections, c.source = .member producer ∧ c.destination = .boundary

/-- Whether a filter feeds another one can be looked up. -/
instance (problem : Problem φ) (producer consumer : Nat) :
    Decidable (problem.Feeds producer consumer) :=
  inferInstanceAs (Decidable (∃ c ∈ problem.connections,
    c.source = .member producer ∧ c.destination = .member consumer))

/-- Whether a filter feeds an output can be looked up. -/
instance (problem : Problem φ) (producer : Nat) : Decidable (problem.FeedsOutput producer) :=
  inferInstanceAs (Decidable (∃ c ∈ problem.connections,
    c.source = .member producer ∧ c.destination = .boundary))

/-- A filter is live at a position of an order: it is scheduled there or before, and it stands
there, or feeds an output of the pipeline, or is read by a filter that is scheduled there or
later. -/
def Problem.Live (problem : Problem φ) (order : List Nat) (k i : Nat) : Prop :=
  i ∈ order.take (k + 1) ∧
    (order[k]? = some i ∨ problem.FeedsOutput i ∨ ∃ j ∈ order.drop k, problem.Feeds i j)

/-- Liveness can be computed. -/
instance (problem : Problem φ) (order : List Nat) (k i : Nat) :
    Decidable (problem.Live order k i) :=
  inferInstanceAs (Decidable (_ ∧ _))

/-- The format that a filter renders. -/
def Problem.format? (problem : Problem φ) (i : Nat) : Option φ :=
  problem.tasks[i]?.map Task.format

/-- The filters of a format. -/
def Problem.rendering [DecidableEq φ] (problem : Problem φ) (format : φ) : Finset Nat :=
  (Finset.range problem.tasks.length).filter fun i => problem.format? i = some format

/-- The filters of a format that are live at a position of an order. -/
def Problem.liveAt [DecidableEq φ] (problem : Problem φ) (order : List Nat) (format : φ)
    (k : Nat) : Finset Nat :=
  (problem.rendering format).filter fun i => problem.Live order k i

end Live

section Reads

variable {problem : Problem φ} {order : List Nat}

/-- Reads are still to come when an output or a filter that is not scheduled yet reads. -/
theorem Problem.outstanding_ne_zero_iff (problem : Problem φ) (order : List Nat) (i : Nat) :
    problem.outstanding order i ≠ 0 ↔
      problem.FeedsOutput i ∨ ∃ j, j ∉ order ∧ problem.Feeds i j := by
  unfold Problem.outstanding
  rw [Ne, List.countP_eq_zero, not_forall]
  constructor
  · intro h
    obtain ⟨reader, h⟩ := h
    have h := Classical.not_imp.mp h
    have hc := List.mem_map.mp h.1
    obtain ⟨c, hc, rfl⟩ := hc
    have hm := List.mem_filter.mp hc
    have hs : c.source = .member i := by simpa using hm.2
    cases hd : c.destination with
    | boundary => exact Or.inl ⟨c, hm.1, hs, hd⟩
    | member j =>
      have hj : j ∉ order := by simpa [hd, served] using h.2
      exact Or.inr ⟨j, hj, c, hm.1, hs, hd⟩
  · intro h
    have hread : ∃ c ∈ problem.connections, c.source = .member i ∧
        served order c.destination = false := by
      rcases h with ⟨c, hc, hs, hd⟩ | ⟨j, hj, c, hc, hs, hd⟩
      · exact ⟨c, hc, hs, by rw [hd]; rfl⟩
      · exact ⟨c, hc, hs, by simpa [hd, served] using hj⟩
    obtain ⟨c, hc, hs, hd⟩ := hread
    refine ⟨c.destination, fun hn => ?_⟩
    have hm : c.destination ∈ problem.consumers (.member i) :=
      List.mem_map.mpr ⟨c, List.mem_filter.mpr ⟨hc, by simpa using hs⟩, rfl⟩
    have hz := hn hm
    rw [hd] at hz
    exact hz rfl

/-- In an order of all filters, those with reads to come after the first filters are live at the
next position. -/
theorem Problem.live_of_outstanding (hall : ∀ i j, problem.Feeds i j → j ∈ order) {i k : Nat}
    (hi : i ∈ order.take k) (h : problem.outstanding (order.take k) i ≠ 0) :
    problem.Live order k i := by
  have htake : i ∈ order.take (k + 1) :=
    (List.take_subset_take_left order (Nat.le_succ k)) hi
  rcases (problem.outstanding_ne_zero_iff _ i).mp h with ho | ⟨j, hj, hf⟩
  · exact ⟨htake, Or.inr (Or.inl ho)⟩
  · have hm := hall i j hf
    rw [← List.take_append_drop k order, List.mem_append] at hm
    exact ⟨htake, Or.inr (Or.inr ⟨j, hm.resolve_left hj, hf⟩)⟩

/-- The filter at a position is live there. -/
theorem Problem.live_self {i k : Nat} (h : order[k]? = some i) : problem.Live order k i := by
  have hk := (List.getElem?_eq_some_iff.mp h).1
  have hm : (order.take (k + 1))[k]? = some i := by
    rw [List.getElem?_take_of_lt (Nat.lt_succ_self k), h]
  exact ⟨List.mem_of_getElem? hm, Or.inl h⟩

/-- A filter is no longer live where a later user of its target is. -/
theorem State.Sound.not_live_together {final : State φ} (sound : final.Sound problem)
    {i j target : Nat} (hi : final.assignments[i]?.join = some target)
    (hj : final.assignments[j]?.join = some target) (hb : Before final.order i j) (k : Nat) :
    ¬ (problem.Live final.order k i ∧ problem.Live final.order k j) := by
  intro hlive
  have hreleased := sound.released i j target hi hj hb
  obtain ⟨⟨-, hli⟩, hjk, -⟩ := hlive
  rcases hli with hk | ⟨c, hc, hs, hd⟩ | ⟨r, hr, c, hc, hs, hd⟩
  · have hdrop : i ∈ final.order.drop k :=
      List.mem_of_getElem? (i := 0) (by rw [List.getElem?_drop]; exact hk)
    exact hb.not_mem_take sound.nodup hdrop hjk
  · obtain ⟨reader, hreader, -⟩ := hreleased c hc hs
    rw [hd] at hreader
    cases hreader
  · obtain ⟨reader, hreader, hbefore⟩ := hreleased c hc hs
    rw [hd, Anchor.member.injEq] at hreader
    rw [← hreader] at hbefore
    exact hbefore.not_mem_take sound.nodup hr hjk

end Reads

section Pool

variable [DecidableEq φ] {leases : List (Lease φ)} {format : φ}

/-- No free target is found only if there is none. -/
theorem not_isFree_of_freeTarget? {outputs : Nat} (h : freeTarget? leases format outputs = none)
    {lease : Lease φ} (hl : lease ∈ leases) : lease.isFree format = false := by
  have hnil : freeLeases leases format = [] := by
    simp only [freeTarget?] at h
    split at h
    · cases h
    · exact List.head?_eq_none_iff.mp (Option.map_eq_none_iff.mp h)
  have ht := List.mem_iff_getElem?.mp hl
  obtain ⟨target, ht⟩ := ht
  by_contra hfree
  rw [Bool.not_eq_false] at hfree
  have hm := mem_freeLeases.mpr ⟨ht, hfree⟩
  rw [hnil] at hm
  cases hm

/-- A target is new only if no target of its format was free. -/
theorem not_isFree_of_place {formatText : φ → String} {user readers : Nat} {task : Task φ}
    (h : leases[(place formatText leases user task readers).target]? = none) {lease : Lease φ}
    (hl : lease ∈ leases) : lease.isFree task.format = false := by
  cases hf : freeTarget? leases task.format task.outputs.size with
  | none => exact not_isFree_of_freeTarget? hf hl
  | some target =>
    have hsome := freeTarget?_sound hf
    obtain ⟨found, hfound, -⟩ := hsome
    have htarget : (place formatText leases user task readers).target = target := by
      unfold place
      simp only [hf]
    rw [htarget, hfound] at h
    cases h

end Pool

section Thrift

variable {problem : Problem φ} {outputs : Ports}

/-- A target holds textures that are still to be read once the filters of a list are
scheduled. -/
def Problem.Held (problem : Problem φ) (assignments : List (Option Nat)) (order : List Nat)
    (target : Nat) : Prop :=
  ∃ holder ∈ order, assignments[holder]?.join = some target ∧
    problem.outstanding order holder ≠ 0

/-- Every target was planned for a filter at whose position the earlier targets of the same format
were all held. -/
def State.Thrifty (problem : Problem φ) (state : State φ) : Prop :=
  ∀ (id : Nat) (lease : Lease φ), state.leases[id]? = some lease → ∃ k user,
    state.order[k]? = some user ∧ state.assignments[user]?.join = some id ∧
      ∀ (other : Nat) (found : Lease φ), other < id → state.leases[other]? = some found →
        found.format = lease.format →
          problem.Held state.assignments (state.order.take k) other

/-- A target that is not free holds textures that are still to be read. -/
theorem State.Sound.held_of_not_free {state : State φ} (sound : state.Sound problem)
    {target : Nat} {lease : Lease φ} (hl : state.leases[target]? = some lease)
    (hr : lease.readers ≠ 0) : problem.Held state.assignments state.order target := by
  have kept := sound.kept target lease hl
  obtain ⟨last, hlast, hreaders⟩ := kept.readers
  have hm := kept.mem_users.mp (List.mem_of_getLast? hlast)
  exact ⟨last, hm.1, hm.2, hreaders ▸ hr⟩

variable [DecidableEq φ] {state : State φ} {index : Nat} {task : Task φ}
  {bindings : List Binding}

/-- What holds textures before a filter is scheduled was assigned so afterwards. -/
theorem State.Sound.held_after (sound : state.Sound problem)
    (ht : problem.tasks[index]? = some task) (hn : index ∉ state.order) {k target : Nat}
    (h : problem.Held state.assignments (state.order.take k) target) :
    problem.Held (state.assignmentsAfter problem index task) (state.order.take k) target := by
  obtain ⟨holder, hh, ha, ho⟩ := h
  have hm := List.mem_of_mem_take hh
  have hsame := sound.assignmentsAfter_of_mem ht hn hm
  exact ⟨holder, hh, hsame.trans ha, ho⟩

/-- A target was there with the same format before a filter is scheduled, or the filter is given
it as a new one. -/
theorem State.lease_before (state : State φ) {id : Nat} {lease : Lease φ}
    (hl : (state.advance problem index task bindings).leases[id]? = some lease) :
    (∃ old, state.leases[id]? = some old ∧ old.format = lease.format) ∨
      (state.leases[id]? = none ∧ id = (state.placement problem index task).target ∧
        lease.format = task.format) := by
  have hplace := place_takes problem.formatText state.leases index task
    (problem.consumers (.member index)).length
  obtain ⟨former, takes⟩ := hplace
  rw [State.advance_leases] at hl
  obtain ⟨taken, htaken, rfl⟩ := Option.map_eq_some_iff.mp hl
  by_cases hid : id = (state.placement problem index task).target
  · have he : some taken = _ := (hid ▸ htaken.symm).trans takes.taken
    have hformat : taken.format = task.format := by rw [Option.some.inj he]
    cases hf : former with
    | none => exact Or.inr ⟨hid ▸ takes.former_eq.trans hf, hid, hformat⟩
    | some old =>
      have hold : state.leases[id]? = some old := hid ▸ takes.former_eq.trans hf
      exact Or.inl ⟨old, hold, (takes.free old hf).2.trans hformat.symm⟩
  · have hold := (takes.others id hid).symm.trans htaken
    exact Or.inl ⟨taken, hold, rfl⟩

/-- A target with a smaller number than one that is there, or is planned now, was there before with
the same format. -/
theorem State.exists_earlier (state : State φ) {id other : Nat} {found : Lease φ}
    (hid : id < state.leases.length ∨ id = (state.placement problem index task).target)
    (hother : other < id)
    (h : (state.advance problem index task bindings).leases[other]? = some found) :
    ∃ before, state.leases[other]? = some before ∧ before.format = found.format := by
  rcases state.lease_before h with hbefore | ⟨hnone, hnew, -⟩
  · exact hbefore
  · have hle := List.getElem?_eq_none_iff.mp hnone
    omega

/-- When a filter is given a new target, all targets of its format are held. -/
theorem State.Sound.held_of_new (sound : state.Sound problem)
    (hnew : state.leases[(state.placement problem index task).target]? = none) {other : Nat}
    {before : Lease φ} (hbefore : state.leases[other]? = some before)
    (hformat : before.format = task.format) :
    problem.Held state.assignments state.order other := by
  have hbusy := not_isFree_of_place hnew (List.mem_of_getElem? hbefore)
  refine sound.held_of_not_free hbefore fun hz => ?_
  rw [Lease.isFree_iff.mpr ⟨hz, hformat⟩] at hbusy
  cases hbusy

/-- Scheduling a candidate plans a target only when all others of its format are held. -/
theorem State.Thrifty.advance (thrifty : state.Thrifty problem) (sound : state.Sound problem)
    (hc : index ∈ state.candidates) (ht : problem.tasks[index]? = some task) :
    (state.advance problem index task bindings).Thrifty problem := by
  have hn := (sound.candidate index hc).1
  have hshort : ∀ {k : Nat}, k ≤ state.order.length →
      (state.order ++ [index]).take k = state.order.take k :=
    fun hk => List.take_append_of_le_length hk
  intro id lease hl
  rcases state.lease_before hl with ⟨old, hold, hformat⟩ | ⟨hnew, hid, hformat⟩
  · obtain ⟨k, user, hk, ha, hheld⟩ := thrifty id old hold
    have hlt := (List.getElem?_eq_some_iff.mp hk).1
    have hu := List.mem_of_getElem? hk
    refine ⟨k, user, ?_, ?_, ?_⟩
    · exact (List.getElem?_append_left hlt).trans hk
    · exact (sound.assignmentsAfter_of_mem ht hn hu).trans ha
    · intro other found hother hfound hf
      have hlength := (List.getElem?_eq_some_iff.mp hold).1
      obtain ⟨before, hbefore, hb⟩ := state.exists_earlier (Or.inl hlength) hother hfound
      have h := hheld other before hother hbefore (hb.trans (hf.trans hformat.symm))
      exact (hshort (Nat.le_of_lt hlt)).symm ▸ sound.held_after ht hn h
  · refine ⟨state.order.length, index, List.getElem?_concat_length, ?_, ?_⟩
    · exact (sound.join_assignmentsAfter ht index).trans ((if_pos rfl).trans (hid ▸ rfl))
    · intro other found hother hfound hf
      obtain ⟨before, hbefore, hb⟩ := state.exists_earlier (Or.inr hid) hother hfound
      have h := sound.held_of_new (hid ▸ hnew) hbefore (hb.trans (hf.trans hformat))
      have hall : state.order.take state.order.length = state.order := List.take_length
      rw [← hall] at h
      exact (hshort (Nat.le_refl _)).symm ▸ sound.held_after ht hn h

/-- A run plans a target only when all others of its format are held. -/
theorem thrifty_of_steps (wf : problem.WellFormed outputs) {final : State φ}
    (h : steps problem problem.tasks.length (start problem) = (final, none)) :
    final.Thrifty problem := by
  refine (start_sound wf.wellFed).steps_induction wf.wellFed (motive := State.Thrifty problem) ?_ _ ?_ h
  · intro state next sound thrifty hs
    obtain ⟨index, task, bindings, hc, -, -, rfl⟩ := step_eq_ok hs
    have hchosen := choose?_sound hc
    exact State.Thrifty.advance thrifty sound.promote hchosen.1 hchosen.2
  · intro id lease hl
    cases hl

end Thrift

end RenderGraph.Schedule
