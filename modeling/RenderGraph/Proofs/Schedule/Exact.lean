import RenderGraph.Proofs.Schedule.Faithful

/-!
# The counters of the scheduler never run out

Between two steps both counters are exact: the readers of a render target are the
reads of its latest user that are still to come, and the count of a filter is the
number of its inputs without a texture. Whatever is counted down is therefore above
zero at that moment, no count is as large as a number chosen above all numbers of
inputs, and a filter that is ready finds the textures of all its inputs.
-/

namespace RenderGraph

/-- Failures that contradict the order of scheduling: an input of a filter that is scheduled has no
source or reads a filter that is not scheduled, or a filter has no render target in the end. -/
def Cause.contradictsOrder : Cause → Bool
  | .inputWithoutSource _ _ => true
  | .producerUnscheduled _ _ => true
  | .unassigned _ => true
  | _ => false

namespace Schedule

variable {φ : Type} {problem : Problem φ}

section Counting

variable {missing : List (Option Nat)} {consumers : List Anchor} {leases : List (Lease φ)}
  {bindings : List Binding}

/-- Each time a texture is supplied to a filter, the filter is known, and its count, if it still has
one, is above zero. -/
def CountsDown (missing : List (Option Nat)) (consumers : List Anchor) : Prop :=
  ∀ earlier i later, consumers = earlier ++ .member i :: later →
    ∃ count, (earlier.foldl supply missing)[i]? = some count ∧ ∀ number ∈ count, 0 < number

/-- Each time a texture is read, its target is known and has a reader left. -/
def ReadsDown (leases : List (Lease φ)) (bindings : List Binding) : Prop :=
  ∀ earlier target attachment later, bindings = earlier ++ .attachment target attachment :: later →
    ∃ lease, (earlier.foldl release leases)[target]? = some lease ∧ 0 < lease.readers

/-- No count is a number above all numbers of inputs, however many textures are supplied. Such a
number can stand for "not counted any more". -/
def Problem.Unmarked (problem : Problem φ) (missing : List (Option Nat)) : Prop :=
  ∀ marker, (∀ task ∈ problem.tasks, task.inputs.size < marker) →
    ∀ consumers : List Anchor, some marker ∉ consumers.foldl supply missing

/-- Counts that are large enough for all textures together are so for each of them. -/
theorem countsDown_of_le (h : ∀ i, .member i ∈ consumers → ∃ count, missing[i]? = some count ∧
    ∀ number ∈ count, consumers.count (.member i) ≤ number) : CountsDown missing consumers := by
  intro earlier i later he
  obtain ⟨count, hm, hle⟩ := h i (by simp [he])
  rw [getElem?_foldl_supply, hm]
  refine ⟨_, rfl, fun number hn => ?_⟩
  obtain ⟨former, hf, rfl⟩ := Option.map_eq_some_iff.mp hn
  have hcount : earlier.count (.member i) < consumers.count (.member i) := by
    rw [he, List.count_append, List.count_cons_self]
    omega
  have hformer := hle former hf
  omega

/-- Readers that are enough for all reads together are enough for each of them. -/
theorem readsDown_of_le (h : ∀ target attachment, .attachment target attachment ∈ bindings →
    ∃ lease, leases[target]? = some lease ∧
      bindings.countP (Binding.isOn target) ≤ lease.readers) : ReadsDown leases bindings := by
  intro earlier target attachment later he
  obtain ⟨lease, hl, hle⟩ := h target attachment (by simp [he])
  rw [getElem?_foldl_release, hl]
  refine ⟨_, rfl, ?_⟩
  have hcount : earlier.countP (Binding.isOn target) < bindings.countP (Binding.isOn target) := by
    rw [he, List.countP_append, List.countP_cons_of_pos (by simp [Binding.isOn])]
    omega
  simp only
  omega

/-- Counts that are at most the numbers of inputs stay below any number above these. -/
theorem unmarked_of_le (h : ∀ i number : Nat, missing[i]? = some (some number) →
    ∃ task ∈ problem.tasks, number ≤ task.inputs.size) : problem.Unmarked missing := by
  intro marker hmarker consumers hm
  obtain ⟨i, hi⟩ := List.mem_iff_getElem?.mp hm
  rw [getElem?_foldl_supply] at hi
  obtain ⟨count, hc, hn⟩ := Option.map_eq_some_iff.mp hi
  obtain ⟨number, rfl, hsub⟩ := Option.map_eq_some_iff.mp hn
  obtain ⟨task, ht, hle⟩ := h i number hc
  have hlt := hmarker task ht
  omega

end Counting

section Shares

variable {index i producer : Nat} {task : Task φ} {order : List Nat}

/-- No more inputs of a filter are fed by the boundary than there are. -/
theorem Problem.WellFed.count_le_inputs (wf : problem.WellFed)
    (ht : problem.tasks[i]? = some task) (source : Anchor) :
    (problem.consumers source).count (.member i) ≤ task.inputs.size := by
  rw [wf.count_consumers ht]
  exact List.countP_le_length.trans_eq List.length_range

/-- The inputs that a filter feeds have no texture until it is scheduled. -/
theorem Problem.WellFed.count_le_unsupplied (wf : problem.WellFed)
    (ht : problem.tasks[i]? = some task) (hn : index ∉ order) :
    (problem.consumers (.member index)).count (.member i) ≤
      problem.unsupplied order i task.inputs.size := by
  rw [wf.count_consumers ht]
  refine List.countP_mono_left fun port _ hp => ?_
  obtain ⟨c, hc, hs⟩ : ∃ c, sourceOf? problem.connections (.member i) port = some c ∧
      c.source = .member index := by
    simpa [Option.any_eq_true] using hp
  simp [Problem.supplied, hc, hs, provides, hn]

/-- The reads of a filter that is not scheduled are still to come. -/
theorem Problem.count_le_outstanding (problem : Problem φ) (hn : index ∉ order) :
    (problem.consumers (.member producer)).count (.member index) ≤
      problem.outstanding order producer := by
  refine List.countP_mono_left fun reader _ hr => ?_
  obtain rfl : reader = .member index := by simpa using hr
  simp [served, hn]

/-- There are at most as many inputs without a texture as there are inputs. -/
theorem Problem.unsupplied_le (problem : Problem φ) (order : List Nat) (consumer ports : Nat) :
    problem.unsupplied order consumer ports ≤ ports :=
  List.countP_le_length.trans_eq List.length_range

end Shares

section Turns

variable {state : State φ} {index : Nat} {task : Task φ} {bindings : List Binding}

/-- A count that is kept is that of a filter, and at most the number of its inputs. -/
theorem State.Sound.count_le (sound : state.Sound problem) {i number : Nat}
    (h : state.missing[i]? = some (some number)) :
    ∃ task ∈ problem.tasks, number ≤ task.inputs.size := by
  have hl := (List.getElem?_eq_some_iff.mp h).1
  rw [sound.missing_length] at hl
  have hidle : ¬ (i ∈ state.order ∨ i ∈ state.candidates) := by
    intro hi
    rw [sound.uncounted i hi] at h
    cases h
  rw [not_or] at hidle
  have hcount := sound.counted i _ (List.getElem?_eq_getElem hl) hidle.1 hidle.2
  obtain rfl := Option.some.inj (Option.some.inj (h.symm.trans hcount))
  exact ⟨_, List.getElem_mem hl, problem.unsupplied_le _ _ _⟩

/-- When a candidate is scheduled, every filter that it feeds has a count that is large enough, or
none any more. -/
theorem State.Sound.countsDown (sound : state.Sound problem) (wf : problem.WellFed)
    (hc : index ∈ state.candidates) :
    CountsDown state.missing (problem.consumers (.member index)) := by
  refine countsDown_of_le fun i hi => ?_
  obtain ⟨c, hm, hd⟩ := List.mem_map.mp hi
  obtain ⟨other, ht, -⟩ := wf.destination c (List.mem_filter.mp hm).1 i hd
  by_cases hidle : i ∈ state.order ∨ i ∈ state.candidates
  · exact ⟨none, sound.uncounted i hidle, nofun⟩
  · rw [not_or] at hidle
    refine ⟨_, sound.counted i other ht hidle.1 hidle.2, fun number hn => ?_⟩
    obtain rfl := Option.some.inj hn
    exact wf.count_le_unsupplied ht (sound.candidate index hc).1

/-- A texture that is read on a target is that of a producer with this target. -/
theorem Problem.Bound.exists_producer {assignments : List (Option Nat)}
    (bound : problem.Bound assignments index task bindings) {target attachment : Nat}
    (hb : .attachment target attachment ∈ bindings) :
    ∃ producer, problem.Feeds producer index ∧ assignments[producer]?.join = some target := by
  obtain ⟨port, -, c, hs, hr⟩ := exists_left_of_forall₂ bound hb
  cases hsource : c.source with
  | boundary =>
    rw [Resolves, hsource] at hr
    cases hr
  | member producer =>
    rw [Resolves, hsource] at hr
    obtain ⟨found, hf, he⟩ := hr
    obtain ⟨rfl, -⟩ := Binding.attachment.inj he
    exact ⟨producer, problem.feeds_of_sourceOf? hs hsource, hf⟩

variable [DecidableEq φ]

/-- When a candidate is scheduled, every target that it reads has enough readers left. -/
theorem State.Sound.readsDown (sound : state.Sound problem) (wf : problem.WellFed)
    (hc : index ∈ state.candidates) (ht : problem.tasks[index]? = some task)
    (bound : problem.Bound (state.assignmentsAfter problem index task) index task bindings) :
    ReadsDown (state.placement problem index task).leases bindings := by
  have hn := (sound.candidate index hc).1
  obtain ⟨former, takes⟩ := place_takes problem.formatText state.leases index task
    (problem.consumers (.member index)).length
  refine readsDown_of_le fun target attachment hb => ?_
  obtain ⟨producer, hfeeds, ha⟩ := bound.exists_producer hb
  have hne : target ≠ (state.placement problem index task).target := by
    rintro rfl
    exact sound.producer_target_ne wf hc ht hfeeds ha
  rw [sound.assignmentsAfter_of_mem ht hn (sound.mem_order_of_feeds wf hc hfeeds)] at ha
  obtain ⟨lease, hl, hlast, -⟩ := sound.holder ha hfeeds hn
  refine ⟨lease, (takes.others target hne).trans hl, ?_⟩
  obtain ⟨last, hlast', hreaders⟩ := (sound.kept target lease hl).readers
  obtain rfl := Option.some.inj (hlast.symm.trans hlast')
  rw [sound.countP_isOn_eq wf hc ht bound hl hlast, hreaders]
  exact problem.count_le_outstanding hn

/-- When the outputs of the chosen filter are read the step succeeds, and what it counts down is
above zero each time. -/
theorem State.Sound.turn (sound : state.Sound problem) (wf : problem.WellFed)
    (hc : choose? problem state.promote = some (index, task))
    (hread : checkOutputs problem index task = .ok ()) :
    ∃ bindings, Schedule.step problem state = .ok (state.promote.advance problem index task bindings) ∧
      ReadsDown (state.promote.placement problem index task).leases bindings ∧
      CountsDown state.promote.missing (problem.consumers (.member index)) := by
  obtain ⟨hm, ht⟩ := choose?_sound hc
  obtain ⟨bindings, bound⟩ := sound.promote.exists_bound wf hm ht
  refine ⟨bindings, ?_, sound.promote.readsDown wf hm ht bound, sound.promote.countsDown wf hm⟩
  rw [Schedule.step, hc]
  exact State.schedule_eq_ok_iff.mpr ⟨checkOutputs_eq_ok_iff.mp hread, bindings, bound, rfl⟩

/-- A step fails only because no filter is ready, or because an output of the chosen filter is not
read. -/
theorem State.Sound.step_error (sound : state.Sound problem) (wf : problem.WellFed) {error : Error}
    (h : Schedule.step problem state = .error error) :
    (choose? problem state.promote = none ∧
        error = Cause.stuckScheduling ((waiting state.promote.missing).map problem.pathOf)) ∨
      ∃ index task, choose? problem state.promote = some (index, task) ∧
        checkOutputs problem index task = .error error := by
  cases hc : choose? problem state.promote with
  | none =>
    rw [Schedule.step, hc] at h
    exact .inl ⟨rfl, (Except.error.inj h).symm⟩
  | some entry =>
    obtain ⟨index, task⟩ := entry
    refine .inr ⟨index, task, rfl, ?_⟩
    cases hread : checkOutputs problem index task with
    | error e =>
      rw [Schedule.step, hc] at h
      rcases bind_eq_error_iff.mp h with hfirst | ⟨u, hok, -⟩
      · exact hread.symm.trans hfirst
      · rw [hread] at hok
        cases hok
    | ok u =>
      obtain ⟨bindings, hs, -⟩ := sound.turn wf hc hread
      rw [hs] at h
      cases h

end Turns

section Errors

variable {state : State φ} {index : Nat} {task : Task φ} {error : Error} {outputs : Ports}

/-- The check of the outputs fails for other reasons. -/
theorem checkOutputs_keeps_order (h : checkOutputs problem index task = .error error) :
    error.cause.contradictsOrder = false := by
  rw [checkOutputs] at h
  split at h
  · obtain rfl := Except.error.inj h
    rfl
  · split at h
    · obtain rfl := Except.error.inj h
      rfl
    · cases h

/-- So does binding an output of the pipeline. -/
theorem outputBinding_keeps_order {assignments : List (Option Nat)} {port : Nat} {name : String}
    (h : outputBinding problem assignments port name = .error error) :
    error.cause.contradictsOrder = false := by
  rw [outputBinding] at h
  split at h
  · obtain rfl := Except.error.inj h
    rfl
  · split at h
    · obtain rfl := Except.error.inj h
      rfl
    · split at h
      · cases h
      · obtain rfl := Except.error.inj h
        rfl

/-- So does reading off the schedule once all filters are scheduled. -/
theorem State.Complete.finish_keeps_order (complete : state.Complete problem)
    (h : state.finish problem outputs = .error error) : error.cause.contradictsOrder = false := by
  rw [State.finish_eq] at h
  rcases bind_eq_error_iff.mp h with hf | ⟨found, -, h⟩
  · obtain ⟨entry, -, he⟩ := exists_of_mapM_eq_error hf
    exact outputBinding_keeps_order he
  · obtain ⟨assignments, ha⟩ := exists_mapM_eq_ok complete.exists_assignment
    rcases bind_eq_error_iff.mp h with he | ⟨_, -, h⟩
    · rw [ha] at he
      cases he
    · cases h

variable [DecidableEq φ]

/-- So does a step. -/
theorem State.Sound.step_keeps_order (sound : state.Sound problem) (wf : problem.WellFed)
    (h : Schedule.step problem state = .error error) : error.cause.contradictsOrder = false := by
  rcases sound.step_error wf h with ⟨-, rfl⟩ | ⟨index, task, -, hread⟩
  · rfl
  · exact checkOutputs_keeps_order hread

/-- A run fails with what one of its steps fails with. -/
theorem State.Sound.exists_step_error (wf : problem.WellFed) (n : Nat) {final : State φ}
    (sound : state.Sound problem) (h : Schedule.steps problem n state = (final, some error)) :
    ∃ last, last.Sound problem ∧ Schedule.step problem last = .error error := by
  induction n generalizing state with
  | zero => cases h
  | succ n ih =>
    rw [Schedule.steps] at h
    split at h
    case h_1 next hn => exact ih (sound.step wf hn).1 h
    case h_2 e he =>
      obtain rfl : e = error := by simpa using congrArg Prod.snd h
      exact ⟨state, sound, he⟩

/-- No failure of the scheduler contradicts the order in which it schedules. -/
theorem Problem.WellFed.solve_keeps_order (wf : problem.WellFed)
    (h : (problem.solve outputs).1 = .error error) : error.cause.contradictsOrder = false := by
  simp only [Problem.solve] at h
  split at h
  case h_1 final e he =>
    obtain rfl := Except.error.inj h
    obtain ⟨last, sound, hs⟩ := (start_sound wf).exists_step_error wf _ he
    exact sound.step_keeps_order wf hs
  case h_2 final hf => exact (wf.complete_of_steps hf).finish_keeps_order h

end Errors

section Exactness

variable [DecidableEq φ]

/-- What the counters of a state promise. -/
structure State.Exact (problem : Problem φ) (state : State φ) : Prop where
  /-- The readers of a target are the reads of its latest user that are still to come. -/
  readers : ∀ (target : Nat) (lease : Lease φ), state.leases[target]? = some lease →
    ∃ user, lease.users.getLast? = some user ∧
      lease.readers = problem.outstanding state.order user
  /-- The count of a filter that is no candidate yet is the number of its inputs that have no
  source, or a source that is a filter not scheduled yet. -/
  missing : ∀ i task, problem.tasks[i]? = some task → i ∉ state.order → i ∉ state.candidates →
    state.missing[i]? = some (some (problem.unsupplied state.order i task.inputs.size))
  /-- A filter that became a candidate has no count any more. -/
  uncounted : ∀ i, i ∈ state.order ∨ i ∈ state.candidates → state.missing[i]? = some none
  /-- No count reaches a number that stands for this, before and after filters become
  candidates. -/
  unmarked : problem.Unmarked state.missing ∧ problem.Unmarked state.promote.missing
  /-- When the outputs of the chosen filter are read it is scheduled, and each counter that is
  counted down on this occasion is above zero. -/
  turn : ∀ index task, choose? problem state.promote = some (index, task) →
    checkOutputs problem index task = .ok () →
    ∃ bindings, step problem state = .ok (state.promote.advance problem index task bindings) ∧
      ReadsDown (state.promote.placement problem index task).leases bindings ∧
      CountsDown state.promote.missing (problem.consumers (.member index))
  /-- Otherwise nothing is counted down: no filter is ready, or the chosen one is refused before. -/
  failure : ∀ error, step problem state = .error error →
    choose? problem state.promote = none ∨ ∃ index task,
      choose? problem state.promote = some (index, task) ∧
        checkOutputs problem index task = .error error

/-- Between two steps the counters keep their promise. -/
theorem State.Sound.exact {state : State φ} (sound : state.Sound problem) (wf : problem.WellFed) :
    state.Exact problem where
  readers := fun target lease hl => (sound.kept target lease hl).readers
  missing := sound.counted
  uncounted := sound.uncounted
  unmarked := ⟨unmarked_of_le fun _ _ => sound.count_le,
    unmarked_of_le fun _ _ => sound.promote.count_le⟩
  turn := fun _ _ hc hread => sound.turn wf hc hread
  failure := fun _ h => (sound.step_error wf h).imp And.left id

/-- The counters of the scheduler are exact after any number of steps, and nothing is ever counted
down below zero, neither when the inputs of the pipeline are supplied at first nor in a step. Hence
no filter is scheduled before it finds its inputs, and all have a render target in the end. -/
theorem counters_exact (problem : Problem φ) (wf : problem.WellFed) :
    (CountsDown (problem.tasks.map fun task => some task.inputs.size)
        (problem.consumers .boundary) ∧
      problem.Unmarked (problem.tasks.map fun task => some task.inputs.size)) ∧
    (∀ n state, steps problem n (start problem) = (state, none) → state.Exact problem) ∧
    ∀ outputs error, (problem.solve outputs).1 = .error error →
      error.cause.contradictsOrder = false := by
  refine ⟨⟨?supplied, ?unmarked⟩, ?steps, ?errors⟩
  case supplied =>
    refine countsDown_of_le fun i hi => ?_
    obtain ⟨c, hm, hd⟩ := List.mem_map.mp hi
    obtain ⟨task, ht, -⟩ := wf.destination c (List.mem_filter.mp hm).1 i hd
    refine ⟨some task.inputs.size, by rw [List.getElem?_map, ht, Option.map_some], ?_⟩
    intro number hn
    obtain rfl := Option.some.inj hn
    exact wf.count_le_inputs ht .boundary
  case unmarked =>
    refine unmarked_of_le fun i number h => ?_
    rw [List.getElem?_map, Option.map_eq_some_iff] at h
    obtain ⟨task, ht, hn⟩ := h
    exact ⟨task, List.mem_of_getElem? ht, (Option.some.inj hn).ge⟩
  case steps => exact fun n state h => ((start_sound wf).steps wf n h).1.exact wf
  case errors => exact fun outputs error h => wf.solve_keeps_order h

/-- Before the last filter of the fork is scheduled, both its reads are still to come; the target of
the second filter is free. -/
theorem fork_exact : fork.WellFed ∧ ∃ state, steps fork 3 (start fork) = (state, none) ∧
    state.Exact fork ∧ state.leases.map Lease.readers = [2, 0] ∧
    state.missing = [none, none, none, some 0] :=
  ⟨fork_wellFormed.wellFed, _, rfl, (counters_exact fork fork_wellFormed.wellFed).2.1 3 _ rfl, rfl,
    rfl⟩

end Exactness

end Schedule

end RenderGraph
