import RenderGraph.Proofs.Schedule.Progress
import Mathlib.Data.List.Sort

/-!
# What the scheduler gets stuck on

A filter is blocked if it depends on itself, has an input that nothing feeds, or
depends on such a filter. A blocked filter never becomes ready, and a filter that
is not blocked becomes ready sooner or later. The scheduler therefore gets stuck on
the blocked filters, whichever ready filters it schedules first. Which filters are
blocked can be told from the connections and the numbers of inputs alone.
-/

namespace RenderGraph.Schedule

variable {φ : Type} {problem : Problem φ} {outputs : Ports}

section Blocking

/-- A filter has an input that nothing feeds. -/
def Problem.Starved (problem : Problem φ) (i : Nat) : Prop :=
  ∃ task, problem.tasks[i]? = some task ∧
    ∃ port < task.inputs.size, ∀ c ∈ problem.connections, c.target ≠ (.member i, port)

/-- A filter lies on a cycle, has an input that nothing feeds, or depends on such a filter. -/
def Problem.Blocked (problem : Problem φ) (i : Nat) : Prop :=
  problem.Depends i i ∨ problem.Starved i ∨
    ∃ j, (problem.Depends j j ∨ problem.Starved j) ∧ problem.Depends j i

/-- What a blocked filter feeds is blocked. -/
theorem Problem.Blocked.feeds {i k : Nat} (h : problem.Blocked i) (hf : problem.Feeds i k) :
    problem.Blocked k := by
  have hdepends : problem.Depends i k := .single hf
  rcases h with hcycle | hstarved | ⟨j, hj, hji⟩
  · exact .inr (.inr ⟨i, .inl hcycle, hdepends⟩)
  · exact .inr (.inr ⟨i, .inr hstarved, hdepends⟩)
  · exact .inr (.inr ⟨j, hj, hji.trans hdepends⟩)

/-- Two graphs with the same connections, whose filters have the same numbers of inputs. In
everything else the filters may differ. -/
structure Problem.WiredAlike {ψ : Type} (problem : Problem φ) (other : Problem ψ) : Prop where
  /-- The connections are the same. -/
  connections : other.connections = problem.connections
  /-- So are the numbers of inputs. -/
  inputs : (other.tasks.map fun task => task.inputs.size) =
    problem.tasks.map fun task => task.inputs.size

/-- A filter that lacks a source lacks it in every graph that is wired alike. -/
theorem Problem.WiredAlike.starved {ψ : Type} {other : Problem ψ}
    (alike : problem.WiredAlike other) {i : Nat} (h : problem.Starved i) : other.Starved i := by
  obtain ⟨task, ht, port, hp, hnone⟩ := h
  have hsize : (other.tasks.map fun task => task.inputs.size)[i]? = some task.inputs.size := by
    rw [alike.inputs, List.getElem?_map, ht, Option.map_some]
  rw [List.getElem?_map, Option.map_eq_some_iff] at hsize
  obtain ⟨found, hf, hs⟩ := hsize
  exact ⟨found, hf, port, hs ▸ hp, alike.connections ▸ hnone⟩

/-- Graphs that are wired alike from one side are so from the other one. -/
theorem Problem.WiredAlike.symm {ψ : Type} {other : Problem ψ}
    (alike : problem.WiredAlike other) : other.WiredAlike problem :=
  ⟨alike.connections.symm, alike.inputs.symm⟩

/-- The same filters are blocked in graphs that are wired alike. -/
theorem Problem.WiredAlike.blocked_iff {ψ : Type} {other : Problem ψ}
    (alike : problem.WiredAlike other) {i : Nat} : other.Blocked i ↔ problem.Blocked i := by
  have hfeeds : other.Feeds = problem.Feeds := by
    funext j k
    rw [Problem.Feeds, alike.connections, Problem.Feeds]
  have hstarved : ∀ j, other.Starved j ↔ problem.Starved j := fun j =>
    ⟨alike.symm.starved, alike.starved⟩
  simp only [Problem.Blocked, Problem.Depends, hfeeds, hstarved]

end Blocking

section Scheduled

variable {state : State φ} {i j : Nat}

/-- What a scheduled filter depends on is scheduled before it. -/
theorem State.Sound.before_of_depends (sound : state.Sound problem)
    (h : problem.Depends j i) (hi : i ∈ state.order) : Before state.order j i := by
  induction h with
  | single hf => exact sound.topological _ _ hf hi
  | tail _ hf ih =>
    have hlast := sound.topological _ _ hf hi
    exact (ih hlast.left_mem).trans sound.nodup hlast

/-- A filter with an input that nothing feeds is never scheduled. -/
theorem State.Sound.not_starved (sound : state.Sound problem) (hi : i ∈ state.order) :
    ¬ problem.Starved i := by
  rintro ⟨task, ht, port, hp, hnone⟩
  obtain ⟨bindings, -, bound⟩ := sound.bound i hi task ht
  obtain ⟨binding, -, c, hc, -⟩ := getElem?_of_forall₂ bound (List.getElem?_range hp)
  have hfed := sourceOf?_sound hc
  exact hnone c hfed.1 hfed.2

/-- A blocked filter is never scheduled. -/
theorem State.Sound.not_blocked (sound : state.Sound problem) (hi : i ∈ state.order) :
    ¬ problem.Blocked i := by
  have hcycle : ∀ {k}, k ∈ state.order → ¬ problem.Depends k k := fun hk hd =>
    Before.irrefl sound.nodup (sound.before_of_depends hd hk)
  rintro (hd | hs | ⟨k, hd | hs, hki⟩)
  · exact hcycle hi hd
  · exact sound.not_starved hi hs
  · exact hcycle (sound.before_of_depends hki hi).left_mem hd
  · exact sound.not_starved (sound.before_of_depends hki hi).left_mem hs

end Scheduled

section Waiting

variable {state : State φ} {i : Nat}

/-- The filters that wait are those that are still counted. -/
theorem mem_waiting {missing : List (Option Nat)} :
    i ∈ waiting missing ↔ ∃ count, missing[i]? = some (some count) := by
  simp only [waiting, List.mem_filterMap, Prod.exists, List.mem_zipIdx_iff_getElem?]
  constructor
  · rintro ⟨count, index, hm, hi⟩
    simp only [Option.ite_none_right_eq_some, Option.some.injEq] at hi
    obtain ⟨hsome, rfl⟩ := hi
    obtain ⟨number, rfl⟩ := Option.isSome_iff_exists.mp hsome
    exact ⟨number, hm⟩
  · rintro ⟨count, hm⟩
    exact ⟨some count, i, hm, rfl⟩

/-- The filters that wait are listed in the order of their numbers. -/
theorem waiting_sorted (missing : List (Option Nat)) : (waiting missing).Pairwise (· < ·) := by
  apply (zipIdx_sorted missing).filterMap
  intro a b hab i hi j hj
  simp only [Option.ite_none_right_eq_some, Option.some.injEq] at hi hj
  omega

/-- Once no filter is ready, those that wait are those that are not scheduled. -/
theorem State.Sound.mem_waiting_iff (sound : state.Sound problem)
    (hnone : state.promote.candidates = []) :
    i ∈ waiting state.promote.missing ↔ i < problem.tasks.length ∧ i ∉ state.order := by
  rw [mem_waiting]
  constructor
  · rintro ⟨count, hm⟩
    have hl := (List.getElem?_eq_some_iff.mp hm).1
    rw [sound.promote.missing_length] at hl
    refine ⟨hl, fun ho => ?_⟩
    rw [sound.promote.uncounted i (.inl ho)] at hm
    cases hm
  · rintro ⟨hl, ho⟩
    have hc : i ∉ state.promote.candidates := hnone ▸ List.not_mem_nil
    exact ⟨_, sound.promote.counted i _ (List.getElem?_eq_getElem hl) ho hc⟩

/-- A filter that is neither scheduled nor ready has an input that nothing feeds, or reads a
filter that is not scheduled either. -/
theorem State.Sound.exists_obstacle (sound : state.Sound problem) (wf : problem.WellFormed outputs)
    (hnone : state.promote.candidates = []) (hl : i < problem.tasks.length)
    (ho : i ∉ state.order) : problem.Starved i ∨
      ∃ j, problem.Feeds j i ∧ j < problem.tasks.length ∧ j ∉ state.order := by
  have ht := List.getElem?_eq_getElem hl
  have hc : i ∉ state.promote.candidates := hnone ▸ List.not_mem_nil
  have hcount := sound.promote.counted i _ ht ho hc
  have hopen : problem.unsupplied state.order i problem.tasks[i].inputs.size ≠ 0 := by
    intro hzero
    exact state.promote_missing_ne_zero i (hcount.trans (congrArg (some <| some ·) hzero))
  obtain ⟨port, hp, hport⟩ := List.countP_pos_iff.mp (Nat.pos_of_ne_zero hopen)
  have hlt := List.mem_range.mp hp
  cases hs : sourceOf? problem.connections (.member i) port with
  | none =>
    exact .inl ⟨_, ht, port, hlt, fun c hm htarget => sourceOf?_eq_none_iff.mp hs ⟨c, hm, htarget⟩⟩
  | some c =>
    right
    simp only [Problem.supplied, hs, Option.any_some, Bool.not_eq_true'] at hport
    cases hsource : c.source with
    | boundary =>
      rw [hsource] at hport
      cases hport
    | member j =>
      rw [hsource] at hport
      obtain ⟨task, hj, -⟩ := wf.source c (sourceOf?_sound hs).1 j hsource
      refine ⟨j, problem.feeds_of_sourceOf? hs hsource, (List.getElem?_eq_some_iff.mp hj).1, ?_⟩
      simpa [provides] using hport

/-- Once no filter is ready, every filter that is not scheduled is blocked. -/
theorem State.Sound.blocked_of_stuck (sound : state.Sound problem) (wf : problem.WellFormed outputs)
    (hnone : state.promote.candidates = []) (hl : i < problem.tasks.length)
    (ho : i ∉ state.order) : problem.Blocked i := by
  by_contra hfree
  -- Filters that are not blocked do not depend on themselves, so among those that are left one
  -- depends on none of the others.
  obtain ⟨k, hk, ⟨hko, hkfree⟩, hfirst⟩ := problem.exists_first
    (p := fun k => k ∉ state.order ∧ ¬ problem.Blocked k) (fun _ hfree hd => hfree.2 (.inl hd))
    ⟨i, hl, ho, hfree⟩
  rcases sound.exists_obstacle wf hnone hk hko with hstarved | ⟨j, hf, hj, hjo⟩
  · exact hkfree (.inr (.inl hstarved))
  · have hjfree : ¬ problem.Blocked j := fun hb => hkfree (hb.feeds hf)
    exact hfirst j hj ⟨hjo, hjfree⟩ (.single hf)

/-- A filter that is blocked is a filter of the graph. -/
theorem Problem.WellFormed.lt_of_blocked (wf : problem.WellFormed outputs)
    (h : problem.Blocked i) : i < problem.tasks.length := by
  have hfed : ∀ {j}, problem.Depends j i → i < problem.tasks.length := by
    intro j hd
    obtain ⟨k, -, c, hc, -, hdest⟩ := Relation.TransGen.tail'_iff.mp hd
    obtain ⟨task, ht, -⟩ := wf.destination c hc i hdest
    exact (List.getElem?_eq_some_iff.mp ht).1
  rcases h with hd | ⟨task, ht, -⟩ | ⟨j, -, hd⟩
  · exact hfed hd
  · exact (List.getElem?_eq_some_iff.mp ht).1
  · exact hfed hd

/-- Once no filter is ready, the blocked filters are left. -/
theorem State.Sound.mem_waiting_iff_blocked (sound : state.Sound problem)
    (wf : problem.WellFormed outputs) (hnone : state.promote.candidates = []) :
    i ∈ waiting state.promote.missing ↔ problem.Blocked i := by
  rw [sound.mem_waiting_iff hnone]
  constructor
  · rintro ⟨hl, ho⟩
    exact sound.blocked_of_stuck wf hnone hl ho
  · intro hb
    exact ⟨wf.lt_of_blocked hb, fun ho => sound.not_blocked ho hb⟩

end Waiting

section Errors

variable {index : Nat} {task : Task φ} {paths : List String}

/-- The check of the outputs does not get stuck. -/
theorem checkOutputs_ne_stuck :
    checkOutputs problem index task ≠ .error (Cause.stuckScheduling paths) := by
  rw [checkOutputs]
  split
  · simp
  · split <;> simp

/-- Binding an input does not get stuck. -/
theorem inputBinding_ne_stuck {assignments : List (Option Nat)} {path : String} {port : Nat} :
    inputBinding problem assignments index path port ≠ .error (Cause.stuckScheduling paths) := by
  rw [inputBinding]
  split
  · simp
  · split
    · simp
    · split <;> simp

/-- Binding an output of the pipeline does not get stuck. -/
theorem outputBinding_ne_stuck {assignments : List (Option Nat)} {port : Nat} {name : String} :
    outputBinding problem assignments port name ≠ .error (Cause.stuckScheduling paths) := by
  rw [outputBinding]
  split
  · simp
  · split
    · simp
    · split <;> simp

/-- Reading off the schedule does not get stuck. -/
theorem State.finish_ne_stuck {state : State φ} :
    state.finish problem outputs ≠ .error (Cause.stuckScheduling paths) := by
  intro h
  rw [State.finish_eq] at h
  rcases bind_eq_error_iff.mp h with hf | ⟨found, -, h⟩
  · obtain ⟨entry, -, he⟩ := exists_of_mapM_eq_error hf
    exact outputBinding_ne_stuck he
  · rcases bind_eq_error_iff.mp h with ha | ⟨assignments, -, h⟩
    · obtain ⟨⟨target, i⟩, -, he⟩ := exists_of_mapM_eq_error ha
      cases target <;> cases he
    · cases h

variable [DecidableEq φ]

/-- Scheduling a candidate does not get stuck. -/
theorem State.schedule_ne_stuck {state : State φ} :
    state.schedule problem index task ≠ .error (Cause.stuckScheduling paths) := by
  intro h
  rcases bind_eq_error_iff.mp h with hc | ⟨⟨⟩, -, h⟩
  · exact checkOutputs_ne_stuck hc
  · rcases bind_eq_error_iff.mp h with hb | ⟨bindings, -, h⟩
    · obtain ⟨port, -, he⟩ := exists_of_mapM_eq_error hb
      exact inputBinding_ne_stuck he
    · cases h

end Errors

section Choosing

variable [DecidableEq φ]

/-- The states that can be reached if in each step any of the ready filters may be scheduled. -/
inductive Problem.Attainable (problem : Problem φ) : State φ → Prop
  /-- Nothing is scheduled yet. -/
  | start : Attainable problem (Schedule.start problem)
  /-- Some ready filter is scheduled. -/
  | schedule {state next : State φ} {index : Nat} {task : Task φ} : Attainable problem state →
    index ∈ state.promote.candidates → problem.tasks[index]? = some task →
    state.promote.schedule problem index task = .ok next → Attainable problem next

variable {state : State φ}

/-- Whatever is scheduled first, the invariant holds. -/
theorem Problem.Attainable.sound (h : problem.Attainable state) (wf : problem.WellFormed outputs) :
    state.Sound problem := by
  induction h with
  | start => exact start_sound wf.wellFed
  | schedule _ hm ht hs ih =>
    obtain ⟨allRead, bindings, bound, rfl⟩ := State.schedule_eq_ok_iff.mp hs
    exact ih.promote.advance wf.wellFed hm ht allRead bound

/-- A step schedules one of the ready filters. -/
theorem Problem.Attainable.step {next : State φ} (h : problem.Attainable state)
    (hs : Schedule.step problem state = .ok next) : problem.Attainable next := by
  obtain ⟨index, task, bindings, hc, allRead, bound, rfl⟩ := step_eq_ok hs
  obtain ⟨hm, ht⟩ := choose?_sound hc
  exact h.schedule hm ht (State.schedule_eq_ok_iff.mpr ⟨allRead, bindings, bound, rfl⟩)

/-- A run that gets stuck ends in a state without ready filters and names those that wait. -/
theorem Problem.Attainable.stuck (wf : problem.WellFormed outputs) (n : Nat) {final : State φ}
    {paths : List String} (h : problem.Attainable state)
    (hs : steps problem n state = (final, some ⟨.stuckScheduling paths, []⟩)) :
    problem.Attainable final ∧ final.promote.candidates = [] ∧
      paths = (waiting final.promote.missing).map problem.pathOf := by
  induction n generalizing state with
  | zero => cases hs
  | succ n ih =>
    rw [steps] at hs
    split at hs
    case h_1 next hnext => exact ih (h.step hnext) hs
    case h_2 error herror =>
      obtain ⟨rfl, rfl⟩ : state = final ∧ error = ⟨.stuckScheduling paths, []⟩ := by
        simpa using hs
      rw [Schedule.step] at herror
      split at herror
      case h_1 hc =>
        have hpaths : (waiting state.promote.missing).map problem.pathOf = paths := by
          simpa using herror
        exact ⟨h, (h.sound wf).promote.choose?_eq_none hc, hpaths.symm⟩
      case h_2 index task hc => exact absurd herror State.schedule_ne_stuck

/-- Getting stuck leaves a state without ready filters, which tells what is named. -/
theorem Problem.WellFormed.exists_stuck (wf : problem.WellFormed outputs) {paths : List String}
    (h : (problem.solve outputs).1 = .error (Cause.stuckScheduling paths)) :
    ∃ final, problem.Attainable final ∧ final.promote.candidates = [] ∧
      paths = (waiting final.promote.missing).map problem.pathOf := by
  simp only [Problem.solve] at h
  split at h
  case h_1 final error hs =>
    obtain rfl : error = ⟨.stuckScheduling paths, []⟩ := Except.error.inj h
    exact ⟨final, Problem.Attainable.start.stuck wf _ hs⟩
  case h_2 => exact absurd h State.finish_ne_stuck

/-- If no filter is ready, the same filters are left, whatever was scheduled first, and in every
graph that is wired alike. -/
theorem Problem.WiredAlike.waiting_eq {ψ : Type} [DecidableEq ψ] {other : Problem ψ}
    {outputs' : Ports} (alike : problem.WiredAlike other) (wf : problem.WellFormed outputs)
    (wf' : other.WellFormed outputs') {state : State φ} {state' : State ψ}
    (h : problem.Attainable state) (h' : other.Attainable state')
    (hnone : state.promote.candidates = []) (hnone' : state'.promote.candidates = []) :
    waiting state'.promote.missing = waiting state.promote.missing := by
  have hmem : ∀ i, i ∈ waiting state'.promote.missing ↔ i ∈ waiting state.promote.missing := by
    intro i
    rw [(h.sound wf).mem_waiting_iff_blocked wf hnone,
      (h'.sound wf').mem_waiting_iff_blocked wf' hnone', alike.blocked_iff]
  exact (waiting_sorted _).eq_of_mem_iff (waiting_sorted _) hmem

/-- When the scheduler gets stuck it names the blocked filters, in the order of their numbers. The
same filters are left whichever ready filters are scheduled first, and when the scheduler gets stuck
on another graph that is wired alike. -/
theorem stuck_on_blocked (problem : Problem φ) (outputs : Ports) (wf : problem.WellFormed outputs)
    (paths : List String)
    (stuck : (problem.solve outputs).1 = .error (Cause.stuckScheduling paths)) :
    ∃ left : List Nat, paths = left.map problem.pathOf ∧ left.Pairwise (· < ·) ∧
      (∀ i, i ∈ left ↔ problem.Blocked i) ∧ (∀ i ∈ left, i < problem.tasks.length) ∧
      (∀ state, problem.Attainable state → state.promote.candidates = [] →
        waiting state.promote.missing = left) ∧
      ∀ (ψ : Type) [DecidableEq ψ] (other : Problem ψ) (outputs' : Ports) (paths' : List String),
        problem.WiredAlike other → other.WellFormed outputs' →
        (other.solve outputs').1 = .error (Cause.stuckScheduling paths') →
        paths' = left.map other.pathOf := by
  obtain ⟨final, hfinal, hnone, hpaths⟩ := wf.exists_stuck stuck
  have hblocked : ∀ i, i ∈ waiting final.promote.missing ↔ problem.Blocked i := fun i =>
    (hfinal.sound wf).mem_waiting_iff_blocked wf hnone
  refine ⟨waiting final.promote.missing, hpaths, waiting_sorted _, hblocked, ?range, ?order,
    ?alike⟩
  case range => exact fun i hi => wf.lt_of_blocked ((hblocked i).mp hi)
  case order =>
    intro state h hstate
    exact Problem.WiredAlike.waiting_eq ⟨rfl, rfl⟩ wf wf hfinal h hnone hstate
  case alike =>
    intro ψ _ other outputs' paths' alike wf' stuck'
    obtain ⟨final', hfinal', hnone', hpaths'⟩ := wf'.exists_stuck stuck'
    rw [hpaths', alike.waiting_eq wf wf' hfinal hfinal' hnone hnone']

/-- A filter that is scheduled, two that read each other, one behind them, and one of whose inputs
only the first is fed. -/
def ring : Problem Bool where
  tasks := [⟨"source", ⟨[]⟩, ⟨["out"]⟩, true, 16⟩,
    ⟨"left", ⟨["in", "back"]⟩, ⟨["out"]⟩, true, 16⟩, ⟨"right", ⟨["in"]⟩, ⟨["out"]⟩, true, 16⟩,
    ⟨"behind", ⟨["in"]⟩, ⟨["out"]⟩, false, 16⟩, ⟨"half", ⟨["in", "mask"]⟩, ⟨["out"]⟩, false, 16⟩]
  connections := [⟨.member 0, 0, .member 1, 0⟩, ⟨.member 1, 0, .member 2, 0⟩,
    ⟨.member 2, 0, .member 1, 1⟩, ⟨.member 2, 0, .member 3, 0⟩, ⟨.member 0, 0, .member 4, 0⟩,
    ⟨.member 3, 0, .boundary, 0⟩, ⟨.member 4, 0, .boundary, 1⟩]
  formatText := fun _ => "format"

/-- The connections of the ring name existing ports, each of which is fed once. -/
theorem ring_wellFormed : ring.WellFormed ⟨["first", "second"]⟩ := by
  constructor
  · decide
  · simp [ring, Ports.size]
  · simp [ring, Ports.size]
  · simp [ring, Ports.size]

/-- The scheduler gets stuck on the ring, on what stands behind it and on the filter that is half
fed: these are the blocked filters, and the first one is not. -/
theorem ring_stuck : ring.WellFormed ⟨["first", "second"]⟩ ∧
    (ring.solve ⟨["first", "second"]⟩).1 =
      .error (Cause.stuckScheduling ["left", "right", "behind", "half"]) ∧
    (∀ i, ring.Blocked i ↔ i = 1 ∨ i = 2 ∨ i = 3 ∨ i = 4) := by
  have stuck : (ring.solve ⟨["first", "second"]⟩).1 =
      .error (Cause.stuckScheduling ["left", "right", "behind", "half"]) := rfl
  obtain ⟨left, hpaths, hsorted, hblocked, hrange, -⟩ :=
    stuck_on_blocked ring ⟨["first", "second"]⟩ ring_wellFormed _ stuck
  have hinj : ∀ i < 5, ∀ j < 5, ring.pathOf i = ring.pathOf j → i = j := by decide
  have hmem : ∀ i < 5, ring.pathOf i ∈ left.map ring.pathOf → i ∈ left := by
    intro i hi hm
    obtain ⟨j, hj, he⟩ := List.mem_map.mp hm
    exact hinj j (hrange j hj) i hi he ▸ hj
  have hnamed : ∀ i < 5, ring.pathOf i ∈ ["left", "right", "behind", "half"] ↔
      i = 1 ∨ i = 2 ∨ i = 3 ∨ i = 4 := by decide
  refine ⟨ring_wellFormed, stuck, fun i => ?_⟩
  rw [← hblocked]
  constructor
  · intro hi
    exact (hnamed i (hrange i hi)).mp (hpaths ▸ List.mem_map_of_mem hi)
  · intro hi
    have hlt : i < 5 := by omega
    exact hmem i hlt (hpaths ▸ (hnamed i hlt).mpr hi)

end Choosing

end RenderGraph.Schedule
