import RenderGraph.Schedule.Run
import RenderGraph.Proofs.Schedule.Counters
import RenderGraph.Proofs.Schedule.Placement
import Mathlib.Data.List.Sigma

/-!
# What holds between two steps of the scheduler

The scheduled filters stand in an order that respects the connections, and each
of them has its render target and the sources of its inputs. Both counters are
exact. A target is released only when nothing waits for its last user: of two
filters with the same target the earlier one feeds no pipeline output, and all
its readers stand before the later one.
-/

namespace RenderGraph.Schedule

variable {φ : Type}

/-- The number of outputs of a filter. -/
def Problem.outputCount (problem : Problem φ) (index : Nat) : Nat :=
  problem.tasks[index]?.elim 0 fun task => task.outputs.size

/-- A filter renders something, and all that it renders is read. -/
structure Problem.AllRead (problem : Problem φ) (index : Nat) (task : Task φ) : Prop where
  /-- There is an output. -/
  nonempty : task.outputs.size ≠ 0
  /-- Every output has a reader. -/
  read : ∀ port < task.outputs.size, ∃ c ∈ problem.connections, c.origin = (.member index, port)

/-- Whether a binding leads to the texture that a connection carries. -/
def Resolves (assignments : List (Option Nat)) (c : Connection Anchor) (binding : Binding) :
    Prop :=
  match c.source with
  | .boundary => binding = .input c.sourcePort
  | .member producer =>
    ∃ target : Nat, assignments[producer]?.join = some target ∧
      binding = .attachment target c.sourcePort

/-- The bindings of a filter lead to the textures of its inputs, in port order. -/
def Problem.Bound (problem : Problem φ) (assignments : List (Option Nat)) (index : Nat)
    (task : Task φ) (bindings : List Binding) : Prop :=
  List.Forall₂ (fun port binding =>
    ∃ c, sourceOf? problem.connections (.member index) port = some c ∧
      Resolves assignments c binding) (List.range task.inputs.size) bindings

/-- What a render target records about its users. -/
structure Lease.Kept (problem : Problem φ) (order : List Nat) (assignments : List (Option Nat))
    (target : Nat) (lease : Lease φ) : Prop where
  /-- The users are the filters with this target, in schedule order. -/
  users : lease.users = order.filter fun i => assignments[i]?.join = some target
  /-- All users render the format of the target. -/
  format : ∀ user ∈ lease.users, ∀ task, problem.tasks[user]? = some task →
    task.format = lease.format
  /-- The target has the attachments that the most demanding user needs. -/
  attachments : lease.attachments = (lease.users.map problem.outputCount).foldl max 0
  /-- The readers counted are those of the last user. -/
  readers : ∃ user, lease.users.getLast? = some user ∧
    lease.readers = problem.outstanding order user

/-- The invariant of the scheduler. -/
structure State.Sound (problem : Problem φ) (state : State φ) : Prop where
  /-- No filter is scheduled twice. -/
  nodup : state.order.Nodup
  /-- Only filters are scheduled. -/
  range : ∀ i ∈ state.order, i < problem.tasks.length
  /-- There is room for the target of every filter. -/
  assignments_length : state.assignments.length = problem.tasks.length
  /-- There is room for the bindings of every filter. -/
  bindings_length : state.bindings.length = problem.tasks.length
  /-- The scheduled filters are those that have a target. -/
  assigned : ∀ i, i ∈ state.order ↔ ∃ target : Nat, state.assignments[i]?.join = some target
  /-- No filter is a candidate twice. -/
  candidates_nodup : state.candidates.Nodup
  /-- A candidate is a filter that is not scheduled and misses no texture. -/
  candidate : ∀ i ∈ state.candidates, i ∉ state.order ∧
    ∃ task, problem.tasks[i]? = some task ∧
      problem.unsupplied state.order i task.inputs.size = 0
  /-- There is a count for every filter. -/
  missing_length : state.missing.length = problem.tasks.length
  /-- A scheduled filter and a candidate are not counted any more. -/
  uncounted : ∀ i, i ∈ state.order ∨ i ∈ state.candidates → state.missing[i]? = some none
  /-- The count of any other filter is the number of its inputs without a texture. -/
  counted : ∀ i task, problem.tasks[i]? = some task → i ∉ state.order → i ∉ state.candidates →
    state.missing[i]? = some (some (problem.unsupplied state.order i task.inputs.size))
  /-- A filter stands behind the filters it reads. -/
  topological : ∀ i j, problem.Feeds i j → j ∈ state.order → Before state.order i j
  /-- All outputs of a scheduled filter are read. -/
  allRead : ∀ i ∈ state.order, ∀ task, problem.tasks[i]? = some task → problem.AllRead i task
  /-- All inputs of a scheduled filter are bound. -/
  bound : ∀ i ∈ state.order, ∀ task, problem.tasks[i]? = some task →
    ∃ bindings, state.bindings[i]? = some bindings ∧
      problem.Bound state.assignments i task bindings
  /-- The targets of filters exist. -/
  leased : ∀ i target : Nat, state.assignments[i]?.join = some target → target < state.leases.length
  /-- Every target keeps account of its users. -/
  kept : ∀ (target : Nat) (lease : Lease φ), state.leases[target]? = some lease →
    lease.Kept problem state.order state.assignments target
  /-- Before a target is given to another filter, all readers of its former user had their
  turn. -/
  released : ∀ i j target : Nat, state.assignments[i]?.join = some target →
    state.assignments[j]?.join = some target → Before state.order i j →
    ∀ c ∈ problem.connections, c.source = .member i →
      ∃ k, c.destination = .member k ∧ Before state.order k j

section Promotion

/-- The filters that miss nothing are those counted down to zero. -/
theorem mem_ready {missing : List (Option Nat)} {index : Nat} :
    index ∈ ready missing ↔ missing[index]? = some (some 0) := by
  simp only [ready, List.mem_filterMap, Prod.exists]
  constructor
  · rintro ⟨count, i, hm, hi⟩
    rw [List.mem_zipIdx_iff_getElem?] at hm
    split at hi
    · obtain rfl := Option.some.inj hi
      simp_all
    · cases hi
  · intro h
    exact ⟨some 0, index, List.mem_zipIdx_iff_getElem?.mpr h, by simp⟩

/-- A filter becomes ready only once. -/
theorem ready_nodup (missing : List (Option Nat)) : (ready missing).Nodup := by
  have hp := List.pairwise_map.mp (List.nodup_zipIdx_map_snd missing)
  apply hp.filterMap
  intro a b hab i hi j hj hij
  split at hi
  split at hj
  simp_all

/-- The counts after the ready filters became candidates. -/
theorem State.promote_missing (state : State φ) (i : Nat) :
    state.promote.missing[i]? =
      state.missing[i]?.map fun count => if count = some 0 then none else count :=
  List.getElem?_map

/-- The candidates are joined by the filters that miss nothing. -/
theorem State.mem_promote_candidates {state : State φ} {i : Nat} :
    i ∈ state.promote.candidates ↔
      i ∈ state.candidates ∨ state.missing[i]? = some (some 0) := by
  rw [← mem_ready]
  exact List.mem_append

/-- A filter that is counted down to zero is neither scheduled nor a candidate yet. -/
theorem State.Sound.of_missing_eq_zero {problem : Problem φ} {state : State φ}
    (sound : state.Sound problem) {i : Nat} (h : state.missing[i]? = some (some 0)) :
    i ∉ state.order ∧ i ∉ state.candidates ∧
      ∃ task, problem.tasks[i]? = some task ∧
        problem.unsupplied state.order i task.inputs.size = 0 := by
  have hl := (List.getElem?_eq_some_iff.mp h).1
  rw [sound.missing_length] at hl
  have ht := List.getElem?_eq_getElem hl
  have ho : i ∉ state.order := fun ho => by
    have hn := sound.uncounted i (Or.inl ho)
    simp [hn] at h
  have hc : i ∉ state.candidates := fun hc => by
    have hn := sound.uncounted i (Or.inr hc)
    simp [hn] at h
  have hm := sound.counted i _ ht ho hc
  rw [h, Option.some.injEq, Option.some.injEq] at hm
  exact ⟨ho, hc, _, ht, hm.symm⟩

/-- Making the ready filters candidates keeps the invariant. -/
theorem State.Sound.promote {problem : Problem φ} {state : State φ}
    (sound : state.Sound problem) : state.promote.Sound problem := by
  refine { sound with
    candidates_nodup := ?_
    candidate := ?_
    missing_length := ?_
    uncounted := ?_
    counted := ?_ }
  · refine List.nodup_append.mpr ⟨sound.candidates_nodup, ready_nodup _, ?_⟩
    rintro i hi _ hr rfl
    exact (sound.of_missing_eq_zero (mem_ready.mp hr)).2.1 hi
  · intro i hi
    rcases State.mem_promote_candidates.mp hi with h | h
    · exact sound.candidate i h
    · exact ⟨(sound.of_missing_eq_zero h).1, (sound.of_missing_eq_zero h).2.2⟩
  · exact (List.length_map _).trans sound.missing_length
  · intro i hi
    rw [state.promote_missing]
    rw [State.mem_promote_candidates, ← or_assoc] at hi
    rcases hi with h | h
    · rw [sound.uncounted i h]
      rfl
    · rw [h]
      rfl
  · intro i task ht ho hc
    rw [State.mem_promote_candidates, not_or] at hc
    rw [state.promote_missing, sound.counted i task ht ho hc.1, Option.map_some, if_neg]
    · rfl
    · exact fun h => hc.2 (by rw [sound.counted i task ht ho hc.1, h])

/-- After the ready filters became candidates none of them is counted at zero. -/
theorem State.promote_missing_ne_zero (state : State φ) (i : Nat) :
    state.promote.missing[i]? ≠ some (some 0) := by
  intro h
  rw [state.promote_missing] at h
  obtain ⟨count, -, hc⟩ := Option.map_eq_some_iff.mp h
  split at hc <;> simp_all

end Promotion

section Requirements

/-- A filter without an entry has no target, like one whose entry is empty. -/
theorem getD_none_eq_join {α : Type} (entry : Option (Option α)) :
    entry.getD none = entry.join := by
  cases entry <;> rfl

variable {problem : Problem φ} {index : Nat} {task : Task φ}

/-- The check of the outputs passes exactly when all of them are read. -/
theorem checkOutputs_eq_ok_iff :
    checkOutputs problem index task = .ok () ↔ problem.AllRead index task := by
  simp only [checkOutputs]
  split
  case isTrue h => exact ⟨nofun, fun ha => absurd h ha.nonempty⟩
  case isFalse h =>
    split
    case h_1 name port hf =>
      refine ⟨nofun, fun ha => ?_⟩
      have hm := List.mem_zipIdx_iff_getElem?.mp (List.mem_of_find?_eq_some hf)
      obtain ⟨c, hc, ho⟩ := ha.read port (List.getElem?_eq_some_iff.mp hm).1
      have hn := List.find?_some hf
      simp only [Bool.not_eq_true', List.any_eq_false] at hn
      exact absurd (Connection.reads_iff.mpr ho) (hn c hc)
    case h_2 hf =>
      refine ⟨fun _ => ⟨h, fun port hp => ?_⟩, fun _ => rfl⟩
      have hm : (task.outputs.names[port], port) ∈ task.outputs.names.zipIdx :=
        List.mem_zipIdx_iff_getElem?.mpr (List.getElem?_eq_getElem hp)
      have hn := List.find?_eq_none.mp hf _ hm
      simpa using hn

/-- An input is bound exactly to what its source resolves to. -/
theorem inputBinding_eq_ok_iff {assignments : List (Option Nat)} {path : String} {port : Nat}
    {binding : Binding} :
    inputBinding problem assignments index path port = .ok binding ↔
      ∃ c, sourceOf? problem.connections (.member index) port = some c ∧
        Resolves assignments c binding := by
  simp only [inputBinding, getD_none_eq_join]
  cases sourceOf? problem.connections (.member index) port with
  | none => simp
  | some c =>
    simp only [Option.some.injEq, exists_eq_left', Resolves]
    cases c.source with
    | boundary => simp [eq_comm]
    | member producer =>
      cases h : assignments[producer]?.join with
      | none => simp [h]
      | some target => simp [h, eq_comm]

end Requirements

section Advance

variable [DecidableEq φ] {problem : Problem φ} {state : State φ} {index : Nat} {task : Task φ}
  {bindings : List Binding}

/-- The place of a filter that is scheduled now. -/
def State.placement (problem : Problem φ) (state : State φ) (index : Nat) (task : Task φ) :
    Placement φ :=
  place problem.formatText state.leases index task (problem.consumers (.member index)).length

/-- The targets of all filters after one more is scheduled. -/
def State.assignmentsAfter (problem : Problem φ) (state : State φ) (index : Nat)
    (task : Task φ) : List (Option Nat) :=
  state.assignments.set index (some (state.placement problem index task).target)

/-- The state after a filter is scheduled with the given bindings. -/
def State.advance (problem : Problem φ) (state : State φ) (index : Nat) (task : Task φ)
    (bindings : List Binding) : State φ where
  missing := (problem.consumers (.member index)).foldl supply state.missing
  candidates := state.candidates.erase index
  order := state.order ++ [index]
  assignments := state.assignmentsAfter problem index task
  bindings := state.bindings.set index bindings
  leases := bindings.foldl release (state.placement problem index task).leases
  events := state.events ++ (state.placement problem index task).events ++
    [.scheduled task.path (state.placement problem index task).target]

/-- A filter is scheduled exactly when all it renders is read and all its inputs are bound. -/
theorem State.schedule_eq_ok_iff {next : State φ} :
    state.schedule problem index task = .ok next ↔ problem.AllRead index task ∧
      ∃ bindings, problem.Bound (state.assignmentsAfter problem index task) index task bindings ∧
        next = state.advance problem index task bindings := by
  have hb : ∀ bindings,
      (List.range task.inputs.size).mapM (inputBinding problem
        (state.assignmentsAfter problem index task) index task.path) = .ok bindings ↔
      problem.Bound (state.assignmentsAfter problem index task) index task bindings := by
    intro bindings
    simp only [mapM_eq_ok_iff, inputBinding_eq_ok_iff]
    rfl
  rw [← checkOutputs_eq_ok_iff]
  constructor
  · intro h
    simp only [State.schedule] at h
    cases hc : checkOutputs problem index task with
    | error e => simp [hc, bind, Except.bind] at h
    | ok u =>
      refine ⟨rfl, ?_⟩
      cases hm : (List.range task.inputs.size).mapM (inputBinding problem
          (state.assignmentsAfter problem index task) index task.path) with
      | error e =>
        simp only [State.assignmentsAfter, State.placement] at hm
        simp [hc, hm, bind, Except.bind] at h
      | ok bindings =>
        refine ⟨bindings, (hb bindings).mp hm, ?_⟩
        simp only [State.assignmentsAfter, State.placement] at hm
        simp only [hc, hm, bind, Except.bind, pure, Except.pure, Except.ok.injEq] at h
        exact h.symm
  · rintro ⟨hc, bindings, hm, rfl⟩
    rw [← hb] at hm
    simp only [State.assignmentsAfter, State.placement] at hm
    simp only [State.schedule, hc, hm, bind, Except.bind]
    rfl

end Advance

end RenderGraph.Schedule
