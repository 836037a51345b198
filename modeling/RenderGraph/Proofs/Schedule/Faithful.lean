import RenderGraph.Proofs.Schedule.Run
import Mathlib.Algebra.BigOperators.Group.List.Basic

/-!
# What a schedule says about its graph

A schedule holds every filter once, behind all filters it reads. Each filter has
a render target that fits, each target lists its users in schedule order, and
every input of a filter and every output of the pipeline is bound to the texture
that its only source provides.
-/

namespace RenderGraph.Schedule

variable {φ : Type}

/-- A connection is the only one that feeds a port. -/
def Problem.OnlySource (problem : Problem φ) (node : Anchor) (port : Nat)
    (c : Connection Anchor) : Prop :=
  ∀ d, d ∈ problem.connections ∧ d.target = (node, port) ↔ d = c

/-- Where a schedule puts the texture that a connection carries. -/
def bindingOf? (schedule : Solution φ) (c : Connection Anchor) : Option Binding :=
  match c.source with
  | .boundary => some (.input c.sourcePort)
  | .member producer =>
    schedule.assignments[producer]?.map fun target => .attachment target c.sourcePort

/-- A schedule that fits its graph. -/
structure Faithful (problem : Problem φ) (outputs : Ports) (schedule : Solution φ) : Prop where
  /-- Every filter is scheduled once. -/
  order : schedule.order.Perm (List.range problem.tasks.length)
  /-- A filter comes after all filters it reads. -/
  topological : ∀ i j, problem.Feeds i j → Before schedule.order i j
  /-- There is an assignment for every filter. -/
  assignments_length : schedule.assignments.length = problem.tasks.length
  /-- Every filter has a target of its format with enough attachments for its outputs. -/
  housed : ∀ (i : Nat) (task : Task φ), problem.tasks[i]? = some task → ∃ (id : Nat) (target : Target φ),
    schedule.assignments[i]? = some id ∧ schedule.targets[id]? = some target ∧
      target.format = task.format ∧ task.outputs.size ≤ target.attachments
  /-- The users of a target are the filters assigned to it, in schedule order. -/
  users : ∀ (id : Nat) (target : Target φ), schedule.targets[id]? = some target →
    target.users = schedule.order.filter fun i => schedule.assignments[i]? = some id
  /-- Every filter is the user of one target. -/
  partition : (schedule.targets.flatMap Target.users).Perm (List.range problem.tasks.length)
  /-- There are no more targets than filters. -/
  targets_length : schedule.targets.length ≤ problem.tasks.length
  /-- There is a list of bindings for every filter. -/
  bindings_length : schedule.bindings.length = problem.tasks.length
  /-- Every input of a filter is bound to what its only source provides. -/
  inputs : ∀ (i : Nat) (task : Task φ), problem.tasks[i]? = some task → ∃ bindings,
    schedule.bindings[i]? = some bindings ∧ bindings.length = task.inputs.size ∧
      ∀ port < task.inputs.size, ∃ c, problem.OnlySource (.member i) port c ∧
        bindings[port]? = bindingOf? schedule c
  /-- There is a binding for every output of the pipeline. -/
  outputs_length : schedule.outputs.length = outputs.size
  /-- Every output of the pipeline is bound to what its only source, a filter, provides. -/
  outputs : ∀ port < outputs.size, ∃ c producer, problem.OnlySource .boundary port c ∧
    c.source = .member producer ∧ schedule.outputs[port]? = bindingOf? schedule c

section Sources

variable {problem : Problem φ} {outputs : Ports}

/-- In a well-formed graph the connection found for a port is the only one that feeds it. -/
theorem Problem.WellFormed.onlySource (wf : problem.WellFormed outputs) {node : Anchor}
    {port : Nat} {c : Connection Anchor}
    (h : sourceOf? problem.connections node port = some c) : problem.OnlySource node port c := by
  have hc := sourceOf?_sound h
  intro d
  constructor
  · intro hd
    exact wf.fedOnce.eq_of_target hd.1 hc.1 (hd.2.trans hc.2.symm)
  · intro hd
    rwa [hd]

/-- A binding resolves a connection when the schedule puts the texture there. -/
theorem Finished.resolves_iff {final : State φ} {schedule : Solution φ}
    (finished : Finished problem outputs final schedule) {c : Connection Anchor}
    {binding : Binding} :
    Resolves final.assignments c binding ↔ bindingOf? schedule c = some binding := by
  unfold Resolves bindingOf?
  cases c.source with
  | boundary => simp [eq_comm]
  | member producer =>
    simp only [Option.map_eq_some_iff, finished.assigned]
    simp only [eq_comm]

end Sources

section Targets

variable {problem : Problem φ} {outputs : Ports} {final : State φ} {schedule : Solution φ}

/-- The largest number of a list is at least as large as each of them. -/
theorem le_foldl_max {list : List Nat} {n : Nat} (h : n ∈ list) (least : Nat) :
    n ≤ list.foldl max least := by
  rw [List.foldl_max]
  exact Nat.le_trans (List.le_max?_getD_of_mem h) (Nat.le_max_right _ _)

/-- A target has enough attachments for each of its users. -/
theorem Lease.Kept.outputs_le {order : List Nat} {assignments : List (Option Nat)} {target : Nat}
    {lease : Lease φ} (kept : lease.Kept problem order assignments target) {user : Nat}
    (hu : user ∈ lease.users) {task : Task φ} (ht : problem.tasks[user]? = some task) :
    task.outputs.size ≤ lease.attachments := by
  have hc : problem.outputCount user = task.outputs.size := by simp [Problem.outputCount, ht]
  rw [kept.attachments, ← hc]
  exact le_foldl_max (List.mem_map_of_mem hu) 0

/-- A planned target is the lease of its number. -/
theorem Finished.exists_lease (finished : Finished problem outputs final schedule) {id : Nat}
    {target : Target φ} (h : schedule.targets[id]? = some target) :
    ∃ lease, final.leases[id]? = some lease ∧ lease.toTarget = target := by
  rwa [finished.targets, List.getElem?_map, Option.map_eq_some_iff] at h

/-- A lease is planned under its number. -/
theorem Finished.targets_eq (finished : Finished problem outputs final schedule) {id : Nat}
    {lease : Lease φ} (h : final.leases[id]? = some lease) :
    schedule.targets[id]? = some lease.toTarget := by
  rw [finished.targets, List.getElem?_map, h, Option.map_some]

/-- Every filter is scheduled once. -/
theorem State.Complete.perm_range (complete : final.Complete problem) :
    final.order.Perm (List.range problem.tasks.length) := by
  refine (List.perm_ext_iff_of_nodup complete.sound.nodup List.nodup_range).mpr fun i => ?_
  rw [List.mem_range]
  exact ⟨complete.sound.range i, complete.mem_order i⟩

/-- A filter comes after all filters it reads. -/
theorem State.Complete.before_of_feeds (complete : final.Complete problem)
    (wf : problem.WellFormed outputs) {i j : Nat} (h : problem.Feeds i j) :
    Before final.order i j := by
  have hj : j ∈ final.order := by
    obtain ⟨c, hc, -, hd⟩ := h
    obtain ⟨task, ht, -⟩ := wf.destination c hc j hd
    exact complete.mem_order j (List.getElem?_eq_some_iff.mp ht).1
  exact complete.sound.topological i j h hj

/-- The users of a planned target are the filters that the schedule assigns to it. -/
theorem Finished.users_eq (finished : Finished problem outputs final schedule)
    (complete : final.Complete problem) {id : Nat} {target : Target φ}
    (h : schedule.targets[id]? = some target) :
    target.users = final.order.filter fun i => schedule.assignments[i]? = some id := by
  obtain ⟨lease, hl, rfl⟩ := finished.exists_lease h
  rw [(complete.sound.kept id lease hl).users]
  simp only [finished.assigned]

/-- A planned target has a user. -/
theorem Finished.users_ne_nil (finished : Finished problem outputs final schedule)
    (complete : final.Complete problem) {target : Target φ} (h : target ∈ schedule.targets) :
    target.users ≠ [] := by
  obtain ⟨id, hid⟩ := List.mem_iff_getElem?.mp h
  obtain ⟨lease, hl, rfl⟩ := finished.exists_lease hid
  obtain ⟨user, hu, -⟩ := (complete.sound.kept id lease hl).readers
  intro hn
  rw [hn] at hu
  cases hu

/-- A planned target has the attachments that its most demanding user needs. -/
theorem Finished.attachments_eq (finished : Finished problem outputs final schedule)
    (complete : final.Complete problem) {target : Target φ} (h : target ∈ schedule.targets) :
    target.attachments = (target.users.map problem.outputCount).foldl max 0 := by
  obtain ⟨id, hid⟩ := List.mem_iff_getElem?.mp h
  obtain ⟨lease, hl, rfl⟩ := finished.exists_lease hid
  exact (complete.sound.kept id lease hl).attachments

/-- A filter has a target, of its format and with enough attachments for its outputs. -/
theorem Finished.exists_target (finished : Finished problem outputs final schedule)
    (complete : final.Complete problem) {i : Nat} {task : Task φ}
    (ht : problem.tasks[i]? = some task) : ∃ (id : Nat) (target : Target φ),
    schedule.assignments[i]? = some id ∧ schedule.targets[id]? = some target ∧
      target.format = task.format ∧ task.outputs.size ≤ target.attachments := by
  have sound := complete.sound
  have hi := complete.mem_order i (List.getElem?_eq_some_iff.mp ht).1
  obtain ⟨id, ha⟩ := (sound.assigned i).mp hi
  have hl := List.getElem?_eq_getElem (sound.leased i id ha)
  have hu := sound.mem_users hl ha
  have kept := sound.kept id _ hl
  have hformat := kept.format i hu task ht
  exact ⟨id, _, finished.assigned.mpr ha, finished.targets_eq hl, hformat.symm,
    kept.outputs_le hu ht⟩

/-- A filter is a user of the planned target that it is assigned to. -/
theorem Finished.mem_users_iff (finished : Finished problem outputs final schedule)
    (complete : final.Complete problem) {id : Nat} {target : Target φ}
    (h : schedule.targets[id]? = some target) {i : Nat} :
    i ∈ target.users ↔ i ∈ final.order ∧ schedule.assignments[i]? = some id := by
  rw [finished.users_eq complete h, List.mem_filter, decide_eq_true_eq]

/-- No filter is a user twice, be it of one target or of two. -/
theorem Finished.nodup_users (finished : Finished problem outputs final schedule)
    (complete : final.Complete problem) : (schedule.targets.flatMap Target.users).Nodup := by
  refine List.nodup_flatMap.mpr ⟨?_, ?_⟩
  · intro target ht
    obtain ⟨id, hid⟩ := List.mem_iff_getElem?.mp ht
    rw [finished.users_eq complete hid]
    exact complete.sound.nodup.filter _
  · refine List.pairwise_iff_getElem.mpr fun a b ha hb hab i hia hib => ?_
    have hua := (finished.mem_users_iff complete (List.getElem?_eq_getElem ha)).mp hia
    have hub := (finished.mem_users_iff complete (List.getElem?_eq_getElem hb)).mp hib
    have he := Option.some.inj (hua.2.symm.trans hub.2)
    omega

/-- The users of all targets are all filters, each once. -/
theorem Finished.users_perm (finished : Finished problem outputs final schedule)
    (complete : final.Complete problem) :
    (schedule.targets.flatMap Target.users).Perm (List.range problem.tasks.length) := by
  have hnodup := finished.nodup_users complete
  refine (List.perm_ext_iff_of_nodup hnodup List.nodup_range).mpr fun i => ?_
  rw [List.mem_range, List.mem_flatMap]
  constructor
  · intro h
    obtain ⟨target, ht, hi⟩ := h
    obtain ⟨id, hid⟩ := List.mem_iff_getElem?.mp ht
    exact complete.sound.range i ((finished.mem_users_iff complete hid).mp hi).1
  · intro hi
    obtain ⟨id, target, ha, ht, -⟩ := finished.exists_target complete (List.getElem?_eq_getElem hi)
    exact ⟨target, List.mem_of_getElem? ht, (finished.mem_users_iff complete ht).mpr
      ⟨complete.mem_order i hi, ha⟩⟩

/-- There are no more targets than filters. -/
theorem Finished.targets_length_le (finished : Finished problem outputs final schedule)
    (complete : final.Complete problem) : schedule.targets.length ≤ problem.tasks.length := by
  have hone : ∀ n ∈ schedule.targets.map fun target => target.users.length, 1 ≤ n := by
    intro n hn
    obtain ⟨target, ht, rfl⟩ := List.mem_map.mp hn
    exact List.length_pos_iff.mpr (finished.users_ne_nil complete ht)
  calc schedule.targets.length
      = (schedule.targets.map fun target => target.users.length).length := by simp
    _ ≤ (schedule.targets.map fun target => target.users.length).sum :=
        List.length_le_sum_of_one_le _ hone
    _ = (schedule.targets.flatMap Target.users).length := List.length_flatMap.symm
    _ = problem.tasks.length := by
        rw [(finished.users_perm complete).length_eq, List.length_range]

end Targets

section Bindings

variable {problem : Problem φ} {outputs : Ports} {final : State φ} {schedule : Solution φ}

/-- Every input of a filter is bound to what its only source provides. -/
theorem Finished.exists_bindings (finished : Finished problem outputs final schedule)
    (complete : final.Complete problem) (wf : problem.WellFormed outputs) {i : Nat}
    {task : Task φ} (ht : problem.tasks[i]? = some task) : ∃ bindings,
    schedule.bindings[i]? = some bindings ∧ bindings.length = task.inputs.size ∧
      ∀ port < task.inputs.size, ∃ c, problem.OnlySource (.member i) port c ∧
        bindings[port]? = bindingOf? schedule c := by
  have hi := complete.mem_order i (List.getElem?_eq_some_iff.mp ht).1
  obtain ⟨bindings, hb, bound⟩ := complete.sound.bound i hi task ht
  refine ⟨bindings, finished.bindings ▸ hb, ?_, fun port hp => ?_⟩
  · rw [← bound.length_eq, List.length_range]
  · obtain ⟨binding, hbinding, c, hc, hr⟩ := getElem?_of_forall₂ bound (List.getElem?_range hp)
    exact ⟨c, wf.onlySource hc, hbinding.trans (finished.resolves_iff.mp hr).symm⟩

/-- Every output of the pipeline is bound to what its only source provides. -/
theorem Finished.exists_output (finished : Finished problem outputs final schedule)
    (wf : problem.WellFormed outputs) {port : Nat} (hp : port < outputs.size) :
    ∃ c producer, problem.OnlySource .boundary port c ∧ c.source = .member producer ∧
      schedule.outputs[port]? = bindingOf? schedule c := by
  have hm : outputs.names.zipIdx[port]? = some (outputs.names[port], port) := by
    have hn : port < outputs.names.length := hp
    simp only [List.getElem?_zipIdx, List.getElem?_eq_getElem hn, Option.map_some, Nat.zero_add]
    rfl
  obtain ⟨binding, hbinding, hb⟩ := getElem?_of_forall₂ finished.outputs hm
  obtain ⟨c, producer, hc, hs, hr⟩ := outputBinding_eq_ok_iff.mp hb
  exact ⟨c, producer, wf.onlySource hc, hs, hbinding.trans (finished.resolves_iff.mp hr).symm⟩

end Bindings

variable [DecidableEq φ]

/-- A schedule is a complete topological order of its graph. Every filter has a target of its
format that is large enough, the targets divide the filters between them, and all inputs and
outputs are bound to their only sources. -/
theorem schedule_faithful (problem : Problem φ) (outputs : Ports)
    (wf : problem.WellFormed outputs) (schedule : Solution φ)
    (solved : (problem.solve outputs).1 = .ok schedule) :
    Faithful problem outputs schedule := by
  obtain ⟨final, complete, hf⟩ := wf.exists_finish solved
  have finished := State.finish_eq_ok hf
  constructor
  case order => exact finished.order ▸ complete.perm_range
  case topological =>
    intro i j h
    rw [finished.order]
    exact complete.before_of_feeds wf h
  case assignments_length =>
    have hl := congrArg List.length finished.assignments
    rw [complete.sound.assignments_length, List.length_map] at hl
    exact hl.symm
  case housed => exact fun i task ht => finished.exists_target complete ht
  case users => exact fun id target ht => finished.order ▸ finished.users_eq complete ht
  case partition => exact finished.users_perm complete
  case targets_length => exact finished.targets_length_le complete
  case bindings_length => exact finished.bindings ▸ complete.sound.bindings_length
  case inputs => exact fun i task ht => finished.exists_bindings complete wf ht
  case outputs_length =>
    rw [← finished.outputs.length_eq, List.length_zipIdx]
    rfl
  case outputs => exact fun port hp => finished.exists_output wf hp

/-- A row of two filters, one with two outputs behind them, and one in another format that reads
both. -/
def fork : Problem Bool where
  tasks := [⟨"a", ⟨["in"]⟩, ⟨["out"]⟩, true, 16⟩, ⟨"b", ⟨["in"]⟩, ⟨["out"]⟩, true, 16⟩,
    ⟨"split", ⟨["in"]⟩, ⟨["left", "right"]⟩, true, 16⟩,
    ⟨"join", ⟨["left", "right"]⟩, ⟨["out"]⟩, false, 16⟩]
  connections := [⟨.boundary, 0, .member 0, 0⟩, ⟨.member 0, 0, .member 1, 0⟩,
    ⟨.member 1, 0, .member 2, 0⟩, ⟨.member 2, 0, .member 3, 1⟩, ⟨.member 2, 1, .member 3, 0⟩,
    ⟨.member 3, 0, .boundary, 0⟩]
  formatText := fun _ => "format"

/-- The connections of the fork name existing ports, each of which is fed once. -/
theorem fork_wellFormed : fork.WellFormed ⟨["out"]⟩ := by
  constructor
  · decide
  · simp [fork, Ports.size]
  · simp [fork, Ports.size]
  · simp [fork, Ports.size]

/-- The schedule of the fork: the filter with two outputs takes the target of the first one, which
grows. -/
def forkSchedule : Solution Bool where
  order := [0, 1, 2, 3]
  assignments := [0, 1, 0, 2]
  bindings := [[.input 0], [.attachment 0 0], [.attachment 1 0],
    [.attachment 0 1, .attachment 0 0]]
  outputs := [.attachment 2 0]
  targets := [⟨true, 2, [0, 2]⟩, ⟨true, 1, [1]⟩, ⟨false, 1, [3]⟩]

/-- The fork is scheduled, and the schedule fits. -/
theorem fork_faithful : fork.WellFormed ⟨["out"]⟩ ∧
    (fork.solve ⟨["out"]⟩).1 = .ok forkSchedule ∧ Faithful fork ⟨["out"]⟩ forkSchedule :=
  have solved : (fork.solve ⟨["out"]⟩).1 = .ok forkSchedule := rfl
  ⟨fork_wellFormed, solved,
    schedule_faithful fork ⟨["out"]⟩ fork_wellFormed forkSchedule solved⟩

end RenderGraph.Schedule
