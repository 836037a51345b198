import RenderGraph.Schedule.Step
import RenderGraph.Proofs.Wiring
import RenderGraph.Proofs.Order

/-!
# What the counters of the scheduler count

The scheduler counts down the inputs of a filter that have no texture yet, and
the reads of a render target that are still to come. Both numbers are stated here
in terms of the connections and of the filters scheduled so far, together with
the effect that scheduling one more filter has on them.
-/

namespace RenderGraph.Schedule

variable {φ : Type}

/-- What the scheduler may rely on: no port is fed twice, and connections only name ports that
exist. -/
structure Problem.WellFormed (problem : Problem φ) (outputs : Ports) : Prop where
  /-- Every port has at most one source. -/
  fedOnce : FedOnce problem.connections
  /-- A filter that is read has the port that is read. -/
  source : ∀ c ∈ problem.connections, ∀ i, c.source = .member i →
    ∃ task, problem.tasks[i]? = some task ∧ c.sourcePort < task.outputs.size
  /-- A filter that is fed has the port that is fed. -/
  destination : ∀ c ∈ problem.connections, ∀ i, c.destination = .member i →
    ∃ task, problem.tasks[i]? = some task ∧ c.destinationPort < task.inputs.size
  /-- A pipeline output that is fed exists. -/
  boundary : ∀ c ∈ problem.connections, c.destination = .boundary →
    c.destinationPort < outputs.size

/-- What the counters rely on: no port is fed twice, and what is fed exists. -/
structure Problem.WellFed (problem : Problem φ) : Prop where
  /-- Every port has at most one source. -/
  fedOnce : FedOnce problem.connections
  /-- A filter that is fed has the port that is fed. -/
  destination : ∀ c ∈ problem.connections, ∀ i, c.destination = .member i →
    ∃ task, problem.tasks[i]? = some task ∧ c.destinationPort < task.inputs.size

/-- A graph that the scheduler may rely on is well fed. -/
theorem Problem.WellFormed.wellFed {problem : Problem φ} {outputs : Ports}
    (wf : problem.WellFormed outputs) : problem.WellFed :=
  ⟨wf.fedOnce, wf.destination⟩

/-- Whether a node provides its textures once the filters of a list are scheduled. -/
def provides (order : List Nat) : Anchor → Bool
  | .boundary => true
  | .member index => decide (index ∈ order)

/-- Whether a reader has had its turn once the filters of a list are scheduled. The boundary
reads after all of them. -/
def served (order : List Nat) : Anchor → Bool
  | .boundary => false
  | .member index => decide (index ∈ order)

/-- The reads of a filter's textures that are still to come. -/
def Problem.outstanding (problem : Problem φ) (order : List Nat) (producer : Nat) : Nat :=
  (problem.consumers (.member producer)).countP fun reader => !served order reader

/-- Whether an input of a filter has a source that provides its texture. -/
def Problem.supplied (problem : Problem φ) (order : List Nat) (consumer port : Nat) : Bool :=
  (sourceOf? problem.connections (.member consumer) port).any fun c => provides order c.source

/-- The inputs among the first ports of a filter that have no texture yet. -/
def Problem.unsupplied (problem : Problem φ) (order : List Nat) (consumer ports : Nat) : Nat :=
  (List.range ports).countP fun port => !problem.supplied order consumer port

/-- A connection from one filter to another. -/
def Problem.Feeds (problem : Problem φ) (producer consumer : Nat) : Prop :=
  ∃ c ∈ problem.connections, c.source = .member producer ∧ c.destination = .member consumer

section Counting

variable (missing : List (Option Nat)) (consumers : List Anchor) (index : Nat)

/-- Supplying many destinations takes as many inputs off a filter's count as it occurs. -/
theorem getElem?_foldl_supply :
    (consumers.foldl supply missing)[index]? =
      missing[index]?.map (Option.map (· - consumers.count (.member index))) := by
  induction consumers generalizing missing with
  | nil => simp
  | cons consumer rest ih =>
    rw [List.foldl_cons, ih]
    cases consumer with
    | boundary => simp [supply]
    | member other =>
      rw [supply, List.getElem?_modify]
      by_cases h : other = index
      · subst h
        rw [List.count_cons_self]
        rcases missing[other]? with _ | _ | n
        · rfl
        · simp
        · simp [Nat.sub_sub, Nat.add_comm]
      · have hn : (Anchor.member other == Anchor.member index) = false := by simpa using h
        rw [List.count_cons, hn]
        simp [h]

/-- Supplying textures keeps the number of filters. -/
@[simp]
theorem length_foldl_supply : (consumers.foldl supply missing).length = missing.length := by
  induction consumers generalizing missing with
  | nil => rfl
  | cons consumer rest ih =>
    rw [List.foldl_cons, ih]
    cases consumer <;> simp [supply]

end Counting

section Release

variable (leases : List (Lease φ)) (bindings : List Binding) (target : Nat)

/-- Whether a texture is an attachment of a target. -/
def Binding.isOn (target : Nat) : Binding → Bool
  | .input _ => false
  | .attachment other _ => other = target

/-- Reading many textures takes as many readers off a target as textures lie on it. -/
theorem getElem?_foldl_release :
    (bindings.foldl release leases)[target]? =
      leases[target]?.map fun lease =>
        { lease with readers := lease.readers - bindings.countP (Binding.isOn target) } := by
  induction bindings generalizing leases with
  | nil => simp
  | cons binding rest ih =>
    rw [List.foldl_cons, ih, List.countP_cons]
    cases binding with
    | input port => simp [release, Binding.isOn]
    | attachment other index =>
      rw [release, List.getElem?_modify]
      by_cases h : other = target
      · cases leases[target]? with
        | none => simp [h]
        | some lease => simp [h, Binding.isOn, Nat.sub_sub, Nat.add_comm]
      · cases leases[target]? <;> simp [h, Binding.isOn]

/-- Reading textures keeps the number of targets. -/
@[simp]
theorem length_foldl_release : (bindings.foldl release leases).length = leases.length := by
  induction bindings generalizing leases with
  | nil => rfl
  | cons binding rest ih =>
    rw [List.foldl_cons, ih]
    cases binding <;> simp [release]

end Release

section Exactness

variable {problem : Problem φ}

/-- A filter is read by a node as often as there are connections between them. -/
theorem Problem.count_consumers (problem : Problem φ) (source destination : Anchor) :
    (problem.consumers source).count destination =
      (problem.connections.filter fun c =>
        c.destination = destination && c.source = source).length := by
  rw [Problem.consumers, List.count_eq_countP, List.countP_map, List.countP_eq_length_filter,
    List.filter_filter]
  congr 2

/-- A node reads a filter as often as it has inputs with that filter as their source. -/
theorem Problem.WellFed.count_consumers (wf : problem.WellFed) {index : Nat}
    {task : Task φ} (ht : problem.tasks[index]? = some task) (source : Anchor) :
    (problem.consumers source).count (.member index) =
      (List.range task.inputs.size).countP fun port =>
        (sourceOf? problem.connections (.member index) port).any fun c => c.source = source := by
  rw [problem.count_consumers, wf.fedOnce.length_filter_into]
  intro c hc hd
  obtain ⟨found, hf, hp⟩ := wf.destination c hc index hd
  rw [ht, Option.some.injEq] at hf
  exact hf ▸ hp

/-- What passes neither of two tests that exclude each other. -/
theorem countP_not_or {α : Type} (a b : α → Bool) (h : ∀ x, a x = true → b x = false)
    (list : List α) :
    (list.countP fun x => !(a x || b x)) = (list.countP fun x => !a x) - list.countP b := by
  have hs : (list.countP fun x => !a x) =
      (list.countP fun x => !(a x || b x)) + list.countP b := by
    induction list with
    | nil => rfl
    | cons x rest ih =>
      have hx := h x
      simp only [List.countP_cons, ih]
      cases ha : a x <;> cases hb : b x <;> simp_all <;> omega
  omega

/-- One more filter serves itself and whatever was served before. -/
theorem served_concat (order : List Nat) (index : Nat) (reader : Anchor) :
    served (order ++ [index]) reader = (served order reader || reader = .member index) := by
  cases reader <;> simp [served]

/-- One more filter provides its own textures and whatever was provided before. -/
theorem provides_concat (order : List Nat) (index : Nat) (node : Anchor) :
    provides (order ++ [index]) node = (provides order node || node = .member index) := by
  cases node <;> simp [provides]

/-- Scheduling a reader ends its reads. -/
theorem Problem.outstanding_concat (problem : Problem φ) {order : List Nat} {index : Nat}
    (hn : index ∉ order) (producer : Nat) :
    problem.outstanding (order ++ [index]) producer =
      problem.outstanding order producer -
        (problem.consumers (.member producer)).count (.member index) := by
  simp only [Problem.outstanding, served_concat]
  rw [countP_not_or]
  · rfl
  · intro reader hr
    cases reader with
    | boundary => cases hr
    | member other =>
      have ho : other ∈ order := by simpa [served] using hr
      have hne : other ≠ index := fun h => hn (h ▸ ho)
      simpa using hne

/-- As long as no reader is scheduled all reads are still to come. -/
theorem Problem.outstanding_eq_length (problem : Problem φ) {order : List Nat} {producer : Nat}
    (h : ∀ consumer ∈ order, ¬ problem.Feeds producer consumer) :
    problem.outstanding order producer = (problem.consumers (.member producer)).length := by
  apply List.countP_eq_length.mpr
  intro reader hr
  obtain ⟨c, hc, rfl⟩ := List.mem_map.mp hr
  obtain ⟨hm, hs⟩ := List.mem_filter.mp hc
  cases hd : c.destination with
  | boundary => rfl
  | member consumer =>
    have hn : consumer ∉ order := fun ho =>
      h consumer ho ⟨c, hm, by simpa using hs, hd⟩
    simpa [served] using hn

/-- Once no read is to come every reader is a scheduled filter. -/
theorem Problem.served_of_outstanding_eq_zero (problem : Problem φ) {order : List Nat}
    {producer : Nat} (h : problem.outstanding order producer = 0) {c : Connection Anchor}
    (hc : c ∈ problem.connections) (hs : c.source = .member producer) :
    ∃ consumer ∈ order, c.destination = .member consumer := by
  have hm : c.destination ∈ problem.consumers (.member producer) :=
    List.mem_map.mpr ⟨c, List.mem_filter.mpr ⟨hc, by simpa using hs⟩, rfl⟩
  have hd := List.countP_eq_zero.mp h _ hm
  cases he : c.destination with
  | boundary => simp [he, served] at hd
  | member consumer => exact ⟨consumer, by simpa [he, served] using hd, rfl⟩

/-- At first only the inputs fed by the boundary are supplied. -/
theorem Problem.WellFed.unsupplied_nil (wf : problem.WellFed) {index : Nat}
    {task : Task φ} (ht : problem.tasks[index]? = some task) :
    problem.unsupplied [] index task.inputs.size =
      task.inputs.size - (problem.consumers .boundary).count (.member index) := by
  rw [wf.count_consumers ht]
  have hp : ∀ node : Anchor, provides [] node = decide (node = .boundary) := by
    intro node
    cases node <;> simp [provides]
  have hl := List.length_eq_countP_add_countP (l := List.range task.inputs.size)
    fun port => (sourceOf? problem.connections (.member index) port).any fun c =>
      c.source = .boundary
  simp only [List.length_range, Bool.not_eq_true] at hl
  simp only [Problem.unsupplied, Problem.supplied, hp]
  simp only [Bool.decide_eq_false] at hl
  omega

/-- Scheduling a filter supplies the inputs it feeds. -/
theorem Problem.WellFed.unsupplied_concat (wf : problem.WellFed) {consumer : Nat}
    {task : Task φ} (ht : problem.tasks[consumer]? = some task) {order : List Nat} {index : Nat}
    (hn : index ∉ order) :
    problem.unsupplied (order ++ [index]) consumer task.inputs.size =
      problem.unsupplied order consumer task.inputs.size -
        (problem.consumers (.member index)).count (.member consumer) := by
  rw [wf.count_consumers ht]
  have hs : ∀ port, problem.supplied (order ++ [index]) consumer port =
      (problem.supplied order consumer port ||
        (sourceOf? problem.connections (.member consumer) port).any fun c =>
          c.source = .member index) := by
    intro port
    simp only [Problem.supplied, provides_concat]
    cases sourceOf? problem.connections (.member consumer) port <;> rfl
  simp only [Problem.unsupplied, hs]
  apply countP_not_or
  intro port hp
  simp only [Problem.supplied] at hp
  cases hc : sourceOf? problem.connections (.member consumer) port with
  | none => rfl
  | some c =>
    rw [hc, Option.any_some] at hp
    cases hi : c.source with
    | boundary => simp [hi]
    | member other =>
      have ho : other ∈ order := by simpa [hi, provides] using hp
      have hne : other ≠ index := fun h => hn (h ▸ ho)
      simpa [hi] using hne

/-- A filter without unsupplied inputs only reads what is provided. -/
theorem Problem.WellFed.provides_of_unsupplied_eq_zero (wf : problem.WellFed)
    {consumer : Nat} {task : Task φ} (ht : problem.tasks[consumer]? = some task)
    {order : List Nat} (h : problem.unsupplied order consumer task.inputs.size = 0)
    {c : Connection Anchor} (hc : c ∈ problem.connections) (hd : c.destination = .member consumer) :
    provides order c.source = true := by
  obtain ⟨found, hf, hp⟩ := wf.destination c hc consumer hd
  rw [ht, Option.some.injEq] at hf
  subst hf
  have hs := wf.fedOnce.sourceOf?_eq hc (show c.target = (.member consumer, c.destinationPort) by
    rw [← hd]; rfl)
  have hu := List.countP_eq_zero.mp h c.destinationPort (List.mem_range.mpr hp)
  simpa [Problem.supplied, hs] using hu

end Exactness

end RenderGraph.Schedule
