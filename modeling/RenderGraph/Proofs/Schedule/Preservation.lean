import RenderGraph.Proofs.Schedule.Invariant

/-!
# Each step of the scheduler keeps its invariant

The argument for render targets: a target is given away when its last user has
no reads left, so every reader of that user is scheduled already. A candidate
whose producer still holds a target therefore never receives that target, and
releasing its inputs takes exactly its own reads off the count.
-/

namespace RenderGraph.Schedule

variable {φ : Type} {problem : Problem φ} {state : State φ}

section Targets

variable {target : Nat} {lease : Lease φ}

/-- The users of a target are the scheduled filters that it is assigned to. -/
theorem Lease.Kept.mem_users {order : List Nat} {assignments : List (Option Nat)}
    (kept : lease.Kept problem order assignments target) {i : Nat} :
    i ∈ lease.users ↔ i ∈ order ∧ assignments[i]?.join = some target := by
  rw [kept.users, List.mem_filter, decide_eq_true_eq]

/-- Every user but the last stands before the last. -/
theorem Lease.Kept.eq_or_before {order : List Nat} {assignments : List (Option Nat)}
    (kept : lease.Kept problem order assignments target) {i last : Nat} (hi : i ∈ lease.users)
    (hl : lease.users.getLast? = some last) : i = last ∨ Before order i last := by
  apply (Before.getLast hi hl).imp_right
  intro h
  rw [kept.users] at h
  exact h.of_sublist List.filter_sublist

/-- The user of a target is among those that the target records. -/
theorem State.Sound.mem_users (sound : state.Sound problem)
    (hl : state.leases[target]? = some lease) {i : Nat}
    (hi : state.assignments[i]?.join = some target) : i ∈ lease.users :=
  (sound.kept target lease hl).mem_users.mpr ⟨(sound.assigned i).mpr ⟨target, hi⟩, hi⟩

/-- A user that is not the last one has no reader that is not scheduled. -/
theorem State.Sound.served_of_ne_last (sound : state.Sound problem)
    (hl : state.leases[target]? = some lease) {i last : Nat}
    (hi : state.assignments[i]?.join = some target) (hlast : lease.users.getLast? = some last)
    (hne : i ≠ last) {c : Connection Anchor} (hc : c ∈ problem.connections)
    (hs : c.source = .member i) : ∃ k ∈ state.order, c.destination = .member k := by
  have kept := sound.kept target lease hl
  have hb := (kept.eq_or_before (sound.mem_users hl hi) hlast).resolve_left hne
  have ha := (kept.mem_users.mp (List.mem_of_getLast? hlast)).2
  obtain ⟨k, hd, hk⟩ := sound.released i last target hi ha hb c hc hs
  exact ⟨k, hk.left_mem, hd⟩

/-- No user of a free target has a reader that is not scheduled. -/
theorem State.Sound.served_of_free (sound : state.Sound problem)
    (hl : state.leases[target]? = some lease) (hz : lease.readers = 0) {i : Nat}
    (hi : state.assignments[i]?.join = some target) {c : Connection Anchor}
    (hc : c ∈ problem.connections) (hs : c.source = .member i) :
    ∃ k ∈ state.order, c.destination = .member k := by
  obtain ⟨last, hlast, hr⟩ := (sound.kept target lease hl).readers
  by_cases hne : i = last
  · exact problem.served_of_outstanding_eq_zero (hr ▸ hz) hc (hne ▸ hs)
  · exact sound.served_of_ne_last hl hi hlast hne hc hs

/-- A filter that feeds one that is not scheduled is the last user of its target, which is not
free. -/
theorem State.Sound.holder (sound : state.Sound problem) {i j : Nat}
    (hi : state.assignments[i]?.join = some target) (hf : problem.Feeds i j)
    (hj : j ∉ state.order) :
    ∃ lease, state.leases[target]? = some lease ∧ lease.users.getLast? = some i ∧
      lease.readers ≠ 0 := by
  obtain ⟨c, hc, hs, hd⟩ := hf
  have hl := List.getElem?_eq_getElem (sound.leased i target hi)
  have hnot : ¬ ∃ k ∈ state.order, c.destination = .member k := by
    rintro ⟨k, hk, he⟩
    rw [hd, Anchor.member.injEq] at he
    exact hj (he ▸ hk)
  obtain ⟨last, hlast, -⟩ := (sound.kept target _ hl).readers
  refine ⟨_, hl, ?_, fun hz => hnot (sound.served_of_free hl hz hi hc hs)⟩
  by_cases hne : i = last
  · exact hlast.trans (congrArg some hne.symm)
  · exact absurd (sound.served_of_ne_last hl hi hlast hne hc hs) hnot

/-- A target that is taken had the users that the state gives it, and a new one had none. -/
theorem State.Sound.users_before (sound : state.Sound problem) {former : Option (Lease φ)}
    (h : state.leases[target]? = former) :
    former.elim [] (fun lease => lease.users) =
      state.order.filter fun i => state.assignments[i]?.join = some target := by
  cases hf : former with
  | some found => exact (sound.kept target found (h.trans hf)).users
  | none =>
    have hnone := h.trans hf
    rw [List.getElem?_eq_none_iff] at hnone
    symm
    rw [Option.elim_none, List.filter_eq_nil_iff]
    intro i _ hi
    have hlt := sound.leased i target (of_decide_eq_true hi)
    omega

end Targets

section Candidates

variable {index : Nat}

/-- What a candidate reads is scheduled. -/
theorem State.Sound.mem_order_of_feeds (sound : state.Sound problem)
    (wf : problem.WellFed) (hc : index ∈ state.candidates) {i : Nat}
    (hf : problem.Feeds i index) : i ∈ state.order := by
  obtain ⟨-, task, ht, hz⟩ := sound.candidate index hc
  obtain ⟨c, hm, hs, hd⟩ := hf
  have hp := wf.provides_of_unsupplied_eq_zero ht hz hm hd
  rw [hs] at hp
  simpa [provides] using hp

/-- No filter that is scheduled reads a candidate. -/
theorem State.Sound.not_feeds (sound : state.Sound problem) (wf : problem.WellFed)
    (hc : index ∈ state.candidates) {j : Nat} (hj : j ∈ state.order ++ [index]) :
    ¬ problem.Feeds index j := by
  have hn := (sound.candidate index hc).1
  intro hf
  rcases List.mem_append.mp hj with hj | hj
  · exact hn (sound.topological index j hf hj).left_mem
  · rw [List.mem_singleton] at hj
    subst hj
    exact hn (sound.mem_order_of_feeds wf hc hf)

/-- A filter waits for its turn after a candidate was scheduled when it waited before. -/
theorem State.Sound.counted_after_iff (sound : state.Sound problem)
    (hc : index ∈ state.candidates) (i : Nat) :
    i ∈ state.order ++ [index] ∨ i ∈ state.candidates.erase index ↔
      i ∈ state.order ∨ i ∈ state.candidates := by
  rw [sound.candidates_nodup.mem_erase_iff, List.mem_append, List.mem_singleton]
  by_cases h : i = index
  · simp [h, hc]
  · simp [h]

end Candidates

section Reads

variable {assignments : List (Option Nat)} {index : Nat} {task : Task φ}
  {bindings : List Binding} {target : Nat}

/-- Lists that correspond to each other have the same number of members that pass corresponding
tests. -/
theorem countP_eq_of_forall₂ {α β : Type} {R : α → β → Prop} {a : α → Bool} {b : β → Bool}
    (h : ∀ x y, R x y → a x = b y) {xs : List α} {ys : List β} (hr : List.Forall₂ R xs ys) :
    xs.countP a = ys.countP b := by
  induction hr with
  | nil => rfl
  | cons hxy _ ih => rw [List.countP_cons, List.countP_cons, ih, h _ _ hxy]

/-- Whether a node is a filter with the given target. -/
def isOn (assignments : List (Option Nat)) (target : Nat) : Anchor → Bool
  | .boundary => false
  | .member producer => assignments[producer]?.join = some target

/-- The bindings that lie on a target are the inputs whose source has this target. -/
theorem Problem.Bound.countP_isOn (bound : problem.Bound assignments index task bindings) :
    bindings.countP (Binding.isOn target) = (List.range task.inputs.size).countP fun port =>
      (sourceOf? problem.connections (.member index) port).any fun c =>
        isOn assignments target c.source := by
  symm
  apply countP_eq_of_forall₂ _ bound
  rintro port binding ⟨c, hc, hr⟩
  rw [hc, Option.any_some]
  cases hs : c.source with
  | boundary =>
    rw [Resolves, hs] at hr
    rw [hr]
    rfl
  | member producer =>
    rw [Resolves, hs] at hr
    obtain ⟨found, hf, rfl⟩ := hr
    simp [isOn, Binding.isOn, hf]

/-- What is found as the source of an input feeds the filter. -/
theorem Problem.feeds_of_sourceOf? {producer port : Nat} {c : Connection Anchor}
    (hc : sourceOf? problem.connections (.member index) port = some c)
    (hs : c.source = .member producer) : problem.Feeds producer index := by
  obtain ⟨hm, ht⟩ := sourceOf?_sound hc
  exact ⟨c, hm, hs, congrArg Prod.fst ht⟩

/-- A target that no producer of a filter has is not read by it. -/
theorem Problem.Bound.countP_isOn_eq_zero (bound : problem.Bound assignments index task bindings)
    (h : ∀ producer, problem.Feeds producer index →
      assignments[producer]?.join ≠ some target) :
    bindings.countP (Binding.isOn target) = 0 := by
  rw [bound.countP_isOn, List.countP_eq_zero]
  intro port _
  cases hc : sourceOf? problem.connections (.member index) port with
  | none => simp
  | some c =>
    cases hs : c.source with
    | boundary => simp [hs, isOn]
    | member producer => simpa [hs, isOn] using h producer (problem.feeds_of_sourceOf? hc hs)

/-- If one filter alone is read on a target, the bindings on the target are the reads of that
filter. -/
theorem Problem.Bound.countP_isOn_eq_count (wf : problem.WellFed)
    (ht : problem.tasks[index]? = some task)
    (bound : problem.Bound assignments index task bindings) {user : Nat}
    (h : ∀ producer, problem.Feeds producer index →
      (assignments[producer]?.join = some target ↔ producer = user)) :
    bindings.countP (Binding.isOn target) =
      (problem.consumers (.member user)).count (.member index) := by
  rw [bound.countP_isOn, wf.count_consumers ht]
  apply List.countP_congr
  intro port _
  cases hc : sourceOf? problem.connections (.member index) port with
  | none => simp
  | some c =>
    cases hs : c.source with
    | boundary => simp [hs, isOn]
    | member producer => simpa [hs, isOn] using h producer (problem.feeds_of_sourceOf? hc hs)

/-- A binding keeps its meaning when filters it does not concern are scheduled. -/
theorem Problem.Bound.congr {others : List (Option Nat)}
    (bound : problem.Bound assignments index task bindings)
    (h : ∀ producer, problem.Feeds producer index →
      others[producer]?.join = assignments[producer]?.join) :
    problem.Bound others index task bindings := by
  apply List.Forall₂.imp _ bound
  rintro port binding ⟨c, hc, hr⟩
  refine ⟨c, hc, ?_⟩
  cases hs : c.source with
  | boundary =>
    rw [Resolves, hs] at hr ⊢
    exact hr
  | member producer =>
    rw [Resolves, hs] at hr ⊢
    obtain ⟨found, hf, rfl⟩ := hr
    exact ⟨found, (h producer (problem.feeds_of_sourceOf? hc hs)).trans hf, rfl⟩

end Reads

section Advance

variable [DecidableEq φ] {index : Nat} {task : Task φ} {bindings : List Binding}

/-- The targets after a filter is scheduled: its own is new, the others stay. -/
theorem State.Sound.join_assignmentsAfter (sound : state.Sound problem)
    (ht : problem.tasks[index]? = some task) (i : Nat) :
    (state.assignmentsAfter problem index task)[i]?.join =
      if i = index then some (state.placement problem index task).target
      else state.assignments[i]?.join := by
  have hl : index < state.assignments.length := by
    rw [sound.assignments_length]
    exact (List.getElem?_eq_some_iff.mp ht).1
  rw [State.assignmentsAfter, List.getElem?_set]
  by_cases h : index = i
  · rw [if_pos h, if_pos (h ▸ hl), if_pos h.symm]
    rfl
  · rw [if_neg h, if_neg (Ne.symm h)]

/-- Scheduled filters keep their targets. -/
theorem State.Sound.assignmentsAfter_of_mem (sound : state.Sound problem)
    (ht : problem.tasks[index]? = some task) (hn : index ∉ state.order) {i : Nat}
    (hi : i ∈ state.order) :
    (state.assignmentsAfter problem index task)[i]?.join = state.assignments[i]?.join := by
  rw [sound.join_assignmentsAfter ht, if_neg]
  exact fun h => hn (h ▸ hi)

/-- A candidate finds the textures of all its inputs. -/
theorem State.Sound.exists_bound (sound : state.Sound problem) (wf : problem.WellFed)
    (hc : index ∈ state.candidates) (ht : problem.tasks[index]? = some task) :
    ∃ bindings, problem.Bound (state.assignmentsAfter problem index task) index task bindings := by
  obtain ⟨hn, found, hf, hz⟩ := sound.candidate index hc
  obtain rfl : task = found := Option.some.inj (ht.symm.trans hf)
  refine exists_forall₂_of_forall fun port hp => ?_
  have hs : problem.supplied state.order index port = true := by
    simpa using List.countP_eq_zero.mp hz port hp
  obtain ⟨c, hsource⟩ : ∃ c, sourceOf? problem.connections (.member index) port = some c := by
    cases hsource : sourceOf? problem.connections (.member index) port with
    | none => simp [Problem.supplied, hsource] at hs
    | some c => exact ⟨c, rfl⟩
  cases hsrc : c.source with
  | boundary => exact ⟨.input c.sourcePort, c, hsource, by rw [Resolves, hsrc]⟩
  | member j =>
    have hj := sound.mem_order_of_feeds wf hc (problem.feeds_of_sourceOf? hsource hsrc)
    obtain ⟨target, ha⟩ := (sound.assigned j).mp hj
    refine ⟨.attachment target c.sourcePort, c, hsource, ?_⟩
    rw [Resolves, hsrc]
    exact ⟨target, (sound.assignmentsAfter_of_mem ht hn hj).trans ha, rfl⟩

/-- A candidate never receives a target that one of its producers holds. -/
theorem State.Sound.producer_target_ne (sound : state.Sound problem)
    (wf : problem.WellFed) (hc : index ∈ state.candidates)
    (ht : problem.tasks[index]? = some task) {i : Nat} (hf : problem.Feeds i index) :
    (state.assignmentsAfter problem index task)[i]?.join ≠
      some (state.placement problem index task).target := by
  have hn := (sound.candidate index hc).1
  have hi := sound.mem_order_of_feeds wf hc hf
  rw [sound.assignmentsAfter_of_mem ht hn hi]
  intro ha
  obtain ⟨lease, hl, -, hz⟩ := sound.holder ha hf hn
  obtain ⟨former, takes⟩ := place_takes problem.formatText state.leases index task
    (problem.consumers (.member index)).length
  exact hz (takes.free lease (takes.former_eq.symm.trans hl)).1

/-- The targets after a filter took one and read its inputs. -/
theorem State.advance_leases (target : Nat) :
    (state.advance problem index task bindings).leases[target]? =
      (state.placement problem index task).leases[target]?.map fun lease =>
        { lease with readers := lease.readers - bindings.countP (Binding.isOn target) } :=
  getElem?_foldl_release _ _ _

/-- The users of a target after one more filter is scheduled. -/
theorem State.Sound.users_after (sound : state.Sound problem)
    (ht : problem.tasks[index]? = some task) (hn : index ∉ state.order) (target : Nat) :
    ((state.order ++ [index]).filter fun i =>
      (state.assignmentsAfter problem index task)[i]?.join = some target) =
    (state.order.filter fun i => state.assignments[i]?.join = some target) ++
      if (state.placement problem index task).target = target then [index] else [] := by
  rw [List.filter_append]
  congr 1
  · apply List.filter_congr
    intro i hi
    rw [sound.assignmentsAfter_of_mem ht hn hi]
  · simp [sound.join_assignmentsAfter ht, List.filter_cons]

/-- What a candidate reads on a target are its reads of the latest user. -/
theorem State.Sound.countP_isOn_eq (sound : state.Sound problem) (wf : problem.WellFed)
    (hc : index ∈ state.candidates) (ht : problem.tasks[index]? = some task)
    (bound : problem.Bound (state.assignmentsAfter problem index task) index task bindings)
    {target last : Nat} {lease : Lease φ} (hl : state.leases[target]? = some lease)
    (hlast : lease.users.getLast? = some last) :
    bindings.countP (Binding.isOn target) =
      (problem.consumers (.member last)).count (.member index) := by
  have hn := (sound.candidate index hc).1
  apply bound.countP_isOn_eq_count wf ht
  intro producer hfeeds
  rw [sound.assignmentsAfter_of_mem ht hn (sound.mem_order_of_feeds wf hc hfeeds)]
  constructor
  · intro ha
    obtain ⟨other, hother, hl', -⟩ := sound.holder ha hfeeds hn
    rw [hl, Option.some.injEq] at hother
    subst hother
    exact Option.some.inj (hl'.symm.trans hlast)
  · rintro rfl
    exact ((sound.kept target lease hl).mem_users.mp (List.mem_of_getLast? hlast)).2

/-- The target that a filter takes accounts for the filter as its last user. -/
theorem State.Sound.kept_taken (sound : state.Sound problem) (wf : problem.WellFed)
    (hc : index ∈ state.candidates) (ht : problem.tasks[index]? = some task)
    (bound : problem.Bound (state.assignmentsAfter problem index task) index task bindings)
    {lease : Lease φ}
    (hl : (state.advance problem index task bindings).leases[
      (state.placement problem index task).target]? = some lease) :
    lease.Kept problem (state.order ++ [index]) (state.assignmentsAfter problem index task)
      (state.placement problem index task).target := by
  have hn := (sound.candidate index hc).1
  obtain ⟨former, takes⟩ := place_takes problem.formatText state.leases index task
    (problem.consumers (.member index)).length
  have hzero := bound.countP_isOn_eq_zero fun producer hf =>
    sound.producer_target_ne wf hc ht hf
  have houtputs : problem.outputCount index = task.outputs.size := by
    simp [Problem.outputCount, ht]
  rw [State.advance_leases, hzero] at hl
  have hl := hl.symm.trans (congrArg _ takes.taken)
  rw [Option.map_some, Option.some.injEq] at hl
  have hkept : ∀ found, former = some found →
      found.Kept problem state.order state.assignments
        (state.placement problem index task).target :=
    fun found hf => sound.kept _ _ (takes.former_eq.trans hf)
  constructor
  case users =>
    have husers : former.elim [] (fun lease => lease.users) =
        state.order.filter fun i => state.assignments[i]?.join =
          some (state.placement problem index task).target :=
      sound.users_before takes.former_eq
    rw [hl, sound.users_after ht hn, if_pos rfl, ← husers]
  case format =>
    rw [hl]
    intro user hu other ho
    rcases List.mem_append.mp hu with hu | hu
    · cases hf : former with
      | none => simp [hf] at hu
      | some found =>
        rw [hf, Option.elim_some] at hu
        rw [(hkept found hf).format user hu other ho, (takes.free found hf).2]
    · rw [List.mem_singleton] at hu
      subst hu
      rw [ht, Option.some.injEq] at ho
      rw [ho]
  case attachments =>
    rw [hl]
    simp only [List.map_append, List.map_cons, List.map_nil, List.foldl_append, List.foldl_cons,
      List.foldl_nil, houtputs]
    cases hf : former with
    | none => rfl
    | some found => simp only [Option.elim_some, (hkept found hf).attachments]
  case readers =>
    refine ⟨index, by simp [hl], ?_⟩
    rw [hl]
    exact (problem.outstanding_eq_length fun j hj => sound.not_feeds wf hc hj).symm

/-- Every other target accounts for its users as before. -/
theorem State.Sound.kept_other (sound : state.Sound problem) (wf : problem.WellFed)
    (hc : index ∈ state.candidates) (ht : problem.tasks[index]? = some task)
    (bound : problem.Bound (state.assignmentsAfter problem index task) index task bindings)
    {target : Nat} (hne : target ≠ (state.placement problem index task).target)
    {lease : Lease φ}
    (hl : (state.advance problem index task bindings).leases[target]? = some lease) :
    lease.Kept problem (state.order ++ [index]) (state.assignmentsAfter problem index task)
      target := by
  have hn := (sound.candidate index hc).1
  obtain ⟨former, takes⟩ := place_takes problem.formatText state.leases index task
    (problem.consumers (.member index)).length
  rw [State.advance_leases] at hl
  obtain ⟨found, hf, rfl⟩ := Option.map_eq_some_iff.mp hl
  have hfound : state.leases[target]? = some found := (takes.others target hne).symm.trans hf
  have kept := sound.kept target found hfound
  obtain ⟨last, hlast, hreaders⟩ := kept.readers
  refine ⟨?_, kept.format, kept.attachments, last, hlast, ?_⟩
  · rw [sound.users_after ht hn, if_neg hne.symm, List.append_nil]
    exact kept.users
  · rw [problem.outstanding_concat hn, ← hreaders]
    exact congrArg (found.readers - ·) (sound.countP_isOn_eq wf hc ht bound hfound hlast)

/-- A filter that is given a used target comes after all readers of the former users. -/
theorem State.Sound.released_after (sound : state.Sound problem)
    (hc : index ∈ state.candidates) (ht : problem.tasks[index]? = some task) {i j target : Nat}
    (hi : (state.assignmentsAfter problem index task)[i]?.join = some target)
    (hj : (state.assignmentsAfter problem index task)[j]?.join = some target)
    (hb : Before (state.order ++ [index]) i j) {c : Connection Anchor}
    (hcm : c ∈ problem.connections) (hs : c.source = .member i) :
    ∃ k, c.destination = .member k ∧ Before (state.order ++ [index]) k j := by
  have hn := (sound.candidate index hc).1
  rcases Before.concat_iff.mp hb with hb | ⟨him, rfl⟩
  · rw [sound.assignmentsAfter_of_mem ht hn hb.left_mem] at hi
    rw [sound.assignmentsAfter_of_mem ht hn hb.right_mem] at hj
    obtain ⟨k, hd, hk⟩ := sound.released i j target hi hj hb c hcm hs
    exact ⟨k, hd, hk.append _⟩
  · obtain ⟨former, takes⟩ := place_takes problem.formatText state.leases j task
      (problem.consumers (.member j)).length
    rw [sound.assignmentsAfter_of_mem ht hn him] at hi
    rw [sound.join_assignmentsAfter ht, if_pos rfl, Option.some.injEq] at hj
    subst hj
    have hl := List.getElem?_eq_getElem (sound.leased i _ hi)
    have hz := (takes.free _ (takes.former_eq.symm.trans hl)).1
    obtain ⟨k, hk, hd⟩ := sound.served_of_free hl hz hi hcm hs
    exact ⟨k, hd, Before.concat_iff.mpr (Or.inr ⟨hk, rfl⟩)⟩

/-- The counts after a filter is scheduled. -/
theorem State.advance_missing (i : Nat) :
    (state.advance problem index task bindings).missing[i]? = state.missing[i]?.map
      (Option.map (· - (problem.consumers (.member index)).count (.member i))) :=
  getElem?_foldl_supply _ _ _

/-- Every scheduled filter has its bindings after one more filter is scheduled. -/
theorem State.Sound.bound_after (sound : state.Sound problem) (hn : index ∉ state.order)
    (ht : problem.tasks[index]? = some task)
    (bound : problem.Bound (state.assignmentsAfter problem index task) index task bindings)
    {i : Nat} (hi : i ∈ state.order ++ [index]) {other : Task φ}
    (hother : problem.tasks[i]? = some other) :
    ∃ found, (state.advance problem index task bindings).bindings[i]? = some found ∧
      problem.Bound (state.assignmentsAfter problem index task) i other found := by
  rcases List.mem_append.mp hi with hi | hi
  · obtain ⟨found, hf, hb⟩ := sound.bound i hi other hother
    have hne : index ≠ i := fun h => hn (h ▸ hi)
    refine ⟨found, by rw [State.advance, List.getElem?_set_ne hne, hf], hb.congr ?_⟩
    intro producer hfeeds
    have hproducer := (sound.topological _ _ hfeeds hi).left_mem
    exact sound.assignmentsAfter_of_mem ht hn hproducer
  · obtain rfl := List.mem_singleton.mp hi
    obtain rfl := Option.some.inj (ht.symm.trans hother)
    have hlt := (List.getElem?_eq_some_iff.mp ht).1
    have hl : i < state.bindings.length := sound.bindings_length ▸ hlt
    exact ⟨bindings, List.getElem?_set_self hl, bound⟩

/-- The targets of scheduled filters exist after one more filter is scheduled. -/
theorem State.Sound.leased_after (sound : state.Sound problem)
    (ht : problem.tasks[index]? = some task) {i target : Nat}
    (hi : (state.assignmentsAfter problem index task)[i]?.join = some target) :
    target < (state.advance problem index task bindings).leases.length := by
  obtain ⟨former, takes⟩ := place_takes problem.formatText state.leases index task
    (problem.consumers (.member index)).length
  have hsome : ∃ lease, (state.placement problem index task).leases[target]? = some lease := by
    by_cases ho : target = (state.placement problem index task).target
    · exact ⟨_, ho ▸ takes.taken⟩
    · have hbefore : state.assignments[i]?.join = some target := by
        rw [sound.join_assignmentsAfter ht] at hi
        split at hi
        · exact absurd (Option.some.inj hi).symm ho
        · exact hi
      have hl := List.getElem?_eq_getElem (sound.leased i target hbefore)
      exact ⟨_, (takes.others target ho).trans hl⟩
  obtain ⟨lease, hl⟩ := hsome
  rw [State.advance, length_foldl_release]
  exact (List.getElem?_eq_some_iff.mp hl).1

/-- Scheduling a candidate keeps the invariant. -/
theorem State.Sound.advance (sound : state.Sound problem) (wf : problem.WellFed)
    (hc : index ∈ state.candidates) (ht : problem.tasks[index]? = some task)
    (allRead : problem.AllRead index task)
    (bound : problem.Bound (state.assignmentsAfter problem index task) index task bindings) :
    (state.advance problem index task bindings).Sound problem := by
  have hn := (sound.candidate index hc).1
  have hlt := (List.getElem?_eq_some_iff.mp ht).1
  have hsame := sound.counted_after_iff hc
  constructor
  case nodup => exact sound.nodup.append (List.nodup_singleton _) (by simpa using hn)
  case range =>
    intro i hi
    rcases List.mem_append.mp hi with hi | hi
    · exact sound.range i hi
    · exact List.mem_singleton.mp hi ▸ hlt
  case assignments_length => exact List.length_set.trans sound.assignments_length
  case bindings_length => exact List.length_set.trans sound.bindings_length
  case assigned =>
    intro i
    rw [show (state.advance problem index task bindings).assignments =
      state.assignmentsAfter problem index task from rfl, sound.join_assignmentsAfter ht]
    by_cases h : i = index
    · simp [h, State.advance]
    · simp [h, State.advance, sound.assigned i]
  case candidates_nodup => exact sound.candidates_nodup.erase _
  case candidate =>
    intro i hi
    obtain ⟨hne, hi⟩ := sound.candidates_nodup.mem_erase_iff.mp hi
    obtain ⟨ho, other, hother, hz⟩ := sound.candidate i hi
    refine ⟨by simpa [State.advance, hne] using ho, other, hother, ?_⟩
    have hu := wf.unsupplied_concat hother hn
    rw [hz, Nat.zero_sub] at hu
    exact hu
  case missing_length => exact (length_foldl_supply _ _).trans sound.missing_length
  case uncounted =>
    intro i hi
    rw [State.advance_missing, sound.uncounted i ((hsame i).mp hi)]
    rfl
  case counted =>
    intro i other hother ho hcand
    have hold := (not_congr (hsame i)).mp (not_or.mpr ⟨ho, hcand⟩)
    rw [not_or] at hold
    rw [State.advance_missing, sound.counted i other hother hold.1 hold.2]
    rw [Option.map_some, Option.map_some]
    exact congrArg (some <| some ·) (wf.unsupplied_concat hother hn).symm
  case topological =>
    intro i j hf hj
    rcases List.mem_append.mp hj with hj | hj
    · exact (sound.topological i j hf hj).append _
    · obtain rfl := List.mem_singleton.mp hj
      exact Before.concat_iff.mpr (Or.inr ⟨sound.mem_order_of_feeds wf hc hf, rfl⟩)
  case allRead =>
    intro i hi other hother
    rcases List.mem_append.mp hi with hi | hi
    · exact sound.allRead i hi other hother
    · obtain rfl := List.mem_singleton.mp hi
      obtain rfl := Option.some.inj (ht.symm.trans hother)
      exact allRead
  case bound => exact fun i hi other hother => sound.bound_after hn ht bound hi hother
  case leased => exact fun i target hi => sound.leased_after ht hi
  case kept =>
    intro target lease hl
    by_cases ho : target = (state.placement problem index task).target
    · subst ho
      exact sound.kept_taken wf hc ht bound hl
    · exact sound.kept_other wf hc ht bound ho hl
  case released =>
    intro i j target hi hj hb c hcm hs
    exact sound.released_after hc ht hi hj hb hcm hs

end Advance

end RenderGraph.Schedule
