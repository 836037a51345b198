import RenderGraph.Proofs.Schedule.Queue
import RenderGraph.Proofs.Schedule.Liveness
import RenderGraph.Proofs.Schedule.Faithful

/-!
# The greedy choice, told from the schedule

Which filter is scheduled next and which target it gets follows from the filters
scheduled before and from their targets alone: as long as a ready filter has the
format of a target that nothing waits for, the smallest of those filters takes
such a target; otherwise the filter that has been ready longest gets a new one.
-/

namespace RenderGraph.Schedule

variable {φ : Type}

section Law

/-- The filters of an order that were given a target, in that order. -/
def usersIn (given : Nat → Option Nat) (done : List Nat) (target : Nat) : List Nat :=
  done.filter fun i => given i = some target

/-- The attachments that a target with these users has. -/
def Problem.room (problem : Problem φ) (users : List Nat) : Nat :=
  (users.map problem.outputCount).foldl max 0

/-- The size of a filter on the device. -/
def Problem.footprint (problem : Problem φ) (i : Nat) : Nat :=
  problem.tasks[i]?.elim 0 Task.footprint

/-- A target with these users is free for a format: its latest user has that format, feeds no output
of the pipeline, and all its readers are scheduled. -/
def Problem.Idle (problem : Problem φ) (done users : List Nat) (format : φ) : Prop :=
  ∃ user, users.getLast? = some user ∧ problem.format? user = some format ∧
    ¬ problem.FeedsOutput user ∧ ∀ j, problem.Feeds user j → j ∈ done

/-- A filter has the format of a free target. -/
def Problem.Fits (problem : Problem φ) (done : List Nat) (users : Nat → List Nat) (i : Nat) : Prop :=
  ∃ format target, problem.format? i = some format ∧ problem.Idle done (users target) format

variable (problem : Problem φ) (done : List Nat) (users : Nat → List Nat) (i : Nat)
  (task : Task φ) (target : Nat)

/-- A filter takes a free target of its format. It is the first of the smallest filters that fit
one. -/
structure Problem.Reuses : Prop where
  /-- The target is free. -/
  idle : problem.Idle done (users target) task.format
  /-- Any other ready filter that fits a free target is larger, or as large and became ready
  later. -/
  smallest : ∀ j, problem.Ready done j → problem.Fits done users j → j ≠ i →
    problem.footprint i < problem.footprint j ∨
      (problem.footprint i = problem.footprint j ∧ problem.Precedes done i j)
  /-- If a free target of the format has enough attachments, the first such target is taken. -/
  enough : (∃ other, problem.Idle done (users other) task.format ∧
      task.outputs.size ≤ problem.room (users other)) →
    task.outputs.size ≤ problem.room (users target) ∧
      ∀ other < target, problem.Idle done (users other) task.format →
        problem.room (users other) < task.outputs.size
  /-- If none has, the first free target of the format is taken and gets as many attachments as the
  filter has outputs. -/
  grown : (∀ other, problem.Idle done (users other) task.format →
      problem.room (users other) < task.outputs.size) →
    (∀ other < target, ¬ problem.Idle done (users other) task.format) ∧
      problem.room (users target ++ [i]) = task.outputs.size

/-- A filter gets a new target. It is the first of all that are ready. -/
structure Problem.Opens : Prop where
  /-- Any other ready filter became ready later. -/
  first : ∀ j, problem.Ready done j → j ≠ i → problem.Precedes done i j
  /-- The target has the number behind those of all targets that were used before. -/
  fresh : ∀ other, users other ≠ [] ↔ other < target

/-- How the next filter and its target are chosen, when the filters of a list are scheduled and the
targets have these users. -/
structure Problem.Greedy : Prop where
  /-- The filter is ready. -/
  ready : problem.Ready done i
  /-- If a ready filter fits a free target, such a filter takes such a target. -/
  reuses : (∃ j, problem.Ready done j ∧ problem.Fits done users j) →
    problem.Reuses done users i task target
  /-- Otherwise the filter that became ready first gets a new target. -/
  opens : (¬ ∃ j, problem.Ready done j ∧ problem.Fits done users j) →
    problem.Opens done users i target
  /-- A target is new only when no ready filter fits a free one. -/
  needed : users target = [] → ¬ ∃ j, problem.Ready done j ∧ problem.Fits done users j

end Law

section Pool

variable [DecidableEq φ] {leases : List (Lease φ)} {format : φ} {outputs target : Nat}

/-- Free targets are found in the order of their numbers. -/
theorem freeLeases_sorted (leases : List (Lease φ)) (format : φ) :
    (freeLeases leases format).Pairwise fun a b => a.2 < b.2 :=
  (zipIdx_sorted leases).filter _

/-- The target that is found is the first free one with enough attachments. If none has enough, it
is the first free one. -/
theorem freeTarget?_first (h : freeTarget? leases format outputs = some target) :
    ∃ lease, leases[target]? = some lease ∧ lease.isFree format = true ∧
      ((outputs ≤ lease.attachments ∧ ∀ other < target, ∀ found, leases[other]? = some found →
          found.isFree format = true → found.attachments < outputs) ∨
        ((∀ (other : Nat) (found : Lease φ), leases[other]? = some found →
            found.isFree format = true → found.attachments < outputs) ∧
          ∀ other < target, ∀ found, leases[other]? = some found →
            found.isFree format = false)) := by
  have hsorted := freeLeases_sorted leases format
  simp only [freeTarget?] at h
  split at h
  case h_1 entry hf =>
    obtain rfl := Option.some.inj h
    have hm := mem_freeLeases.mp (List.mem_of_find?_eq_some hf)
    obtain ⟨henough, front, back, hsplit, hfront⟩ := List.find?_eq_some_iff_append.mp hf
    refine ⟨entry.1, hm.1, hm.2, Or.inl ⟨of_decide_eq_true henough, ?_⟩⟩
    intro other hlt found hfound hfree
    have hin := mem_freeLeases.mpr ⟨hfound, hfree⟩
    rw [hsplit] at hin hsorted
    -- What stands behind the target that is found has a larger number.
    have hback := (List.pairwise_cons.mp (List.pairwise_append.mp hsorted).2.1).1
    rcases List.mem_append.mp hin with hin | hin
    · simpa using hfront _ hin
    · rcases List.mem_cons.mp hin with he | hin
      · exact absurd (congrArg Prod.snd he) (Nat.ne_of_lt hlt)
      · exact absurd (hback _ hin) (Nat.lt_asymm hlt)
  case h_2 hnone =>
    obtain ⟨entry, he, rfl⟩ := Option.map_eq_some_iff.mp h
    have hm := mem_freeLeases.mp (List.mem_of_mem_head? he)
    obtain ⟨rest, hcons⟩ := List.head?_eq_some_iff.mp he
    refine ⟨entry.1, hm.1, hm.2, Or.inr ⟨?_, ?_⟩⟩
    · intro other found hfound hfree
      simpa using List.find?_eq_none.mp hnone _ (mem_freeLeases.mpr ⟨hfound, hfree⟩)
    · intro other hlt found hfound
      by_contra hfree
      have hin := mem_freeLeases.mpr ⟨hfound, Bool.eq_true_of_not_eq_false hfree⟩
      rw [hcons] at hin hsorted
      rcases List.mem_cons.mp hin with he | hin
      · exact absurd (congrArg Prod.snd he) (Nat.ne_of_lt hlt)
      · exact absurd ((List.pairwise_cons.mp hsorted).1 _ hin) (Nat.lt_asymm hlt)

/-- Some target is found exactly when there is a free one, whatever number of attachments is asked
for. -/
theorem isSome_freeTarget?_iff : (freeTarget? leases format outputs).isSome = true ↔
    ∃ (target : Nat) (lease : Lease φ), leases[target]? = some lease ∧
      lease.isFree format = true := by
  constructor
  · intro h
    obtain ⟨target, ht⟩ := Option.isSome_iff_exists.mp h
    exact ⟨target, freeTarget?_sound ht⟩
  · intro h
    obtain ⟨target, lease, hl, hfree⟩ := h
    cases hf : freeTarget? leases format outputs with
    | some found => rfl
    | none =>
      rw [not_isFree_of_freeTarget? hf (List.mem_of_getElem? hl)] at hfree
      cases hfree

end Pool

section Account

variable {problem : Problem φ} {state : State φ} {target : Nat} {lease : Lease φ} {format : φ}

/-- The targets of the filters that are scheduled. -/
def State.given (state : State φ) (i : Nat) : Option Nat :=
  state.assignments[i]?.join

/-- The users of each target so far. -/
def State.users (state : State φ) (target : Nat) : List Nat :=
  usersIn state.given state.order target

/-- A target keeps account of its users. -/
theorem State.Sound.users_eq (sound : state.Sound problem)
    (hl : state.leases[target]? = some lease) : state.users target = lease.users :=
  (sound.kept target lease hl).users.symm

/-- A target is used as soon as it is there. -/
theorem State.Sound.users_ne_nil_iff (sound : state.Sound problem) :
    state.users target ≠ [] ↔ target < state.leases.length := by
  constructor
  · intro h
    obtain ⟨i, hi⟩ := List.exists_mem_of_ne_nil _ h
    have hg := of_decide_eq_true (List.mem_filter.mp hi).2
    exact sound.leased i target hg
  · intro hlt hnil
    have hl := List.getElem?_eq_getElem hlt
    obtain ⟨last, hlast, -⟩ := (sound.kept target _ hl).readers
    rw [← sound.users_eq hl, hnil] at hlast
    cases hlast

/-- The attachments of a target are those that its users need. -/
theorem State.Sound.room_users (sound : state.Sound problem)
    (hl : state.leases[target]? = some lease) :
    problem.room (state.users target) = lease.attachments := by
  rw [sound.users_eq hl, (sound.kept target lease hl).attachments]
  rfl

/-- A target is free for the scheduler when nothing waits for its latest user. -/
theorem State.Sound.idle_iff_isFree [DecidableEq φ] (sound : state.Sound problem)
    (hl : state.leases[target]? = some lease) :
    problem.Idle state.order (state.users target) format ↔ lease.isFree format = true := by
  have kept := sound.kept target lease hl
  obtain ⟨last, hlast, hreaders⟩ := kept.readers
  have hin := kept.mem_users.mp (List.mem_of_getLast? hlast)
  have hformat : problem.format? last = some lease.format := by
    have ht := List.getElem?_eq_getElem (sound.range last hin.1)
    rw [Problem.format?, ht, Option.map_some,
      kept.format last (List.mem_of_getLast? hlast) _ ht]
  have hserved : lease.readers = 0 ↔ ¬ problem.FeedsOutput last ∧
      ∀ j, problem.Feeds last j → j ∈ state.order := by
    have hcome := not_congr (problem.outstanding_ne_zero_iff state.order last)
    rw [Ne, not_not, not_or, not_exists] at hcome
    rw [hreaders, hcome]
    refine and_congr_right fun _ => forall_congr' fun j => ?_
    rw [not_and, not_imp_not]
  rw [sound.users_eq hl, Lease.isFree_iff, hserved]
  constructor
  · intro h
    obtain ⟨user, huser, hf, hout, hread⟩ := h
    obtain rfl : user = last := Option.some.inj (huser.symm.trans hlast)
    exact ⟨⟨hout, hread⟩, Option.some.inj (hformat.symm.trans hf)⟩
  · intro h
    obtain ⟨⟨hout, hread⟩, rfl⟩ := h
    exact ⟨last, hlast, hformat, hout, hread⟩

/-- The footprint of a filter is that of its task. -/
theorem Problem.footprint_eq {i : Nat} {task : Task φ} (ht : problem.tasks[i]? = some task) :
    problem.footprint i = task.footprint := by
  rw [Problem.footprint, ht, Option.elim_some]

variable [DecidableEq φ]

/-- The free targets of a format are those that the scheduler finds. -/
theorem State.Sound.idle_iff (sound : state.Sound problem) :
    problem.Idle state.order (state.users target) format ↔
      ∃ lease, state.leases[target]? = some lease ∧ lease.isFree format = true := by
  constructor
  · intro h
    have hne : state.users target ≠ [] := by
      obtain ⟨user, huser, -⟩ := h
      intro hnil
      rw [hnil] at huser
      cases huser
    have hl := List.getElem?_eq_getElem (sound.users_ne_nil_iff.mp hne)
    exact ⟨_, hl, (sound.idle_iff_isFree hl).mp h⟩
  · intro h
    obtain ⟨lease, hl, hfree⟩ := h
    exact (sound.idle_iff_isFree hl).mpr hfree

/-- A filter fits a free target when the scheduler offers it one. -/
theorem State.Sound.fits_iff (sound : state.Sound problem) {i : Nat} {task : Task φ}
    (ht : problem.tasks[i]? = some task) :
    problem.Fits state.order state.users i ↔ state.offers task = true := by
  have hformat : problem.format? i = some task.format := by
    rw [Problem.format?, ht, Option.map_some]
  rw [State.offers, isSome_freeTarget?_iff]
  constructor
  · intro h
    obtain ⟨format, target, hf, hidle⟩ := h
    obtain rfl := Option.some.inj (hformat.symm.trans hf)
    exact ⟨target, sound.idle_iff.mp hidle⟩
  · intro h
    obtain ⟨target, hfree⟩ := h
    exact ⟨task.format, target, hformat, sound.idle_iff.mpr hfree⟩

end Account

section Step

variable [DecidableEq φ] {problem : Problem φ} {state : State φ} {index : Nat} {task : Task φ}

/-- A filter that is offered a target takes the one that is found. -/
theorem State.placement_target (state : State φ) (index : Nat) (task : Task φ) :
    (state.placement problem index task).target =
      (freeTarget? state.leases task.format task.outputs.size).getD state.leases.length := by
  unfold State.placement place
  cases hf : freeTarget? state.leases task.format task.outputs.size with
  | some target => simp only [hf, Option.getD_some]
  | none => simp only [hf, Option.getD_none]

/-- Giving a filter the free target that is found is what the law asks for. -/
theorem State.Sound.reuses (sound : state.Sound problem) {target : Nat}
    (ht : problem.tasks[index]? = some task)
    (hfound : freeTarget? state.leases task.format task.outputs.size = some target)
    (hsmallest : ∀ j, problem.Ready state.order j → problem.Fits state.order state.users j →
      j ≠ index → problem.footprint index < problem.footprint j ∨
        (problem.footprint index = problem.footprint j ∧
          problem.Precedes state.order index j)) :
    problem.Reuses state.order state.users index task target := by
  obtain ⟨lease, hl, hfree, hchoice⟩ := freeTarget?_first hfound
  have hroom := sound.room_users hl
  have houtputs : problem.outputCount index = task.outputs.size := by
    rw [Problem.outputCount, ht, Option.elim_some]
  constructor
  case idle => exact (sound.idle_iff_isFree hl).mpr hfree
  case smallest => exact hsmallest
  case enough =>
    intro hsome
    rcases hchoice with ⟨henough, hbefore⟩ | ⟨hnone, -⟩
    · refine ⟨hroom.symm ▸ henough, fun other hlt hidle => ?_⟩
      obtain ⟨found, hf, hfree⟩ := sound.idle_iff.mp hidle
      exact (sound.room_users hf).symm ▸ hbefore other hlt found hf hfree
    · obtain ⟨other, hidle, hle⟩ := hsome
      obtain ⟨found, hf, hfree⟩ := sound.idle_iff.mp hidle
      have hlt := hnone other found hf hfree
      rw [sound.room_users hf] at hle
      omega
  case grown =>
    intro hnone
    have hsmall := hnone target ((sound.idle_iff_isFree hl).mpr hfree)
    have hgrown : problem.room (state.users target ++ [index]) =
        max (problem.room (state.users target)) (problem.outputCount index) := by
      simp [Problem.room, List.foldl_append]
    refine ⟨?_, by rw [hgrown, houtputs]; omega⟩
    rcases hchoice with ⟨henough, -⟩ | ⟨-, hbefore⟩
    · rw [hroom] at hsmall
      omega
    · intro other hlt hidle
      obtain ⟨found, hf, hfree⟩ := sound.idle_iff.mp hidle
      rw [hbefore other hlt found hf] at hfree
      cases hfree

/-- When the candidates are the ready filters in their order, the choice of the scheduler is
greedy. -/
theorem State.Sound.greedy (sound : state.Sound problem)
    (hmem : ∀ j, j ∈ state.candidates ↔ problem.Ready state.order j)
    (sorted : state.candidates.Pairwise (problem.Precedes state.order))
    (h : choose? problem state = some (index, task)) :
    problem.Greedy state.order state.users index task
      (state.placement problem index task).target := by
  have hchosen := choose?_sound h
  have hfootprint := Problem.footprint_eq hchosen.2
  have hplaced : (state.placement problem index task).target =
      (freeTarget? state.leases task.format task.outputs.size).getD state.leases.length :=
    state.placement_target index task
  have htask : ∀ {j}, problem.Ready state.order j → ∃ other, problem.tasks[j]? = some other :=
    fun hr => ⟨_, List.getElem?_eq_getElem hr.1⟩
  have hreuses : (∃ j, problem.Ready state.order j ∧ problem.Fits state.order state.users j) →
      problem.Reuses state.order state.users index task
        (state.placement problem index task).target := by
    intro hsome
    rcases choose?_first sorted h with ⟨hoffers, hsmallest⟩ | hnone
    · have hfound : (freeTarget? state.leases task.format task.outputs.size).isSome = true :=
        isSome_freeTarget?_iff.mpr (isSome_freeTarget?_iff.mp hoffers)
      obtain ⟨target, htarget⟩ := Option.isSome_iff_exists.mp hfound
      rw [hplaced, htarget, Option.getD_some]
      refine sound.reuses hchosen.2 htarget fun j hr hfits hne => ?_
      obtain ⟨other, hother⟩ := htask hr
      rw [hfootprint, Problem.footprint_eq hother]
      exact hsmallest j ((hmem j).mpr hr) other hother ((sound.fits_iff hother).mp hfits) hne
    · obtain ⟨j, hr, hfits⟩ := hsome
      obtain ⟨other, hother⟩ := htask hr
      have hoffers := (hnone j ((hmem j).mpr hr) other hother).1
      rw [(sound.fits_iff hother).mp hfits] at hoffers
      cases hoffers
  constructor
  case ready => exact (hmem index).mp hchosen.1
  case reuses => exact hreuses
  case opens =>
    intro hnone
    have hoffers : ∀ {j other}, problem.tasks[j]? = some other → j ∈ state.candidates →
        state.offers other = false := by
      intro j other hother hj
      by_contra hoffers
      have hfits := (sound.fits_iff hother).mpr (Bool.eq_true_of_not_eq_false hoffers)
      exact hnone ⟨j, (hmem j).mp hj, hfits⟩
    have hfound : freeTarget? state.leases task.format task.outputs.size = none := by
      by_contra hsome
      have hfree := isSome_freeTarget?_iff.mp (Option.isSome_iff_ne_none.mpr hsome)
      have hoffered : (freeTarget? state.leases task.format 0).isSome = true :=
        isSome_freeTarget?_iff.mpr hfree
      have hrefused := hoffers hchosen.2 hchosen.1
      rw [State.offers, hoffered] at hrefused
      cases hrefused
    constructor
    case first =>
      intro j hr hne
      obtain ⟨other, hother⟩ := htask hr
      rcases choose?_first sorted h with ⟨hoffered, -⟩ | hfirst
      · rw [hoffers hchosen.2 hchosen.1] at hoffered
        cases hoffered
      · exact (hfirst j ((hmem j).mpr hr) other hother).2 hne
    case fresh =>
      intro other
      rw [hplaced, hfound, Option.getD_none]
      exact sound.users_ne_nil_iff
  case needed =>
    intro hnil hsome
    obtain ⟨user, huser, -⟩ := (hreuses hsome).idle
    rw [hnil] at huser
    cases huser

end Step

section Run

variable {problem : Problem φ} {outputs : Ports}

/-- The users of a target depend on the targets of the filters in question only. -/
theorem usersIn_congr {given given' : Nat → Option Nat} {done : List Nat}
    (h : ∀ i ∈ done, given' i = given i) : usersIn given' done = usersIn given done := by
  funext target
  exact List.filter_congr fun i hi => by rw [h i hi]

/-- Every filter scheduled so far and its target were chosen greedily when it was scheduled. -/
def State.Lawful (problem : Problem φ) (state : State φ) : Prop :=
  ∀ k i, state.order[k]? = some i → ∃ task target, problem.tasks[i]? = some task ∧
    state.given i = some target ∧ problem.Greedy (state.order.take k)
      (usersIn state.given (state.order.take k)) i task target

/-- The target that a schedule gives a filter. -/
def givenBy (schedule : Solution φ) (i : Nat) : Option Nat :=
  schedule.assignments[i]?

/-- What a schedule says of its targets agrees with the targets of the filters. -/
structure Accounts (problem : Problem φ) (schedule : Solution φ) : Prop where
  /-- The users of a target are the filters that it is given to. -/
  users : ∀ (id : Nat) (target : Target φ), schedule.targets[id]? = some target →
    target.users = usersIn (givenBy schedule) schedule.order id
  /-- A target has the attachments that its users need. -/
  attachments : ∀ target ∈ schedule.targets, target.attachments = problem.room target.users
  /-- A target has the format of its users. -/
  format : ∀ target ∈ schedule.targets, ∀ user ∈ target.users,
    problem.format? user = some target.format

/-- The targets of a schedule agree with those of the filters. -/
theorem Finished.accounts {final : State φ} {schedule : Solution φ}
    (finished : Finished problem outputs final schedule) (complete : final.Complete problem) :
    Accounts problem schedule where
  users := fun id target ht => finished.order ▸ finished.users_eq complete ht
  attachments := fun target ht => finished.attachments_eq complete ht
  format := by
    intro target ht user hu
    obtain ⟨id, hid⟩ := List.mem_iff_getElem?.mp ht
    obtain ⟨lease, hl, rfl⟩ := finished.exists_lease hid
    have hm := (finished.mem_users_iff complete hid).mp hu
    have htask := List.getElem?_eq_getElem (complete.sound.range user hm.1)
    rw [Problem.format?, htask, Option.map_some,
      (complete.sound.kept id lease hl).format user hu _ htask]

variable [DecidableEq φ] {state : State φ} {index : Nat} {task : Task φ}
  {bindings : List Binding}

/-- Scheduling a filter that is chosen greedily does not touch what was chosen before. -/
theorem State.Lawful.advance (lawful : state.Lawful problem) (sound : state.Sound problem)
    (ht : problem.tasks[index]? = some task) (hn : index ∉ state.order)
    (greedy : problem.Greedy state.order state.users index task
      (state.placement problem index task).target) :
    (state.advance problem index task bindings).Lawful problem := by
  have hgiven : ∀ i, (state.advance problem index task bindings).given i =
      if i = index then some (state.placement problem index task).target else state.given i :=
    sound.join_assignmentsAfter ht
  have hsame : ∀ i ∈ state.order,
      (state.advance problem index task bindings).given i = state.given i :=
    fun i hi => sound.assignmentsAfter_of_mem ht hn hi
  intro k i hk
  have hcut : k ≤ state.order.length →
      (state.advance problem index task bindings).order.take k = state.order.take k :=
    fun hle => List.take_append_of_le_length hle
  have hlength : k < state.order.length + 1 := by
    have hlt := (List.getElem?_eq_some_iff.mp hk).1
    rwa [State.advance, List.length_append, List.length_singleton] at hlt
  rcases Nat.lt_succ_iff_lt_or_eq.mp hlength with hlt | rfl
  · have hold : state.order[k]? = some i := (List.getElem?_append_left hlt).symm.trans hk
    obtain ⟨found, target, hf, hg, hgreedy⟩ := lawful k i hold
    refine ⟨found, target, hf, (hsame i (List.mem_of_getElem? hold)).trans hg, ?_⟩
    rw [hcut (Nat.le_of_lt hlt),
      usersIn_congr fun i hi => hsame i (List.mem_of_mem_take hi)]
    exact hgreedy
  · have hnew : index = i := Option.some.inj (List.getElem?_concat_length.symm.trans hk)
    refine ⟨task, (state.placement problem index task).target, hnew ▸ ht, ?_, ?_⟩
    · rw [hgiven, if_pos hnew.symm]
    · rw [hcut (Nat.le_refl _), List.take_length, usersIn_congr hsame, ← hnew]
      exact greedy

/-- Every step chooses greedily, so a whole run does. -/
theorem lawful_of_steps (wf : problem.WellFormed outputs) (closed : problem.Closed outputs)
    {final : State φ}
    (h : steps problem problem.tasks.length (start problem) = (final, none)) :
    final.Lawful problem := by
  have hrun := (start_sound wf.wellFed).steps_induction wf.wellFed
    (motive := fun state => state.Queued problem ∧ state.Lawful problem) ?step _ ?start h
  case start => exact ⟨start_queued, nofun⟩
  case step =>
    intro state next sound hboth hs
    obtain ⟨index, task, bindings, hc, -, -, rfl⟩ := step_eq_ok hs
    have hchosen := choose?_sound hc
    have greedy := sound.promote.greedy (fun _ => sound.mem_promote_iff_ready wf closed)
      (hboth.1.promote sound wf closed) hc
    exact ⟨hboth.1.advance sound wf closed, State.Lawful.advance hboth.2 sound.promote hchosen.2
      (sound.promote.candidate index hchosen.1).1 greedy⟩
  exact hrun.2

/-- In every schedule, the filter at each position and its target are the greedy choice among the
filters that are ready there and the targets that are free there. -/
theorem schedule_greedy (problem : Problem φ) (outputs : Ports) (wf : problem.WellFormed outputs)
    (schedule : Solution φ) (solved : (problem.solve outputs).1 = .ok schedule) :
    Accounts problem schedule ∧
      ∀ k i, schedule.order[k]? = some i → ∃ task target, problem.tasks[i]? = some task ∧
        schedule.assignments[i]? = some target ∧ problem.Greedy (schedule.order.take k)
          (usersIn (givenBy schedule) (schedule.order.take k)) i task target := by
  obtain ⟨final, hsteps, hfinish⟩ := exists_steps solved
  have finished := State.finish_eq_ok hfinish
  have complete := exists_complete_of_steps wf hsteps
  have lawful := lawful_of_steps wf (wf.closed_of_solve solved) hsteps
  have hgiven : givenBy schedule = final.given := by
    funext i
    exact Option.ext fun target => finished.assigned
  refine ⟨finished.accounts complete, fun k i hk => ?_⟩
  rw [finished.order] at hk
  obtain ⟨task, target, ht, hg, greedy⟩ := lawful k i hk
  rw [finished.order, hgiven]
  exact ⟨task, target, ht, finished.assigned.mpr hg, greedy⟩

/-- In the fork, when the first two filters are scheduled, the filter with two outputs takes the
target of the first one, which gets a second attachment. -/
theorem fork_greedy : fork.WellFormed ⟨["out"]⟩ ∧
    (fork.solve ⟨["out"]⟩).1 = .ok forkSchedule ∧ forkSchedule.order[2]? = some 2 ∧
      ∃ task, fork.tasks[2]? = some task ∧
        fork.Greedy [0, 1] (usersIn (givenBy forkSchedule) [0, 1]) 2 task 0 := by
  have solved : (fork.solve ⟨["out"]⟩).1 = .ok forkSchedule := rfl
  have law := schedule_greedy fork ⟨["out"]⟩ fork_wellFormed forkSchedule solved
  obtain ⟨task, target, ht, ha, greedy⟩ := law.2 2 2 rfl
  obtain rfl : target = 0 := (Option.some.inj ha).symm
  exact ⟨fork_wellFormed, solved, rfl, task, ht, greedy⟩

end Run

end RenderGraph.Schedule
