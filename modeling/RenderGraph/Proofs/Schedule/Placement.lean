import RenderGraph.Schedule.Pool

/-!
# Giving a filter a render target

Whether a target is reused or a new one is planned, the pool changes at one
place only: the target then belongs to the new user, has its format and at least
as many attachments as the user has outputs, and all reads of the user are still
to come. A target that is reused was free.
-/

namespace RenderGraph.Schedule

variable {φ : Type} [DecidableEq φ] {leases : List (Lease φ)} {format : φ} {outputs : Nat}

/-- A free target is one that nothing waits for, in the format asked for. -/
theorem Lease.isFree_iff {lease : Lease φ} :
    lease.isFree format = true ↔ lease.readers = 0 ∧ lease.format = format := by
  simp [Lease.isFree]

/-- The free targets of a pool under their numbers. -/
theorem mem_freeLeases {lease : Lease φ} {target : Nat} :
    (lease, target) ∈ freeLeases leases format ↔
      leases[target]? = some lease ∧ lease.isFree format = true := by
  simp [freeLeases, List.mem_zipIdx_iff_getElem?]

/-- Only a free target is found. -/
theorem freeTarget?_sound {target : Nat} (h : freeTarget? leases format outputs = some target) :
    ∃ lease, leases[target]? = some lease ∧ lease.isFree format = true := by
  simp only [freeTarget?] at h
  split at h
  case h_1 entry hf =>
    obtain rfl := Option.some.inj h
    exact ⟨entry.1, mem_freeLeases.mp (List.mem_of_find?_eq_some hf)⟩
  case h_2 =>
    obtain ⟨entry, he, rfl⟩ := Option.map_eq_some_iff.mp h
    exact ⟨entry.1, mem_freeLeases.mp (List.mem_of_mem_head? he)⟩

/-- What the pool holds after a filter took a target: that target with its new user at the end,
and all others as they were. -/
structure Takes (leases : List (Lease φ)) (user : Nat) (task : Task φ) (readers : Nat)
    (placement : Placement φ) (former : Option (Lease φ)) : Prop where
  /-- The target was this one before, or did not exist. -/
  former_eq : leases[placement.target]? = former
  /-- A target that existed was free. -/
  free : ∀ lease, former = some lease → lease.readers = 0 ∧ lease.format = task.format
  /-- The target after the filter took it. -/
  taken : placement.leases[placement.target]? = some
    { format := task.format
      attachments := max (former.elim 0 fun lease => lease.attachments) task.outputs.size
      users := former.elim [] (fun lease => lease.users) ++ [user]
      readers }
  /-- No other target changes. -/
  others : ∀ other, other ≠ placement.target → placement.leases[other]? = leases[other]?

/-- A filter takes a free target or a new one. -/
theorem place_takes (formatText : φ → String) (leases : List (Lease φ)) (user : Nat)
    (task : Task φ) (readers : Nat) :
    ∃ former, Takes leases user task readers (place formatText leases user task readers)
      former := by
  simp only [place]
  split
  case h_1 target hf =>
    obtain ⟨lease, hl, hfree⟩ := freeTarget?_sound hf
    rw [Lease.isFree_iff] at hfree
    refine ⟨some lease, hl, ?_, ?_, ?_⟩
    · intro found hf
      exact Option.some.inj hf ▸ hfree
    · simp [hl, Lease.renew, hfree.2]
    · intro other ho
      have ho : target ≠ other := fun h => ho h.symm
      simp [ho]
  case h_2 =>
    refine ⟨none, by simp, by simp, by simp, ?_⟩
    intro other ho
    have ho : other ≠ leases.length := ho
    rcases Nat.lt_or_gt_of_ne ho with h | h
    · rw [List.getElem?_append_left h]
    · rw [List.getElem?_eq_none (by simp; omega), List.getElem?_eq_none (by omega)]

end RenderGraph.Schedule
