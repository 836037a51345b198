import Mathlib.Data.List.Nodup
import Mathlib.Data.List.Forall2

/-!
# Positions in a list

What stands before what in a list that only grows at its end, which members of a
list are known by their values, and the results of a list of computations that
may fail.
-/

namespace RenderGraph

section Before

variable {α : Type} {list : List α} {a b c : α}

/-- One value stands somewhere before another one in the list. -/
def Before (list : List α) (a b : α) : Prop :=
  ∃ p q : Nat, p < q ∧ list[p]? = some a ∧ list[q]? = some b

namespace Before

/-- What stands before something is in the list. -/
theorem left_mem (h : Before list a b) : a ∈ list := by
  obtain ⟨p, q, -, hp, -⟩ := h
  exact List.mem_of_getElem? hp

/-- What something stands before is in the list. -/
theorem right_mem (h : Before list a b) : b ∈ list := by
  obtain ⟨p, q, -, -, hq⟩ := h
  exact List.mem_of_getElem? hq

/-- What is added at the end does not change the order of the rest. -/
theorem append (h : Before list a b) (more : List α) : Before (list ++ more) a b := by
  obtain ⟨p, q, hpq, hp, hq⟩ := h
  have hl := (List.getElem?_eq_some_iff.mp hq).1
  exact ⟨p, q, hpq, by rw [List.getElem?_append_left (by omega), hp],
    by rw [List.getElem?_append_left hl, hq]⟩

/-- Where a list is cut, a value of the first part stands before one of the second. -/
theorem of_cut {front back : List α} (ha : a ∈ front) (hb : b ∈ back) :
    Before (front ++ back) a b := by
  obtain ⟨p, hp⟩ := List.mem_iff_getElem?.mp ha
  obtain ⟨q, hq⟩ := List.mem_iff_getElem?.mp hb
  have hl : p < front.length := (List.getElem?_eq_some_iff.mp hp).1
  refine ⟨p, front.length + q, by omega, ?_, ?_⟩
  · rw [List.getElem?_append_left hl, hp]
  · rw [List.getElem?_append_right (by omega), Nat.add_sub_cancel_left, hq]

/-- A value put at the end comes after all others. -/
theorem concat_iff : Before (list ++ [c]) a b ↔ Before list a b ∨ (a ∈ list ∧ b = c) := by
  constructor
  · rintro ⟨p, q, hpq, hp, hq⟩
    have hl : q < list.length + 1 := by
      simpa using (List.getElem?_eq_some_iff.mp hq).1
    rw [List.getElem?_append_left (by omega)] at hp
    rcases Nat.lt_or_ge q list.length with h | h
    · rw [List.getElem?_append_left h] at hq
      exact Or.inl ⟨p, q, hpq, hp, hq⟩
    · obtain rfl : q = list.length := by omega
      rw [List.getElem?_concat_length, Option.some.injEq] at hq
      exact Or.inr ⟨List.mem_of_getElem? hp, hq.symm⟩
  · rintro (h | ⟨ha, rfl⟩)
    · exact h.append _
    · exact of_cut ha (by simp)

/-- Where a list without repetitions is cut, what stands before the cut is in the first part. -/
theorem mem_front {front back : List α} (hn : (front ++ b :: back).Nodup)
    (h : Before (front ++ b :: back) a b) : a ∈ front := by
  obtain ⟨p, q, hpq, hp, hq⟩ := h
  have hb : (front ++ b :: back)[front.length]? = some b := by simp
  have hl : front.length < (front ++ b :: back).length := by simp
  have he := (List.getElem?_inj hl hn).mp (hb.trans hq.symm)
  rw [List.getElem?_append_left (by omega)] at hp
  exact List.mem_of_getElem? hp

/-- Of two different members one comes first. -/
theorem total (ha : a ∈ list) (hb : b ∈ list) (hne : a ≠ b) :
    Before list a b ∨ Before list b a := by
  obtain ⟨p, hp⟩ := List.mem_iff_getElem?.mp ha
  obtain ⟨q, hq⟩ := List.mem_iff_getElem?.mp hb
  have hpq : p ≠ q := fun h => hne (Option.some.inj (hp.symm.trans (h ▸ hq)))
  rcases Nat.lt_or_gt_of_ne hpq with h | h
  · exact Or.inl ⟨p, q, h, hp, hq⟩
  · exact Or.inr ⟨q, p, h, hq, hp⟩

/-- The order of a list without repetitions is transitive. -/
theorem trans (hn : list.Nodup) (h : Before list a b) (k : Before list b c) :
    Before list a c := by
  obtain ⟨p, q, hpq, hp, hq⟩ := h
  obtain ⟨q', r, hqr, hq', hr⟩ := k
  have he := (List.getElem?_inj (List.getElem?_eq_some_iff.mp hq).1 hn).mp (hq.trans hq'.symm)
  exact ⟨p, r, by omega, hp, hr⟩

/-- Nothing stands before itself in a list without repetitions. -/
theorem irrefl (hn : list.Nodup) : ¬ Before list a a := by
  rintro ⟨p, q, hpq, hp, hq⟩
  have he := (List.getElem?_inj (List.getElem?_eq_some_iff.mp hp).1 hn).mp (hp.trans hq.symm)
  omega

/-- Of two members of a list without repetitions only one comes first. -/
theorem asymm (hn : list.Nodup) (h : Before list a b) : ¬ Before list b a := fun k =>
  irrefl hn (h.trans hn k)

/-- In a list without repetitions nothing in front of a position comes after what stands there or
behind. -/
theorem not_mem_take (hn : list.Nodup) (h : Before list a b) {k : Nat} (ha : a ∈ list.drop k) :
    b ∉ list.take (k + 1) := by
  intro hb
  obtain ⟨p, q, hpq, hp, hq⟩ := h
  obtain ⟨m, hm⟩ := List.mem_iff_getElem?.mp ha
  obtain ⟨r, hr⟩ := List.mem_iff_getElem?.mp hb
  have hrk : r < k + 1 := by
    have hl := (List.getElem?_eq_some_iff.mp hr).1
    rw [List.length_take] at hl
    omega
  rw [List.getElem?_drop] at hm
  rw [List.getElem?_take_of_lt hrk] at hr
  have hpm := (List.getElem?_inj (List.getElem?_eq_some_iff.mp hp).1 hn).mp (hp.trans hm.symm)
  have hqr := (List.getElem?_inj (List.getElem?_eq_some_iff.mp hq).1 hn).mp (hq.trans hr.symm)
  omega

/-- The last member comes after all others. -/
theorem getLast (ha : a ∈ list) (hl : list.getLast? = some b) : a = b ∨ Before list a b := by
  obtain ⟨front, rfl⟩ := List.getLast?_eq_some_iff.mp hl
  rcases List.mem_append.mp ha with ha | ha
  · exact Or.inr (of_cut ha (by simp))
  · exact Or.inl (List.mem_singleton.mp ha)

/-- A part of a list has the order of the whole. -/
theorem of_sublist {part : List α} (h : Before part a b) (hs : part.Sublist list) :
    Before list a b := by
  induction hs with
  | slnil => exact h
  | cons x hs ih =>
    obtain ⟨p, q, hpq, hp, hq⟩ := ih h
    exact ⟨p + 1, q + 1, by omega, hp, hq⟩
  | @cons_cons part list x hs ih =>
    obtain ⟨p, q, hpq, hp, hq⟩ := h
    match p, q, hpq with
    | 0, q + 1, _ =>
      have hx : x = a := by simpa using hp
      have hb := hs.subset (List.mem_of_getElem? (by simpa using hq : part[q]? = some b))
      have hc : Before ([x] ++ list) x b := of_cut List.mem_cons_self hb
      exact hx ▸ hc
    | p + 1, q + 1, hpq =>
      obtain ⟨p', q', hpq', hp', hq'⟩ := ih ⟨p, q, by omega, by simpa using hp, by simpa using hq⟩
      exact ⟨p' + 1, q' + 1, by omega, by simpa using hp', by simpa using hq'⟩

end Before

end Before

section Values

variable {α β : Type} {f : α → β} {list : List α}

/-- Members that are numbered in their order stand in the order of their numbers. -/
theorem zipIdx_sorted (list : List α) : list.zipIdx.Pairwise fun a b => a.2 < b.2 := by
  rw [← List.pairwise_map (f := Prod.snd) (R := (· < ·)), List.zipIdx_map_snd]
  exact List.pairwise_lt_range'

/-- The members of a list have different values exactly when they are known by them. -/
theorem nodup_map_iff_index : (list.map f).Nodup ↔ ∀ (i j : Nat) (a b : α),
    list[i]? = some a → list[j]? = some b → f a = f b → i = j := by
  constructor
  · intro hn i j a b ha hb he
    have hi : (list.map f)[i]? = some (f a) := by rw [List.getElem?_map, ha, Option.map_some]
    have hj : (list.map f)[j]? = some (f a) := by rw [List.getElem?_map, hb, Option.map_some, he]
    have hl := (List.getElem?_eq_some_iff.mp hi).1
    exact (List.getElem?_inj hl hn).mp (hi.trans hj.symm)
  · intro h
    rw [List.Nodup, List.pairwise_map, List.pairwise_iff_getElem]
    intro i j hi hj hij he
    have hsame := h i j _ _ (List.getElem?_eq_getElem hi) (List.getElem?_eq_getElem hj) he
    omega

/-- Among members with different values each is found under its own. -/
theorem find?_eq_some_of_nodup [DecidableEq β] (hn : (list.map f).Nodup) {a : α}
    (ha : a ∈ list) : list.find? (fun b => f b = f a) = some a := by
  induction list with
  | nil => cases ha
  | cons first rest ih =>
    rw [List.map_cons, List.nodup_cons] at hn
    rcases List.mem_cons.mp ha with rfl | ha
    · exact List.find?_cons_of_pos (decide_eq_true rfl)
    · have hne : f first ≠ f a := fun he => hn.1 (he ▸ List.mem_map_of_mem ha)
      rw [List.find?_cons_of_neg (by simpa using hne)]
      exact ih hn.2 ha

/-- A list without repetitions has one member exactly when it is the list of that member. -/
theorem eq_singleton_iff (hn : list.Nodup) {a : α} : list = [a] ↔ ∀ b, b ∈ list ↔ b = a := by
  constructor
  · rintro rfl b
    exact List.mem_singleton
  · intro h
    have hp : list.Perm [a] := (List.perm_ext_iff_of_nodup hn (List.nodup_singleton a)).mpr
      fun b => (h b).trans List.mem_singleton.symm
    exact List.perm_singleton.mp hp

/-- What holds at every index of a list holds for its first member and, with the indices shifted,
for the others. -/
theorem forall_getElem?_cons {first : α} {P : Nat → α → Prop} :
    (∀ i a, (first :: list)[i]? = some a → P i a) ↔
      P 0 first ∧ ∀ i a, list[i]? = some a → P (i + 1) a := by
  constructor
  · intro h
    exact ⟨h 0 first rfl, fun i a ha => h (i + 1) a ha⟩
  · intro h i a ha
    cases i with
    | zero => exact Option.some.inj ha ▸ h.1
    | succ i => exact h.2 i a ha

end Values

section Results

/-- In two lists that are related member by member, what is in the second is related to something
in the first. -/
theorem exists_left_of_forall₂ {α β : Type} {R : α → β → Prop} {list : List α} {results : List β}
    (h : List.Forall₂ R list results) {b : β} (hb : b ∈ results) : ∃ a ∈ list, R a b := by
  induction h with
  | nil => cases hb
  | cons hr _ ih =>
    rcases List.mem_cons.mp hb with rfl | hb
    · exact ⟨_, List.mem_cons_self, hr⟩
    · obtain ⟨a, ha, hab⟩ := ih hb
      exact ⟨a, List.mem_cons_of_mem _ ha, hab⟩

/-- In two lists that are related member by member, what stands at an index of the first is related
to what stands there in the second. -/
theorem getElem?_of_forall₂ {α β : Type} {R : α → β → Prop} {list : List α} {results : List β}
    (h : List.Forall₂ R list results) {i : Nat} {a : α} (ha : list[i]? = some a) :
    ∃ b, results[i]? = some b ∧ R a b := by
  induction h generalizing i with
  | nil => cases ha
  | cons hr _ ih =>
    cases i with
    | zero => exact ⟨_, rfl, Option.some.inj ha ▸ hr⟩
    | succ i => exact ih ha

/-- What is related to the member at an index can be put in the place of what stands there. -/
theorem forall₂_set {α β : Type} {R : α → β → Prop} {list : List α} {results : List β}
    (h : List.Forall₂ R list results) {index : Nat} {a : α} (ha : list[index]? = some a) {b : β}
    (hr : R a b) : List.Forall₂ R list (results.set index b) := by
  induction h generalizing index with
  | nil => exact .nil
  | cons hab hrest ih =>
    cases index with
    | zero => exact .cons (Option.some.inj ha ▸ hr) hrest
    | succ index => exact .cons hab (ih ha)

/-- What exists for every member of a list exists as a list. -/
theorem exists_forall₂_of_forall {α β : Type} {R : α → β → Prop} {list : List α}
    (h : ∀ a ∈ list, ∃ b, R a b) : ∃ results, List.Forall₂ R list results := by
  induction list with
  | nil => exact ⟨[], .nil⟩
  | cons a rest ih =>
    obtain ⟨b, hb⟩ := h a List.mem_cons_self
    obtain ⟨results, hr⟩ := ih fun x hx => h x (List.mem_cons_of_mem a hx)
    exact ⟨b :: results, .cons hb hr⟩

/-- What exists for every two members of related lists exists as a list. -/
theorem exists_forall₂ {α β γ : Type} {R : α → β → Prop} {S : α → γ → Prop} {T : β → γ → Prop}
    {list : List α} {results : List β} (h : List.Forall₂ R list results)
    (he : ∀ a b, R a b → ∃ c, S a c ∧ T b c) :
    ∃ found, List.Forall₂ S list found ∧ List.Forall₂ T results found := by
  induction h with
  | nil => exact ⟨[], .nil, .nil⟩
  | cons hr _ ih =>
    obtain ⟨c, hs, ht⟩ := he _ _ hr
    obtain ⟨found, hS, hT⟩ := ih
    exact ⟨c :: found, .cons hs hS, .cons ht hT⟩

/-- What is in a list after a change at an index was there before or was changed. -/
theorem mem_of_mem_modify {α : Type} {list : List α} {index : Nat} {change : α → α} {a : α}
    (h : a ∈ list.modify index change) : a ∈ list ∨ ∃ b ∈ list, change b = a := by
  induction list generalizing index with
  | nil => cases index <;> cases h
  | cons first rest ih =>
    cases index with
    | zero =>
      rcases List.mem_cons.mp h with rfl | hm
      · exact .inr ⟨first, List.mem_cons_self, rfl⟩
      · exact .inl (List.mem_cons_of_mem first hm)
    | succ index =>
      rcases List.mem_cons.mp h with rfl | hm
      · exact .inl List.mem_cons_self
      · exact (ih hm).imp (List.mem_cons_of_mem first)
          fun ⟨b, hb, hc⟩ => ⟨b, List.mem_cons_of_mem first hb, hc⟩

/-- A change that keeps the relation to what stands there can be made at any index. -/
theorem forall₂_modify {α β : Type} {R : α → β → Prop} {list : List α} {results : List β}
    (h : List.Forall₂ R list results) (index : Nat) {change : β → β}
    (hc : ∀ a b, R a b → R a (change b)) : List.Forall₂ R list (results.modify index change) := by
  induction h generalizing index with
  | nil => cases index <;> exact .nil
  | cons hr hrest ih =>
    cases index with
    | zero => exact .cons (hc _ _ hr) hrest
    | succ index => exact .cons hr (ih index)

/-- What every two of the second list satisfy in their order, those of the first list do. -/
theorem pairwise_of_forall₂ {α β : Type} {R : α → β → Prop} {S : β → β → Prop}
    {T : α → α → Prop} {list : List α} {results : List β} (h : List.Forall₂ R list results)
    (hp : results.Pairwise S) (hi : ∀ a a' b b', R a b → R a' b' → S b b' → T a a') :
    list.Pairwise T := by
  induction h with
  | nil => exact .nil
  | cons hr hrest ih =>
    obtain ⟨hb, hp⟩ := List.pairwise_cons.mp hp
    refine List.pairwise_cons.mpr ⟨fun a' ha' => ?_, ih hp⟩
    obtain ⟨b', hb', hr'⟩ := exists_left_of_forall₂ hrest.flip ha'
    exact hi _ _ _ _ hr hr' (hb b' hb')

variable {ε α β : Type} {f : α → Except ε β}

/-- One of two computations in a row fails with what the whole fails with. -/
theorem bind_eq_error_iff {first : Except ε α} {next : α → Except ε β} {e : ε} :
    (first >>= next) = .error e ↔ first = .error e ∨ ∃ a, first = .ok a ∧ next a = .error e := by
  cases first with
  | error e => simp [bind, Except.bind]
  | ok a => simp [bind, Except.bind]

/-- A list of computations succeeds when each of them does, with the results in the same order. -/
theorem mapM_eq_ok_iff {list : List α} {results : List β} :
    list.mapM f = .ok results ↔ List.Forall₂ (fun a b => f a = .ok b) list results := by
  induction list generalizing results with
  | nil =>
    rw [List.mapM_nil, List.forall₂_nil_left_iff]
    exact ⟨fun h => (Except.ok.inj h).symm, fun h => h ▸ rfl⟩
  | cons a rest ih =>
    rw [List.mapM_cons]
    constructor
    · intro h
      cases ha : f a with
      | error e => simp [ha, bind, Except.bind] at h
      | ok b =>
        cases hr : rest.mapM f with
        | error e => simp [ha, hr, bind, Except.bind] at h
        | ok bs =>
          have he : b :: bs = results := by
            simpa [ha, hr, bind, Except.bind, pure, Except.pure] using h
          exact he ▸ .cons ha (ih.mp hr)
    · rintro (_ | ⟨ha, hr⟩)
      rw [ha, ih.mpr hr]
      rfl

/-- A list of computations of which each succeeds, succeeds. -/
theorem exists_mapM_eq_ok {list : List α} (h : ∀ a ∈ list, ∃ b, f a = .ok b) :
    ∃ results, list.mapM f = .ok results :=
  (exists_forall₂_of_forall h).imp fun _ found => mapM_eq_ok_iff.mpr found

/-- A list of computations fails with what one of them fails with. -/
theorem exists_of_mapM_eq_error {list : List α} {e : ε} (h : list.mapM f = .error e) :
    ∃ a ∈ list, f a = .error e := by
  induction list with
  | nil => cases h
  | cons a rest ih =>
    rw [List.mapM_cons] at h
    rcases bind_eq_error_iff.mp h with ha | ⟨b, -, h⟩
    · exact ⟨a, List.mem_cons_self, ha⟩
    · rcases bind_eq_error_iff.mp h with hr | ⟨results, -, h⟩
      · obtain ⟨x, hx, he⟩ := ih hr
        exact ⟨x, List.mem_cons_of_mem a hx, he⟩
      · cases h

/-- A list of checks passes when each of them does. -/
theorem forM_eq_ok_iff {check : α → Except ε PUnit} {list : List α} :
    list.forM check = .ok ⟨⟩ ↔ ∀ a ∈ list, check a = .ok ⟨⟩ := by
  induction list with
  | nil => exact ⟨fun _ a ha => absurd ha List.not_mem_nil, fun _ => rfl⟩
  | cons a rest ih =>
    rw [List.forM, List.forall_mem_cons, ← ih]
    cases h : check a with
    | error e => simp [bind, Except.bind]
    | ok u => simp [bind, Except.bind]

end Results

end RenderGraph
