import RenderGraph.Proofs.Flat.Visits
import RenderGraph.Proofs.Order
import Mathlib.Data.List.Shortlex

/-!
# The order of numbers

Layouts are visited breadth first, so a filter that is nested less deeply has the
smaller number, and of two filters at the same depth the one that comes first where
their addresses part. In particular the filters of one layout are numbered in the
order in which they were added to it, and no filter has two numbers.
-/

namespace RenderGraph.Flat

variable {δ : Type}

/-- An address is shorter than another one, or as long and smaller where they part first. -/
def Earlier (a b : List Nat) : Prop :=
  List.Shortlex (· < ·) a b

section Addresses

variable {a b : List Nat}

/-- A shorter address is earlier. -/
theorem Earlier.of_length_lt (h : a.length < b.length) : Earlier a b :=
  List.Shortlex.of_length_lt h

/-- What lies below a later address is later. -/
theorem Earlier.below (h : Earlier a b) (index : Nat) : Earlier a (b ++ [index]) :=
  h.append_right [index]

/-- What lies below an earlier address is earlier than what lies below a later one. -/
theorem Earlier.concat (h : Earlier a b) (i j : Nat) : Earlier (a ++ [i]) (b ++ [j]) := by
  rcases List.shortlex_def.mp h with hlt | ⟨he, hlex⟩
  · refine .of_length_lt ?_
    rw [List.length_append, List.length_append]
    exact Nat.add_lt_add_right hlt 1
  · refine List.Shortlex.of_lex (by simp [he]) ?_
    clear h
    induction hlex with
    | nil => cases he
    | rel hlt => exact .rel hlt
    | cons _ ih => exact .cons (ih (Nat.succ.inj he))

/-- Below one address the smaller index is earlier. -/
theorem earlier_of_lt {i j : Nat} (h : i < j) : Earlier (a ++ [i]) (a ++ [j]) :=
  List.Shortlex.append_left ((List.shortlex_singleton_iff i j).mpr h) a

/-- No address is earlier than itself. -/
theorem Earlier.irrefl (a : List Nat) : ¬ Earlier a a :=
  fun h => (Std.Asymm.asymm (r := List.Shortlex (· < ·)) a a h) h

/-- An earlier address is a different one. -/
theorem Earlier.ne (h : Earlier a b) : a ≠ b :=
  fun he => Earlier.irrefl b (he ▸ h)

/-- Of two addresses not each is earlier than the other. -/
theorem Earlier.asymm (h : Earlier a b) : ¬ Earlier b a :=
  Std.Asymm.asymm (r := List.Shortlex (· < ·)) a b h

end Addresses

namespace Occurrence

variable (o : Occurrence δ)

/-- The nested layouts of a layout are listed in order. -/
theorem nested_sorted : o.nested.Pairwise fun x y => Earlier x.address y.address := by
  refine (zipIdx_sorted o.layout.elements).filterMap _ ?_
  intro a b hab x hx y hy
  simp only [nestedAt, Option.map_eq_some_iff] at hx hy
  obtain ⟨found, -, rfl⟩ := hx
  obtain ⟨other, -, rfl⟩ := hy
  exact earlier_of_lt hab

/-- The filters of a layout are listed in order. -/
theorem filters_sorted : o.filters.Pairwise fun x y => Earlier x.1 y.1 := by
  refine (zipIdx_sorted o.layout.elements).filterMap _ ?_
  intro a b hab x hx y hy
  simp only [filterAt, Option.map_eq_some_iff] at hx hy
  obtain ⟨found, -, rfl⟩ := hx
  obtain ⟨other, -, rfl⟩ := hy
  exact earlier_of_lt hab

end Occurrence

/-- Layouts wait in order, and what is nested in any of them belongs behind all of them. -/
structure InLine (queue : List (Occurrence δ)) : Prop where
  /-- Earlier layouts come first. -/
  sorted : queue.Pairwise fun x y => Earlier x.address y.address
  /-- No layout waits that is later than something nested in another one. -/
  shallow : ∀ x ∈ queue, ∀ y ∈ queue, ∀ index, Earlier x.address (y.address ++ [index])

section Visiting

variable {queue : List (Occurrence δ)}

/-- Visiting the first layout of a line and putting what is nested in it at the end leaves a
line. -/
theorem InLine.next {o : Occurrence δ} (h : InLine (o :: queue)) : InLine (queue ++ o.nested) := by
  obtain ⟨hfirst, hqueue⟩ := List.pairwise_cons.mp h.sorted
  have hwaiting : ∀ x ∈ queue, ∀ index, Earlier x.address (o.address ++ [index]) :=
    fun x hx index => h.shallow x (List.mem_cons_of_mem o hx) o List.mem_cons_self index
  constructor
  case sorted =>
    refine List.pairwise_append.mpr ⟨hqueue, o.nested_sorted, fun x hx y hy => ?_⟩
    obtain ⟨index, -, -, -, hy⟩ := Occurrence.mem_nested.mp hy
    rw [hy]
    exact hwaiting x hx index
  case shallow =>
    intro x hx y hy index
    rcases List.mem_append.mp hx with hx | hx <;> rcases List.mem_append.mp hy with hy | hy
    · exact h.shallow x (List.mem_cons_of_mem o hx) y (List.mem_cons_of_mem o hy) index
    · obtain ⟨j, -, -, -, hy⟩ := Occurrence.mem_nested.mp hy
      rw [hy]
      exact (hwaiting x hx j).below index
    · obtain ⟨i, -, -, -, hx⟩ := Occurrence.mem_nested.mp hx
      rw [hx]
      exact (hfirst y hy).concat i index
    · obtain ⟨i, -, -, -, hx⟩ := Occurrence.mem_nested.mp hx
      obtain ⟨j, -, -, -, hy⟩ := Occurrence.mem_nested.mp hy
      rw [hx, hy]
      exact .of_length_lt (by simp)

/-- Layouts that wait in line are visited in order, with everything that is nested in them. -/
theorem InLine.visits_sorted (h : InLine queue) :
    (visits queue).Pairwise fun x y => Earlier x.address y.address := by
  fun_induction visits queue with
  | case1 => exact .nil
  | case2 first queue ih =>
    refine List.pairwise_cons.mpr ⟨?_, ih h.next⟩
    refine forall_mem_visits (P := fun o => Earlier first.address o.address) ?_ ?_
    · intro o ho
      rcases List.mem_append.mp ho with ho | ho
      · exact (List.pairwise_cons.mp h.sorted).1 o ho
      · obtain ⟨index, -, -, -, ho⟩ := Occurrence.mem_nested.mp ho
        rw [ho]
        exact .of_length_lt (by simp)
    · intro o x ho hx
      obtain ⟨index, -, -, -, hx⟩ := Occurrence.mem_nested.mp hx
      rw [hx]
      exact ho.below index

variable (layout : Layout δ)

/-- The layouts are visited in order. -/
theorem visited_sorted : (visited layout).Pairwise fun x y => Earlier x.address y.address := by
  refine InLine.visits_sorted ⟨List.pairwise_singleton _ _, fun x hx y hy index => ?_⟩
  obtain rfl := List.mem_singleton.mp hx
  obtain rfl := List.mem_singleton.mp hy
  exact .of_length_lt (by simp)

/-- What each visited layout lists in order, directly below its address, is in order as a whole. -/
theorem pairwise_flatMap_visited {α : Type} {addressOf : α → List Nat}
    {members : Occurrence δ → List α}
    (hsorted : ∀ o, (members o).Pairwise fun x y => Earlier (addressOf x) (addressOf y))
    (hbelow : ∀ o, ∀ x ∈ members o, ∃ index, addressOf x = o.address ++ [index]) :
    (((visited layout).flatMap members).map addressOf).Pairwise Earlier := by
  refine List.pairwise_map.mpr (List.pairwise_flatMap.mpr ⟨fun o _ => hsorted o, ?_⟩)
  refine (visited_sorted layout).imp fun hearlier x hx y hy => ?_
  obtain ⟨i, ha⟩ := hbelow _ x hx
  obtain ⟨j, hb⟩ := hbelow _ y hy
  rw [ha, hb]
  exact hearlier.concat i j

/-- The filters are numbered in order. -/
theorem filterAddresses_sorted : (filterAddresses layout).Pairwise Earlier := by
  refine pairwise_flatMap_visited layout Occurrence.filters_sorted fun o x hx => ?_
  obtain ⟨index, -, -, -, ha⟩ := Occurrence.mem_filters.mp hx
  exact ⟨index, ha⟩

/-- The slots are numbered in order. -/
theorem slotAddresses_sorted : (slotAddresses layout).Pairwise Earlier := by
  rw [slotAddresses, ← List.map_flatMap]
  refine pairwise_flatMap_visited layout Occurrence.nested_sorted fun o x hx => ?_
  obtain ⟨index, -, -, -, ha⟩ := Occurrence.mem_nested.mp hx
  exact ⟨index, ha⟩

variable {layout}

/-- A filter has the smaller number exactly when its address is earlier. -/
theorem number_lt_iff {i j : Nat} {a b : List Nat} (hi : (filterAddresses layout)[i]? = some a)
    (hj : (filterAddresses layout)[j]? = some b) : i < j ↔ Earlier a b := by
  have hsorted : ∀ {i j : Nat} {a b : List Nat}, (filterAddresses layout)[i]? = some a →
      (filterAddresses layout)[j]? = some b → i < j → Earlier a b := by
    intro i j a b hi hj hlt
    obtain ⟨hil, rfl⟩ := List.getElem?_eq_some_iff.mp hi
    obtain ⟨hjl, rfl⟩ := List.getElem?_eq_some_iff.mp hj
    exact List.pairwise_iff_getElem.mp (filterAddresses_sorted layout) i j hil hjl hlt
  refine ⟨hsorted hi hj, fun hearlier => ?_⟩
  rcases Nat.lt_trichotomy i j with hlt | rfl | hlt
  · exact hlt
  · obtain rfl := Option.some.inj (hi.symm.trans hj)
    exact absurd hearlier (Earlier.irrefl a)
  · exact absurd (hsorted hj hi hlt) hearlier.asymm

end Visiting

section Distinct

variable (layout : Layout δ)

/-- No address is visited twice. -/
theorem visited_pairwise : (visited layout).Pairwise fun x y => x.address ≠ y.address :=
  (visited_sorted layout).imp Earlier.ne

/-- No filter has two numbers. -/
theorem nodup_filterAddresses : (filterAddresses layout).Nodup :=
  (filterAddresses_sorted layout).imp Earlier.ne

/-- No nested layout has two slots. -/
theorem nodup_slotAddresses : (slotAddresses layout).Nodup :=
  (slotAddresses_sorted layout).imp Earlier.ne

/-- A nested layout is not a filter. -/
theorem disjoint_addresses {a : List Nat} (hf : a ∈ filterAddresses layout)
    (hs : a ∈ slotAddresses layout) : False := by
  obtain ⟨⟨a, spec⟩, hm, rfl⟩ := List.mem_map.mp hf
  obtain ⟨-, nested, ha⟩ := mem_slotAddresses_iff.mp hs
  rw [mem_filtersIn_iff.mp hm] at ha
  cases ha

variable {layout}

/-- No port is fed twice in a layout that can be constructed, at any level. -/
theorem fedOnce_authoredIn (h : layout.Constructed) : FedOnce (authoredIn layout) := by
  refine List.pairwise_map.mpr (List.pairwise_flatMap.mpr ⟨fun o ho => ?_, ?_⟩)
  · have hw := (h.at? (mem_visited_iff.mp ho)).wired.fedOnce
    refine List.pairwise_map.mpr ((List.pairwise_map.mp hw).imp ?_)
    intro c d hne he
    obtain ⟨hs, hp⟩ := Prod.mk.inj he
    exact hne (Prod.ext (Anchor.spot_injective _ hs) hp)
  · refine (visited_pairwise layout).imp fun hne x hx y hy he => hne ?_
    obtain ⟨c, -, rfl⟩ := List.mem_map.mp hx
    obtain ⟨d, -, rfl⟩ := List.mem_map.mp hy
    exact (Anchor.spot_inj (Prod.mk.inj he).1).1

end Distinct

end RenderGraph.Flat
