import RenderGraph.Proofs.Flat.Splice

/-!
# When merging succeeds, and with what

Merging is a sequence of splices. It ends without nested pipelines exactly when
the list was balanced, and then its connections are those between the ends of the
ways through the list.
-/

namespace RenderGraph.Flat

variable {levels : Levels} {links next : List (Link Side)}

/-- One connection of a list is spliced with those that continue it. -/
def Splices (links next : List (Link Side)) : Prop :=
  ∃ l others, links.Perm (l :: others) ∧ (∃ m ∈ others, continues l m = true) ∧
    next = splice l others

/-- Two lists stand for the same flattened graph, or for none. -/
structure SameFlow (links next : List (Link Side)) : Prop where
  /-- Nested pipelines are used on both sides in both lists or in none. -/
  balanced : Balanced next ↔ Balanced links
  /-- There are the same ways between filters and the outermost boundary. -/
  routes : ∀ c, touchesSlot c = false → (Route next c ↔ Route links c)
  /-- The same ports outside nested pipelines are fed. -/
  fed : ∀ port, onSlot port = false → (Fed next port ↔ Fed links port)
  /-- The same ports outside nested pipelines are read. -/
  read : ∀ port, onSlot port = false → (Read next port ↔ Read links port)

section Order

variable (hm : ∀ l, l ∈ next ↔ l ∈ links)
include hm

/-- Ways do not depend on the order of a list. -/
theorem route_congr {c : Link Side} (h : Route next c) : Route links c := by
  induction h with
  | single hl => exact .single ((hm _).mp hl)
  | extend _ hl hc ih => exact .extend ih ((hm _).mp hl) hc

/-- What a list stands for does not depend on its order. -/
theorem sameFlow_of_mem_iff : SameFlow links next where
  balanced := by simp only [Balanced, Fed, Read, hm]
  routes := fun c _ => ⟨route_congr hm, route_congr fun l => (hm l).symm⟩
  fed := fun port _ => by simp only [Fed, hm]
  read := fun port _ => by simp only [Read, hm]

end Order

/-- A list stands for what another one does if both stand for what a third one does. -/
theorem SameFlow.trans {last : List (Link Side)} (h : SameFlow links next)
    (k : SameFlow next last) : SameFlow links last where
  balanced := k.balanced.trans h.balanced
  routes := fun c hc => (k.routes c hc).trans (h.routes c hc)
  fed := fun port hp => (k.fed port hp).trans (h.fed port hp)
  read := fun port hp => (k.read port hp).trans (h.read port hp)

/-- A splice changes nothing that the list stands for. -/
theorem Tidy.sameFlow_splice {l : Link Side} {others : List (Link Side)}
    (tidy : Tidy levels (l :: others)) (hc : ∃ m ∈ others, continues l m = true) :
    SameFlow (l :: others) (Flat.splice l others) where
  balanced := tidy.balanced_splice hc
  routes := by
    obtain ⟨m, -, hlm⟩ := hc
    intro c hc
    obtain ⟨ho, ht⟩ := touchesSlot_eq_false_iff.mp hc
    refine ⟨Route.of_splice, fun hr => ?_⟩
    rcases tidy.route_splice hr ho with h | ⟨he, -⟩
    · exact h
    · rw [he, (continues_iff.mp hlm).1] at ht
      cases ht
  fed := by
    obtain ⟨m, -, hlm⟩ := hc
    intro port hp
    rw [tidy.fed_splice, and_iff_left]
    intro he
    rw [he, (continues_iff.mp hlm).1] at hp
    cases hp
  read := by
    intro port hp
    rw [tidy.read_splice hc, and_iff_left]
    obtain ⟨m, -, hlm⟩ := hc
    intro he
    rw [he, onSlot_opposite, (continues_iff.mp hlm).1] at hp
    cases hp

/-- The order of a tidy list does not matter. -/
theorem Tidy.perm (tidy : Tidy levels links) (hp : links.Perm next) : Tidy levels next where
  fedOnce := (FedOnce.perm hp).mp tidy.fedOnce
  onwards := fun m hm => tidy.onwards m (hp.mem_iff.mpr hm)

/-- A splice keeps the list tidy and what it stands for. -/
theorem Tidy.splices (tidy : Tidy levels links) (h : Splices links next) :
    Tidy levels next ∧ SameFlow links next := by
  obtain ⟨l, others, hp, hc, rfl⟩ := h
  have ht : Tidy levels (l :: others) := tidy.perm hp
  have hs : SameFlow links (l :: others) := sameFlow_of_mem_iff fun m => hp.mem_iff.symm
  exact ⟨ht.splice, hs.trans (ht.sameFlow_splice hc)⟩

/-- So does a sequence of splices. -/
theorem Tidy.splices_many (tidy : Tidy levels links)
    (h : Relation.ReflTransGen Splices links next) :
    Tidy levels next ∧ SameFlow links next := by
  induction h with
  | refl => exact ⟨tidy, sameFlow_of_mem_iff fun _ => Iff.rfl⟩
  | tail _ hs ih =>
    obtain ⟨ht, hf⟩ := ih
    obtain ⟨ht', hf'⟩ := ht.splices hs
    exact ⟨ht', hf.trans hf'⟩

/-- No connection of the list continues another one. -/
def Stuck (links : List (Link Side)) : Prop :=
  ∀ (i : Nat) (h : i < links.length), ∀ m ∈ links.eraseIdx i, continues links[i] m = false

/-- A scan is a sequence of splices. -/
theorem scan_splices (links : List (Link Side)) (index : Nat) :
    Relation.ReflTransGen Splices links (scan links index) := by
  fun_induction scan links index with
  | case1 links index h others hc ih =>
    have hp : links.Perm (links[index] :: others) := (List.getElem_cons_eraseIdx_perm h).symm
    exact .head ⟨_, others, hp, List.any_eq_true.mp hc, rfl⟩ ih
  | case2 links index h others _ ih => exact ih
  | case3 links index h => exact .refl

/-- A scan that splices nothing finds nothing to splice. -/
theorem scan_stuck (links : List (Link Side)) (index : Nat) :
    (scan links index).length < links.length ∨ ∀ (i : Nat) (h : i < links.length), index ≤ i →
      ∀ m ∈ links.eraseIdx i, continues links[i] m = false := by
  fun_induction scan links index with
  | case1 links index h others _ _ =>
    have hl := length_scan_le (splice links[index] others) index
    rw [length_splice, List.length_eraseIdx_of_lt h] at hl
    exact Or.inl (by omega)
  | case2 links index h others hn ih =>
    rcases ih with hl | hs
    · exact Or.inl hl
    · refine Or.inr fun i hi hle m hm => ?_
      rcases Nat.eq_or_lt_of_le hle with rfl | hlt
      · have ha := List.any_eq_false.mp (Bool.eq_false_iff.mpr hn) m hm
        exact Bool.eq_false_iff.mpr ha
      · exact hs i hi hlt m hm
  | case3 links index h => exact Or.inr fun i hi hle => absurd hi (by omega)

/-- Merging splices until no connection touches a nested pipeline, or until nothing is left to
splice although one does. -/
theorem merge_cases (links : List (Link Side)) : ∃ last, Relation.ReflTransGen Splices links last ∧
    ((merge links = .ok last ∧ ∀ l ∈ last, touchesSlot l = false) ∨
      ((∃ stuck, merge links = .error stuck) ∧ Stuck last ∧
        ∃ l ∈ last, touchesSlot l = true)) := by
  fun_induction merge links with
  | case1 links _ _ ih =>
    obtain ⟨last, hs, hr⟩ := ih
    exact ⟨last, (scan_splices links 0).trans hs, hr⟩
  | case2 links ha hl =>
    rcases scan_stuck links 0 with h | h
    · exact absurd h hl
    · have hs : Stuck links := fun i hi => h i hi (Nat.zero_le i)
      exact ⟨links, .refl, Or.inr ⟨⟨_, rfl⟩, hs, List.any_eq_true.mp ha⟩⟩
  | case3 links ha =>
    refine ⟨links, .refl, Or.inl ⟨rfl, fun l hl => ?_⟩⟩
    exact Bool.eq_false_iff.mpr fun ht => ha (List.any_eq_true.mpr ⟨l, hl, ht⟩)

/-- In a tidy list that is stuck nothing continues anything. -/
theorem Tidy.not_continues (tidy : Tidy levels links) (h : Stuck links) {l m : Link Side}
    (hl : l ∈ links) (hm : m ∈ links) : continues l m = false := by
  obtain ⟨i, hi, rfl⟩ := List.getElem_of_mem hl
  have hp : links.Perm (links[i] :: links.eraseIdx i) := (List.getElem_cons_eraseIdx_perm hi).symm
  rcases List.mem_cons.mp (hp.mem_iff.mp hm) with rfl | hm
  · exact not_continues_self (tidy.onwards _ hl)
  · exact h i hi m hm

/-- A balanced list that is stuck does not touch nested pipelines. -/
theorem Tidy.not_touches (tidy : Tidy levels links) (h : Stuck links) (hb : Balanced links)
    {l : Link Side} (hl : l ∈ links) : touchesSlot l = false := by
  rw [touchesSlot_eq_false_iff, ← Bool.not_eq_true, ← Bool.not_eq_true]
  constructor
  · intro ho
    have hr : Read links (opposite (opposite l.origin)) := ⟨l, hl, by simp⟩
    obtain ⟨m, hm, ht⟩ := (hb _ (by simpa using ho)).mpr hr
    have hc : continues m l = true := continues_iff.mpr (by simp [ht, ho])
    rw [tidy.not_continues h hm hl] at hc
    cases hc
  · intro ht
    obtain ⟨m, hm, ho⟩ := (hb _ ht).mp ⟨l, hl, rfl⟩
    have hc : continues l m = true := continues_iff.mpr ⟨ht, ho⟩
    rw [tidy.not_continues h hl hm] at hc
    cases hc

/-- What merging a list has to give. -/
structure Merged (levels : Levels) (links last : List (Link Side)) : Prop where
  /-- The result is tidy. -/
  tidy : Tidy levels last
  /-- It consists of the connections between the ends of ways that do not touch nested
  pipelines. -/
  mem_iff : ∀ c, c ∈ last ↔ Route links c ∧ touchesSlot c = false
  /-- The same ports outside nested pipelines are fed. -/
  fed : ∀ port, onSlot port = false → (Fed last port ↔ Fed links port)
  /-- The same ports outside nested pipelines are read. -/
  read : ∀ port, onSlot port = false → (Read last port ↔ Read links port)

/-- Where no connection touches a nested pipeline, the ways are the connections themselves. -/
theorem mem_of_route {c : Link Side} (hfree : ∀ l ∈ links, touchesSlot l = false)
    (h : Route links c) : c ∈ links := by
  induction h with
  | single hl => exact hl
  | extend _ _ hc ih =>
    have ht := (touchesSlot_eq_false_iff.mp (hfree _ ih)).2
    rw [(continues_iff.mp hc).1] at ht
    cases ht

/-- Merging a tidy list succeeds exactly when the list is balanced. -/
theorem Tidy.merge (tidy : Tidy levels links) :
    (Balanced links ∧ ∃ last, merge links = .ok last ∧ Merged levels links last) ∨
      (¬ Balanced links ∧ ∃ stuck, merge links = .error stuck) := by
  obtain ⟨last, hs, hr⟩ := merge_cases links
  obtain ⟨ht, hf⟩ := tidy.splices_many hs
  rcases hr with ⟨hm, hfree⟩ | ⟨hm, hstuck, l, hl, htouch⟩
  · refine Or.inl ⟨?_, last, hm, ht, ?_, hf.fed, hf.read⟩
    · rw [← hf.balanced]
      intro port hp
      constructor
      · rintro ⟨l, hl, rfl⟩
        rw [(touchesSlot_eq_false_iff.mp (hfree l hl)).2] at hp
        cases hp
      · rintro ⟨l, hl, ho⟩
        rw [← onSlot_opposite, ← ho, (touchesSlot_eq_false_iff.mp (hfree l hl)).1] at hp
        cases hp
    · intro c
      constructor
      · intro hc
        exact ⟨(hf.routes c (hfree c hc)).mp (.single hc), hfree c hc⟩
      · rintro ⟨hr, hc⟩
        exact mem_of_route hfree ((hf.routes c hc).mpr hr)
  · refine Or.inr ⟨fun hb => ?_, hm⟩
    rw [ht.not_touches hstuck (hf.balanced.mpr hb) hl] at htouch
    cases htouch

end RenderGraph.Flat
