import RenderGraph.Proofs.Flat.DataFlow

/-!
# The loops of merging, place by place

Merging looks at one place of its list after the other. A splice searches the whole
list for the partners of a connection, empties their places and its own, the last one
first, and puts the direct connections behind the others. No connection is a partner
of itself, so a splice empties different places, the list becomes shorter by one each
time, and the loops end with what merging gives.
-/

namespace RenderGraph.Flat

section Places

variable {α : Type}

/-- What stands at the places of a list that are to be kept. -/
def keepAt (list : List α) (keep : Nat → Bool) : List α :=
  (list.zipIdx.filter fun entry => keep entry.2).map Prod.fst

theorem keepAt_cons (first : α) (rest : List α) (keep : Nat → Bool) :
    keepAt (first :: rest) keep =
      (if keep 0 then [first] else []) ++ keepAt rest fun place => keep (place + 1) := by
  have hshift : (rest.zipIdx 1).filter (fun entry => keep entry.2) =
      (rest.zipIdx.filter fun entry => keep (entry.2 + 1)).map
        fun entry => (entry.1, entry.2 + 1) := by
    rw [List.zipIdx_succ, List.filter_map]
    rfl
  rw [keepAt, List.zipIdx_cons, List.filter_cons, hshift]
  cases keep 0 <;> simp [keepAt]

/-- All of a list is kept when every place is. -/
theorem keepAt_true (list : List α) : keepAt list (fun _ => true) = list := by
  rw [keepAt, List.filter_eq_self.mpr fun _ _ => rfl, List.zipIdx_map_fst]

/-- Where all places up to one are kept, emptying that place takes out what stood there at
first. -/
theorem eraseIdx_keepAt (list : List α) (place : Nat) (keep : Nat → Bool)
    (hkeep : ∀ i ≤ place, keep i = true) :
    (keepAt list keep).eraseIdx place = keepAt list fun i => keep i && i != place := by
  induction list generalizing place keep with
  | nil => rfl
  | cons first rest ih =>
    have hfirst : keep 0 = true := hkeep 0 (Nat.zero_le place)
    rw [keepAt_cons, keepAt_cons, hfirst]
    cases place with
    | zero => simp
    | succ place =>
      have hrest := ih place (fun i => keep (i + 1)) fun i hi => hkeep (i + 1) (by omega)
      simpa using hrest

/-- The list without what stands at some places. The last place is emptied first, so that what
stands before it keeps its place. -/
def removeAll (list : List α) (places : List Nat) : List α :=
  places.foldr (fun place rest => rest.eraseIdx place) list

/-- Places in increasing order are emptied as if all at once. -/
theorem removeAll_eq {places : List Nat} (h : places.Pairwise (· < ·)) (list : List α) :
    removeAll list places = keepAt list fun place => !places.contains place := by
  induction places with
  | nil => exact (keepAt_true list).symm
  | cons place rest ih =>
    obtain ⟨hfirst, hrest⟩ := List.pairwise_cons.mp h
    have hkeep : ∀ i ≤ place, (!rest.contains i) = true := by
      intro i hi
      have hni : i ∉ rest := fun hm => absurd (hfirst i hm) (by omega)
      simpa using hni
    have he : removeAll list (place :: rest) = (removeAll list rest).eraseIdx place := rfl
    rw [he, ih hrest, eraseIdx_keepAt list place _ hkeep]
    congr 1
    funext i
    rw [List.contains_cons, Bool.not_or, Bool.and_comm]
    rfl

/-- An emptied place is one that is not kept. -/
theorem eraseIdx_eq_keepAt (list : List α) (place : Nat) :
    list.eraseIdx place = keepAt list fun i => i != place := by
  have h := eraseIdx_keepAt list place (fun _ => true) fun _ _ => rfl
  simpa only [keepAt_true, Bool.true_and] using h

/-- In front of a place up to which all places are kept nothing is missing. -/
theorem lt_length_keepAt {list : List α} {place : Nat} {keep : Nat → Bool}
    (hkeep : ∀ i ≤ place, keep i = true) (hlt : place < list.length) :
    place < (keepAt list keep).length := by
  induction list generalizing place keep with
  | nil => cases hlt
  | cons first rest ih =>
    rw [keepAt_cons, hkeep 0 (Nat.zero_le place)]
    cases place with
    | zero => simp
    | succ place =>
      have hrest : place < (keepAt rest fun i => keep (i + 1)).length :=
        ih (fun i hi => hkeep (i + 1) (by omega)) (Nat.lt_of_succ_lt_succ hlt)
      simpa using hrest

/-- Places of a list in increasing order can be emptied one after the other. -/
theorem lt_length_removeAll {list : List α} {place : Nat} {later : List Nat}
    (h : (place :: later).Pairwise (· < ·)) (hlt : place < list.length) :
    place < (removeAll list later).length := by
  obtain ⟨hfirst, hlater⟩ := List.pairwise_cons.mp h
  rw [removeAll_eq hlater]
  refine lt_length_keepAt (fun i hi => ?_) hlt
  have hni : i ∉ later := fun hm => absurd (hfirst i hm) (by omega)
  simpa using hni

end Places

/-- The places of the connections that continue one. The whole list is searched. -/
def partners (links : List (Link Nat)) (incoming : Link Nat) : List Nat :=
  (links.zipIdx.filter fun entry => continues incoming entry.1).map Prod.snd

/-- The places that a splice empties, in increasing order. -/
def emptied (links : List (Link Nat)) (index : Nat) (incoming : Link Nat) : List Nat :=
  (partners links incoming ++ [index]).mergeSort

/-- A splice at a place of the list. -/
def spliceAt (links : List (Link Nat)) (index : Nat) (incoming : Link Nat) : List (Link Nat) :=
  removeAll links (emptied links index incoming) ++
    (partners links incoming).filterMap fun place => links[place]?.map (splicePair incoming)

section Splice

variable {links : List (Link Nat)} {incoming : Link Nat} {index place : Nat}

theorem mem_partners :
    place ∈ partners links incoming ↔
      ∃ m, links[place]? = some m ∧ continues incoming m = true := by
  simp only [partners, List.mem_map, List.mem_filter, Prod.exists, List.mem_zipIdx_iff_getElem?]
  constructor
  · rintro ⟨m, i, ⟨hm, hc⟩, rfl⟩
    exact ⟨m, hm, hc⟩
  · rintro ⟨m, hm, hc⟩
    exact ⟨m, place, ⟨hm, hc⟩, rfl⟩

/-- There are partners when some connection of the list goes on where the one ends. -/
theorem partners_ne_nil_iff :
    partners links incoming ≠ [] ↔ ∃ m ∈ links, continues incoming m = true := by
  constructor
  · intro h
    obtain ⟨place, hp⟩ := List.exists_mem_of_ne_nil _ h
    obtain ⟨m, hm, hc⟩ := mem_partners.mp hp
    exact ⟨m, List.mem_of_getElem? hm, hc⟩
  · rintro ⟨m, hm, hc⟩
    obtain ⟨place, hp⟩ := List.mem_iff_getElem?.mp hm
    exact List.ne_nil_of_mem (mem_partners.mpr ⟨m, hp, hc⟩)

theorem nodup_partners (links : List (Link Nat)) (incoming : Link Nat) :
    (partners links incoming).Nodup := by
  have hall : (links.zipIdx.map Prod.snd).Nodup := by
    rw [List.zipIdx_map_snd]
    exact List.nodup_range'
  exact hall.sublist (List.filter_sublist.map Prod.snd)

theorem mem_emptied :
    place ∈ emptied links index incoming ↔ place ∈ partners links incoming ∨ place = index := by
  rw [emptied, List.mem_mergeSort, List.mem_append, List.mem_singleton]

variable (hl : links[index]? = some incoming) (hself : continues incoming incoming = false)
include hl hself

/-- A connection that does not continue itself is none of its partners. -/
theorem not_mem_partners : index ∉ partners links incoming := by
  intro hm
  obtain ⟨m, hm, hc⟩ := mem_partners.mp hm
  obtain rfl : incoming = m := Option.some.inj (hl.symm.trans hm)
  rw [hself] at hc
  cases hc

/-- The places that a splice empties are different. -/
theorem nodup_emptied : (emptied links index incoming).Nodup := by
  have hi := not_mem_partners hl hself
  rw [emptied, (List.mergeSort_perm _ _).nodup_iff, List.nodup_append]
  refine ⟨nodup_partners links incoming, List.nodup_singleton index, fun i hp j hj he => hi ?_⟩
  rwa [← List.mem_singleton.mp hj, ← he]

theorem emptied_increases : (emptied links index incoming).Pairwise (· < ·) := by
  have hle : (emptied links index incoming).Pairwise fun i j => decide (i ≤ j) = true :=
    List.pairwise_mergeSort (by simpa using fun _ _ _ => Nat.le_trans)
      (by simpa using Nat.le_total) _
  refine (hle.and (nodup_emptied hl hself)).imp fun {i j} h => ?_
  exact Nat.lt_of_le_of_ne (of_decide_eq_true h.1) h.2

omit hself in
/-- A splice empties places of the list only. -/
theorem emptied_lt (h : place ∈ emptied links index incoming) : place < links.length := by
  rcases mem_emptied.mp h with hm | rfl
  · obtain ⟨m, hm, -⟩ := mem_partners.mp hm
    exact (List.getElem?_eq_some_iff.mp hm).1
  · exact (List.getElem?_eq_some_iff.mp hl).1

/-- What is not emptied are the other connections that do not continue the spliced one. -/
theorem removeAll_emptied : removeAll links (emptied links index incoming) =
    (links.eraseIdx index).filter fun link => !continues incoming link := by
  rw [removeAll_eq (emptied_increases hl hself), eraseIdx_eq_keepAt, keepAt, keepAt,
    List.filter_map, List.filter_filter]
  congr 1
  refine List.filter_congr fun entry he => ?_
  have hm : entry.2 ∈ partners links incoming ↔ continues incoming entry.1 = true := by
    simp [mem_partners, List.mem_zipIdx_iff_getElem?.mp he]
  rw [Bool.eq_iff_iff]
  simp [mem_emptied, hm]

/-- The direct connections are those to the ends of the others that continue the spliced one. -/
theorem filterMap_partners :
    (partners links incoming).filterMap (fun place => links[place]?.map (splicePair incoming)) =
      ((links.eraseIdx index).filter (continues incoming)).map (splicePair incoming) := by
  have hat : ∀ entry ∈ links.zipIdx, links[entry.2]? = some entry.1 :=
    fun entry he => List.mem_zipIdx_iff_getElem?.mp he
  have hothers : links.zipIdx.filter (fun entry => continues incoming entry.1) =
      links.zipIdx.filter fun entry => continues incoming entry.1 && entry.2 != index := by
    refine List.filter_congr fun entry he => ?_
    by_cases hi : entry.2 = index
    · have hown : entry.1 = incoming := Option.some.inj ((hi ▸ hat entry he).symm.trans hl)
      simp [hown, hself]
    · simp [hi]
  rw [partners, hothers, List.filterMap_map, eraseIdx_eq_keepAt, keepAt, List.filter_map,
    List.filter_filter, List.map_map, ← List.filterMap_eq_map]
  refine List.filterMap_congr fun entry he => ?_
  simp [hat entry (List.mem_of_mem_filter he)]

/-- A splice at a place gives what splicing with the rest of the list does. -/
theorem spliceAt_eq : spliceAt links index incoming = splice incoming (links.eraseIdx index) := by
  rw [spliceAt, splice, removeAll_emptied hl hself, filterMap_partners hl hself]

/-- The partners of a connection that does not continue itself are among the others. -/
theorem exists_partner (hp : partners links incoming ≠ []) :
    links.Perm (incoming :: links.eraseIdx index) ∧
      ∃ m ∈ links.eraseIdx index, continues incoming m = true := by
  obtain ⟨hi, rfl⟩ := List.getElem?_eq_some_iff.mp hl
  have hperm := (List.getElem_cons_eraseIdx_perm hi).symm
  obtain ⟨m, hm, hc⟩ := partners_ne_nil_iff.mp hp
  rcases List.mem_cons.mp (hperm.mem_iff.mp hm) with rfl | hm
  · rw [hself] at hc
    cases hc
  · exact ⟨hperm, m, hm, hc⟩

end Splice

/-- A list of marked connections that merging can work on: its marks tell sides apart, and with the
sides in their place it is tidy. -/
structure Clear (levels : Levels) (around : List Nat) (links : List (Link Nat)) : Prop where
  /-- The layout around a nested one is visited before it. -/
  earlier : ∀ slot visit : Nat, around[slot]? = some visit → visit ≤ slot
  /-- The boundaries are seen in these visits only. -/
  ends : EndsIn (SeenIn around) links
  /-- No port is fed twice, and every connection leads onwards. -/
  tidy : Tidy levels (sided links)

section Clear

variable {levels : Levels} {around : List Nat} {links others : List (Link Nat)}
  {l incoming : Link Nat} {index : Nat}

/-- In a clear list connections continue each other when they do with sides for marks. -/
theorem Clear.continues_sided (clear : Clear levels around links) {l m : Link Nat} (hl : l ∈ links)
    (hm : m ∈ links) : continues (remark sideOf l) (remark sideOf m) = continues l m :=
  (respects_sideOf clear.earlier).continues (clear.ends l hl).2 (clear.ends m hm).1

/-- A connection is continued in a list when it is with sides for marks. -/
theorem Clear.exists_continues_iff (clear : Clear levels around links)
    (hl : SeenIn around l.destination) (ends : EndsIn (SeenIn around) others) :
    (∃ m ∈ sided others, continues (remark sideOf l) m = true) ↔
      ∃ m ∈ others, continues l m = true := by
  have hany := (respects_sideOf clear.earlier).any hl ends
  rw [← List.any_eq_true, ← List.any_eq_true, ← hany]
  rfl

/-- No connection of a clear list continues itself. -/
theorem Clear.not_continues_at (clear : Clear levels around links)
    (hl : links[index]? = some incoming) : continues incoming incoming = false := by
  have hm := List.mem_of_getElem? hl
  rw [← clear.continues_sided hm hm]
  exact not_continues_self (clear.tidy.onwards _ (List.mem_map_of_mem hm))

/-- The order of a clear list does not matter. -/
theorem Clear.perm (clear : Clear levels around links) (hp : links.Perm others) :
    Clear levels around others where
  earlier := clear.earlier
  ends := fun m hm => clear.ends m (hp.mem_iff.mpr hm)
  tidy := clear.tidy.perm (hp.map _)

/-- A splice has the same effect with sides for marks. -/
theorem Clear.sided_splice (clear : Clear levels around (incoming :: others)) :
    sided (splice incoming others) = splice (remark sideOf incoming) (sided others) :=
  ((respects_sideOf clear.earlier).splice (clear.ends _ List.mem_cons_self).2
    fun m hm => clear.ends m (List.mem_cons_of_mem incoming hm)).symm

/-- A splice keeps a list clear. -/
theorem Clear.splice (clear : Clear levels around (incoming :: others)) :
    Clear levels around (splice incoming others) where
  earlier := clear.earlier
  ends := EndsIn.splice (clear.ends _ List.mem_cons_self).1
    fun m hm => clear.ends m (List.mem_cons_of_mem incoming hm)
  tidy := by
    rw [clear.sided_splice]
    exact Tidy.splice (l := remark sideOf incoming) clear.tidy

/-- So does a scan. -/
theorem Clear.scan (clear : Clear levels around links) (index : Nat) :
    Clear levels around (scan links index) := by
  obtain ⟨hsided, hends⟩ := (respects_sideOf clear.earlier).scan links index clear.ends
  refine ⟨clear.earlier, hends, ?_⟩
  rw [sided, ← hsided]
  exact (clear.tidy.splices_many (scan_splices _ index)).1

/-- A splice leaves a connection of the new list something to go on with. -/
theorem Clear.continues_splice (clear : Clear levels around (incoming :: others))
    (hc : ∃ x ∈ others, continues incoming x = true) (hm : l ∈ Flat.splice incoming others)
    (h : ∃ x ∈ incoming :: others, continues l x = true) :
    ∃ x ∈ Flat.splice incoming others, continues l x = true := by
  have after := clear.splice
  have hseen := (after.ends l hm).2
  have hsided : remark sideOf l ∈ Flat.splice (remark sideOf incoming) (sided others) :=
    clear.sided_splice ▸ List.mem_map_of_mem hm
  have hothers : EndsIn (SeenIn around) others :=
    fun m hm => clear.ends m (List.mem_cons_of_mem incoming hm)
  rw [← after.exists_continues_iff hseen after.ends, clear.sided_splice]
  refine Tidy.continues_splice (l := remark sideOf incoming) clear.tidy ?_ hsided ?_
  · exact (clear.exists_continues_iff (clear.ends _ List.mem_cons_self).2 hothers).mpr hc
  · exact (clear.exists_continues_iff hseen clear.ends).mpr h

end Clear

/-- Where the loops stand. -/
structure Loops where
  /-- The connections, as far as they have been spliced. -/
  links : List (Link Nat)
  /-- The place that is looked at. -/
  index : Nat
  /-- Whether the scan has spliced anything. -/
  progressed : Bool
  /-- How many splices there have been since the beginning. -/
  splices : Nat

namespace Loops

/-- Before the first scan it is decided whether one is needed, as after a scan that has spliced
something. -/
def begin (links : List (Link Nat)) : Loops :=
  ⟨links, links.length, true, 0⟩

/-- What the loops do next. A connection without partners is passed over, any other one is
spliced, and its place is looked at again. Behind the last place another scan begins if the last
one has spliced something and a connection still touches a nested pipeline; otherwise the loops
end. -/
def next? (s : Loops) : Option Loops :=
  match s.links[s.index]? with
  | some incoming =>
    if partners s.links incoming = [] then some { s with index := s.index + 1 }
    else some ⟨spliceAt s.links s.index incoming, s.index, true, s.splices + 1⟩
  | none =>
    if s.progressed && s.links.any touchesSlot then some { s with index := 0, progressed := false }
    else none

/-- What merging gives when the loops have ended. -/
def result (s : Loops) : Except (List Nat) (List (Link Nat)) :=
  if s.progressed then .ok s.links else .error (touchedSlots s.links)

/-- The loops come from one point to another. -/
def Runs : Loops → Loops → Prop :=
  Relation.ReflTransGen fun s t => s.next? = some t

section Next

variable {links : List (Link Nat)} {index splices : Nat} {progressed : Bool} {incoming : Link Nat}

/-- A connection without partners is passed over. -/
theorem next?_of_eq_nil (hl : links[index]? = some incoming) (hp : partners links incoming = []) :
    next? ⟨links, index, progressed, splices⟩ = some ⟨links, index + 1, progressed, splices⟩ := by
  simp only [next?, hl, hp, if_true]

/-- A connection with partners is spliced. -/
theorem next?_of_ne_nil (hl : links[index]? = some incoming) (hp : partners links incoming ≠ []) :
    next? ⟨links, index, progressed, splices⟩ =
      some ⟨spliceAt links index incoming, index, true, splices + 1⟩ := by
  simp only [next?, hl, hp, if_false]

/-- After progress there is another scan while a connection touches a nested pipeline. -/
theorem next?_of_any (ha : links.any touchesSlot = true) :
    next? ⟨links, links.length, true, splices⟩ = some ⟨links, 0, false, splices⟩ := by
  simp [next?, ha]

end Next

/-- A step passes over a connection, begins a new scan, or splices. -/
theorem cases_of_next? {s t : Loops} (h : s.next? = some t) :
    (t.links = s.links ∧ t.splices = s.splices) ∨
      ∃ incoming, s.links[s.index]? = some incoming ∧ partners s.links incoming ≠ [] ∧
        t = ⟨spliceAt s.links s.index incoming, s.index, true, s.splices + 1⟩ := by
  obtain ⟨links, index, progressed, splices⟩ := s
  cases hl : links[index]? with
  | some incoming =>
    by_cases hp : partners links incoming = []
    · obtain rfl := Option.some.inj ((next?_of_eq_nil hl hp).symm.trans h)
      exact .inl ⟨rfl, rfl⟩
    · obtain rfl := Option.some.inj ((next?_of_ne_nil hl hp).symm.trans h)
      exact .inr ⟨incoming, rfl, hp, rfl⟩
  | none =>
    simp only [next?, hl, Option.ite_none_right_eq_some, Option.some.injEq] at h
    obtain ⟨-, rfl⟩ := h
    exact .inl ⟨rfl, rfl⟩

section Steps

variable {levels : Levels} {around : List Nat} {s t : Loops}

/-- The invariant of the loops: the list is clear, and it has become shorter by one with every
splice. -/
structure Sound (levels : Levels) (around : List Nat) (total : Nat) (s : Loops) : Prop where
  /-- Merging can work on the list. -/
  clear : Clear levels around s.links
  /-- The splices and the connections that are left add up to the connections at first. -/
  count : s.splices + s.links.length = total

/-- A step keeps the invariant. -/
theorem Sound.next {total : Nat} (sound : Sound levels around total s) (h : s.next? = some t) :
    Sound levels around total t := by
  rcases cases_of_next? h with ⟨hl, hs⟩ | ⟨incoming, hl, hp, rfl⟩
  · exact ⟨hl ▸ sound.clear, hl ▸ hs ▸ sound.count⟩
  · have hself := sound.clear.not_continues_at hl
    obtain ⟨hperm, -⟩ := exists_partner hl hself hp
    have hlen := hperm.length_eq
    have hcount := sound.count
    rw [spliceAt_eq hl hself]
    refine ⟨(sound.clear.perm hperm).splice, ?_⟩
    simp only [length_splice, List.length_cons] at hlen ⊢
    omega

/-- The whole run keeps it. -/
theorem Sound.runs {total : Nat} (sound : Sound levels around total s) (h : s.Runs t) :
    Sound levels around total t := by
  induction h with
  | refl => exact sound
  | tail _ hstep ih => exact ih.next hstep

/-- The loops begin with it. -/
theorem sound_begin {links : List (Link Nat)} (clear : Clear levels around links) :
    Sound levels around links.length (begin links) :=
  ⟨clear, Nat.zero_add _⟩

end Steps

/-- What holds wherever the loops stand. -/
structure Orderly (s : Loops) : Prop where
  /-- No connection is one of its own partners. -/
  apart : ∀ index incoming, s.links[index]? = some incoming → index ∉ partners s.links incoming
  /-- A splice empties different places. -/
  distinct : ∀ index incoming, s.links[index]? = some incoming →
    (emptied s.links index incoming).Nodup
  /-- Each of them is a place of what is left of the list when its turn comes. -/
  inRange : ∀ index incoming, s.links[index]? = some incoming → ∀ place later,
    place :: later <:+ emptied s.links index incoming → place < (removeAll s.links later).length
  /-- A step splices and makes the list shorter by one, or it leaves the list alone. -/
  shorter : ∀ t, s.next? = some t →
    (t.splices = s.splices + 1 ∧ t.links.length + 1 = s.links.length) ∨
      (t.splices = s.splices ∧ t.links = s.links)
  /-- Where connections meet, the marks of their ends differ when they see the boundary from
  different sides. -/
  sides : ∀ l ∈ s.links, ∀ m ∈ s.links, ∀ slot visit view, l.destination = .slot slot visit →
    m.source = .slot slot view → (visit ≠ view ↔ sideOf slot visit ≠ sideOf slot view)
  /-- At most one connection ends at a port of a nested pipeline, seen from one side. -/
  fedOnce : ∀ slot side port,
    ((sided s.links).filter fun l => l.target = (.slot slot side, port)).length ≤ 1
  /-- No connection that stays in the list, or is put into it, loses its partners. -/
  supplied : ∀ t, s.next? = some t → ∀ l ∈ t.links,
    partners s.links l ≠ [] → partners t.links l ≠ []

section Steps

variable {levels : Levels} {around : List Nat} {s t : Loops} {total : Nat}

/-- Where the invariant holds the loops are orderly. -/
theorem Sound.orderly (sound : Sound levels around total s) : s.Orderly where
  apart := by
    intro index incoming hl
    exact not_mem_partners hl (sound.clear.not_continues_at hl)
  distinct := by
    intro index incoming hl
    exact nodup_emptied hl (sound.clear.not_continues_at hl)
  inRange := by
    intro index incoming hl place later hsuffix
    have hinc := emptied_increases hl (sound.clear.not_continues_at hl)
    have hplace := hsuffix.mem List.mem_cons_self
    exact lt_length_removeAll (hinc.sublist hsuffix.sublist) (emptied_lt hl hplace)
  shorter := by
    intro t h
    have hcount := sound.count
    have hnext := (sound.next h).count
    rcases cases_of_next? h with ⟨hl, hs⟩ | ⟨incoming, -, -, rfl⟩
    · exact .inr ⟨hs, hl⟩
    · exact .inl ⟨rfl, by simp only at hnext ⊢; omega⟩
  sides := by
    intro l hl m hm slot visit view hd hs
    have hfaces := respects_sideOf sound.clear.earlier _ _ (sound.clear.ends l hl).2
      (sound.clear.ends m hm).1
    rw [hd, hs] at hfaces
    have hsame : visit = view ↔ sideOf slot visit = sideOf slot view := by
      simpa [Node.remark, Node.faces] using hfaces.symm
    exact not_congr hsame
  fedOnce := by
    intro slot side port
    have hcount := List.nodup_iff_count_le_one.mp sound.clear.tidy.fedOnce (.slot slot side, port)
    rw [List.count, List.countP_map, List.countP_eq_length_filter] at hcount
    simpa [Function.comp_def, beq_eq_decide] using hcount
  supplied := by
    intro t h l hm hp
    rcases cases_of_next? h with ⟨hl, -⟩ | ⟨incoming, hl, hpartners, rfl⟩
    · rwa [hl]
    · have hself := sound.clear.not_continues_at hl
      obtain ⟨hperm, hc⟩ := exists_partner hl hself hpartners
      rw [partners_ne_nil_iff] at hp ⊢
      simp only [spliceAt_eq hl hself] at hm ⊢
      refine (sound.clear.perm hperm).continues_splice hc hm ?_
      simpa only [hperm.mem_iff] using hp

/-- The inner loop comes from a place to the end of what a scan gives. -/
theorem runs_scan (links : List (Link Nat)) (index : Nat) (clear : Clear levels around links)
    (hi : index ≤ links.length) (progressed : Bool) (splices : Nat) :
    ∃ count, Runs ⟨links, index, progressed, splices⟩ ⟨scan links index,
      (scan links index).length,
      progressed || decide ((scan links index).length < links.length), count⟩ := by
  -- By the recursion of the scan; the list is clear after each of its splices.
  fun_induction scan links index generalizing progressed splices with
  | case1 links index h others hc ih =>
    have hl : links[index]? = some links[index] := List.getElem?_eq_getElem h
    have hp : partners links links[index] ≠ [] := by
      obtain ⟨m, hm, hc⟩ := List.any_eq_true.mp hc
      exact partners_ne_nil_iff.mpr ⟨m, List.mem_of_mem_eraseIdx hm, hc⟩
    have hstep : next? ⟨links, index, progressed, splices⟩ =
        some ⟨splice links[index] others, index, true, splices + 1⟩ :=
      spliceAt_eq hl (clear.not_continues_at hl) ▸ next?_of_ne_nil hl hp
    have hperm : links.Perm (links[index] :: others) := (List.getElem_cons_eraseIdx_perm h).symm
    have hlen : others.length + 1 = links.length := hperm.length_eq.symm
    have hle := length_scan_le (splice links[index] others) index
    rw [length_splice] at hle
    obtain ⟨count, hrun⟩ := ih (clear.perm hperm).splice (by rw [length_splice]; omega) true
      (splices + 1)
    rw [Bool.true_or] at hrun
    rw [decide_eq_true (by omega), Bool.or_true]
    exact ⟨count, .head hstep hrun⟩
  | case2 links index h others hn ih =>
    have hl : links[index]? = some links[index] := List.getElem?_eq_getElem h
    have hp : partners links links[index] = [] := by
      by_contra hp
      exact hn (List.any_eq_true.mpr (exists_partner hl (clear.not_continues_at hl) hp).2)
    obtain ⟨count, hrun⟩ := ih clear h progressed splices
    exact ⟨count, .head (next?_of_eq_nil hl hp) hrun⟩
  | case3 links index h =>
    obtain rfl : index = links.length := Nat.le_antisymm hi (Nat.le_of_not_lt h)
    rw [decide_eq_false (Nat.lt_irrefl _), Bool.or_false]
    exact ⟨splices, .refl⟩

/-- A scan that makes the list no shorter leaves it alone. -/
theorem scan_eq_self {links : List (Link Nat)} {index : Nat}
    (h : ¬ (scan links index).length < links.length) : scan links index = links := by
  fun_induction scan links index with
  | case1 links index hi others _ _ =>
    have hle := length_scan_le (splice links[index] others) index
    rw [length_splice] at hle
    have hlen : others.length = links.length - 1 := List.length_eraseIdx_of_lt hi
    omega
  | case2 links index hi others _ ih => exact ih h
  | case3 links index hi => rfl

/-- The outer loop ends with what merging gives. -/
theorem runs_merge (links : List (Link Nat)) (clear : Clear levels around links) (splices : Nat) :
    ∃ last, Runs ⟨links, links.length, true, splices⟩ last ∧ last.next? = none ∧
      last.result = merge links := by
  fun_induction merge links generalizing splices with
  | case1 links ha hl ih =>
    obtain ⟨count, hscan⟩ := runs_scan links 0 clear (Nat.zero_le _) false splices
    rw [Bool.false_or, decide_eq_true hl] at hscan
    obtain ⟨last, hrun, hend⟩ := ih (clear.scan 0) count
    exact ⟨last, .head (next?_of_any ha) (hscan.trans hrun), hend⟩
  | case2 links ha hl =>
    -- Nothing was spliced in the scan, so the loops end with the list it began with.
    obtain ⟨count, hscan⟩ := runs_scan links 0 clear (Nat.zero_le _) false splices
    rw [Bool.false_or, decide_eq_false hl, scan_eq_self hl] at hscan
    exact ⟨_, .head (next?_of_any ha) hscan, by simp [next?], rfl⟩
  | case3 links ha =>
    exact ⟨_, .refl, by simp [next?, ha], rfl⟩

end Steps

/-- The loops end in one way only: from every point that they come to they come to the last. -/
theorem runs_last {s t last : Loops} (hlast : s.Runs last) (hend : last.next? = none)
    (ht : s.Runs t) : t.Runs last := by
  have hdet : Relator.RightUnique fun a b : Loops => a.next? = some b :=
    fun a b c hb hc => Option.some.inj (hb.symm.trans hc)
  rcases Relation.ReflTransGen.total_of_right_unique hdet ht hlast with h | h
  · exact h
  · rcases Relation.ReflTransGen.cases_head h with rfl | ⟨next, hnext, -⟩
    · exact .refl
    · rw [hend] at hnext
      cases hnext

end Loops

variable {δ : Type}

/-- Merging the connections of a layout ends. Wherever its loops stand, no connection is one of
its own partners, a splice empties different places of the list and makes it shorter by one, at
most one connection ends at a port of a nested pipeline seen from one side, and none loses its
partners to another one. From every such point the loops come to their end, with at most as many
splices as there were connections, and they give what merging gives. If flattening fails, then
because merging is stuck; no nested pipeline is left when it is not. -/
theorem merging_ends (layout : Layout δ) (constructed : layout.Constructed) :
    (∀ s, (Loops.begin (survey layout).links).Runs s →
      s.Orderly ∧ s.splices ≤ (survey layout).links.length) ∧
    (∃ last, (∀ s, (Loops.begin (survey layout).links).Runs s → s.Runs last) ∧
      last.next? = none ∧ last.result = merge (survey layout).links) ∧
    ∀ error, flatten layout = .error error →
      (∃ stuck, merge (survey layout).links = .error stuck ∧
        error = Cause.stuckMerging (slotPaths (survey layout).slots stuck)) ∧
      ∀ slot, error.cause ≠ .slotLeft slot := by
  have tidy := tidy_survey constructed
  obtain ⟨around, marked⟩ := survey_marked layout
  have clear : Clear (levels layout) around (survey layout).links :=
    ⟨marked.earlier, marked.ends, tidy⟩
  refine ⟨?_, ?_, ?_⟩
  · intro s hrun
    have sound := (Loops.sound_begin clear).runs hrun
    exact ⟨sound.orderly, by have := sound.count; omega⟩
  · obtain ⟨last, hrun, hend, hresult⟩ := Loops.runs_merge _ clear 0
    exact ⟨last, fun s hs => Loops.runs_last hrun hend hs, hend, hresult⟩
  · intro error he
    rcases tidy.merge with ⟨hb, -⟩ | ⟨-, stuck, hm⟩
    · rcases flatten_cases constructed with ⟨-, graph, hg, -⟩ | ⟨hn, -⟩
      · rw [hg] at he
        cases he
      · exact absurd ((balanced_survey_iff constructed).mp hb) hn
    · have hs : flatten layout =
          .error (Cause.stuckMerging (slotPaths (survey layout).slots stuck)) := by
        simp [flatten, connectionsOf_survey, hm, bind, Except.bind]
      have hstuck : merge (survey layout).links = .error stuck := by
        rw [merge_sided] at hm
        cases hmerge : merge (survey layout).links with
        | error other => exact congrArg Except.error (Except.error.inj (hmerge ▸ hm))
        | ok links =>
          rw [hmerge] at hm
          cases hm
      obtain rfl := Except.error.inj (hs.symm.trans he)
      refine ⟨⟨stuck, hstuck, rfl⟩, fun slot hs => ?_⟩
      cases hs

/-- The four connections of the picture and its box are merged to two. -/
theorem picture_merged : (picture ()).Constructed ∧
    ∃ last, (Loops.begin (survey (picture ())).links).Runs last ∧ last.next? = none ∧
      last.Orderly ∧ last.splices ≤ 4 ∧
      last.result = .ok [⟨.boundary, 0, .filter 0, 0⟩, ⟨.filter 0, 0, .boundary, 0⟩] := by
  have constructed := picture_constructed ()
  obtain ⟨halways, ⟨last, hlast, hend, hresult⟩, -⟩ := merging_ends (picture ()) constructed
  have hrun := hlast _ .refl
  obtain ⟨orderly, hle⟩ := halways last hrun
  have hfour : (survey (picture ())).links.length = 4 := by cbv
  have htwo : merge (survey (picture ())).links =
      .ok [⟨.boundary, 0, .filter 0, 0⟩, ⟨.filter 0, 0, .boundary, 0⟩] := by cbv
  exact ⟨constructed, last, hrun, hend, orderly, hfour ▸ hle, hresult.trans htwo⟩

end RenderGraph.Flat
