import RenderGraph.Proofs.Flat.Sides
import RenderGraph.Proofs.Wiring
import Mathlib.Logic.Relation
import Mathlib.Data.List.Perm.Basic

/-!
# What a splice keeps

A splice takes one connection out and continues it through the boundary where it
ends. It keeps every way from a filter or the outermost boundary to another one,
and it leaves a port of a nested pipeline unused on both sides or on neither.
Both together determine when merging succeeds and with what result.
-/

namespace RenderGraph.Flat

/-- The same boundary seen from the other side; other nodes are left alone. -/
def Node.across : Node Side → Node Side
  | slot index side => slot index side.opposite
  | node => node

/-- Ends face each other on opposite sides of a boundary. -/
theorem Node.faces_iff {node other : Node Side} :
    node.faces other = true ↔ node.slot?.isSome = true ∧ other = node.across := by
  cases node with
  | boundary => simp [faces, slot?]
  | filter index => simp [faces, slot?]
  | slot index side =>
    cases other with
    | boundary => simp [faces, across]
    | filter index => simp [faces, across]
    | slot index' side' =>
      have hside : side ≠ side' ↔ side' = side.opposite := by cases side <;> cases side' <;> decide
      simp only [faces, slot?, across, Bool.and_eq_true, decide_eq_true_eq, hside, slot.injEq,
        Option.isSome_some, true_and]
      exact and_congr_left' eq_comm

/-- The same port seen from the other side of a boundary. -/
def opposite (port : Node Side × Nat) : Node Side × Nat :=
  (port.1.across, port.2)

/-- Whether a port belongs to the boundary of a nested pipeline. -/
def onSlot (port : Node Side × Nat) : Bool :=
  port.1.slot?.isSome

@[simp]
theorem opposite_opposite (port : Node Side × Nat) : opposite (opposite port) = port := by
  obtain ⟨node, port⟩ := port
  cases node <;> simp [opposite, Node.across]

@[simp]
theorem onSlot_opposite (port : Node Side × Nat) : onSlot (opposite port) = onSlot port := by
  obtain ⟨node, port⟩ := port
  cases node <;> rfl

/-- Different ports are different from the other side, too. -/
theorem opposite_inj {port other : Node Side × Nat} (h : opposite port = opposite other) :
    port = other := by
  rw [← opposite_opposite port, h, opposite_opposite]

/-- A connection goes on where another one ends. -/
theorem continues_iff {l m : Link Side} :
    continues l m = true ↔ onSlot l.target = true ∧ m.origin = opposite l.target := by
  simp only [continues, onSlot, opposite, Connection.target, Connection.origin, Bool.and_eq_true,
    decide_eq_true_eq, Node.faces_iff, Prod.mk.injEq, and_assoc]

/-- A connection does not touch nested pipelines when neither of its ends does. -/
theorem touchesSlot_eq_false_iff {l : Link Side} :
    touchesSlot l = false ↔ onSlot l.origin = false ∧ onSlot l.target = false := by
  simp only [touchesSlot, onSlot, Connection.origin, Connection.target, Bool.or_eq_false_iff]

@[simp]
theorem origin_splicePair (l m : Link Side) : (splicePair l m).origin = l.origin := rfl

@[simp]
theorem target_splicePair (l m : Link Side) : (splicePair l m).target = m.target := rfl

/-- Some connection of the list feeds the port. -/
def Fed (links : List (Link Side)) (port : Node Side × Nat) : Prop :=
  ∃ l ∈ links, l.target = port

/-- Some connection of the list reads the port. -/
def Read (links : List (Link Side)) (port : Node Side × Nat) : Prop :=
  ∃ l ∈ links, l.origin = port

/-- The ports of nested pipelines that are fed on one side are those that are read on the other. -/
def Balanced (links : List (Link Side)) : Prop :=
  ∀ port, onSlot port = true → (Fed links port ↔ Read links (opposite port))

/-- A connection is continued when it ends at a port of a nested pipeline that is read on the
other side. -/
theorem exists_continues_iff {links : List (Link Side)} {l : Link Side} :
    (∃ m ∈ links, continues l m = true) ↔
      onSlot l.target = true ∧ Read links (opposite l.target) := by
  simp only [continues_iff, Read]
  constructor
  · rintro ⟨m, hm, hs, ho⟩
    exact ⟨hs, m, hm, ho⟩
  · rintro ⟨hs, m, hm, ho⟩
    exact ⟨m, hm, hs, ho⟩

/-- The connections between the ends of ways through the list. -/
inductive Route (links : List (Link Side)) : Link Side → Prop
  /-- A connection of the list is a way by itself. -/
  | single {l : Link Side} : l ∈ links → Route links l
  /-- A way can be continued by a connection of the list. -/
  | extend {c m : Link Side} : Route links c → m ∈ links → continues c m = true →
    Route links (splicePair c m)

/-- A level for every node. Both sides of a boundary are on opposite levels. -/
structure Levels where
  /-- The level of a node. -/
  level : Node Side → Int
  /-- Crossing a boundary changes the sign. -/
  across : ∀ node : Node Side, node.slot?.isSome = true → level node.across = -level node

/-- A list that merging can work on: no port is fed twice, and the levels of the two ends of a
connection add up to less than nothing. Hence no way comes back to where it was. -/
structure Tidy (levels : Levels) (links : List (Link Side)) : Prop where
  /-- No port has two sources. -/
  fedOnce : FedOnce links
  /-- No connection leads back. -/
  onwards : ∀ l ∈ links, levels.level l.source + levels.level l.destination < 0

section Splicing

variable {levels : Levels} {l m c : Link Side} {others : List (Link Side)}

/-- A connection that leads onwards does not continue itself. -/
theorem not_continues_self (h : levels.level l.source + levels.level l.destination < 0) :
    continues l l = false := by
  rw [Bool.eq_false_iff]
  intro hc
  obtain ⟨hslot, ho⟩ := continues_iff.mp hc
  have hs : l.source = l.destination.across := congrArg Prod.fst ho
  have hl := levels.across l.destination hslot
  rw [hs, hl] at h
  omega

/-- After a splice the list has the connections that do not continue the spliced one, and for
each of the others the direct connection. -/
theorem mem_splice : m ∈ splice l others ↔ (m ∈ others ∧ continues l m = false) ∨
    ∃ x ∈ others, continues l x = true ∧ m = splicePair l x := by
  simp only [splice, List.mem_append, List.mem_filter, List.mem_map, Bool.not_eq_true']
  simp only [and_assoc, eq_comm]

/-- The ports that are fed after a splice are those that the other connections feed. -/
theorem map_target_splice_perm :
    ((splice l others).map Connection.target).Perm (others.map Connection.target) := by
  have hm : (others.filter (continues l)).map (Connection.target ∘ splicePair l) =
      (others.filter (continues l)).map Connection.target := rfl
  rw [splice, List.map_append, List.map_map, hm, ← List.map_append]
  have hp := List.filter_append_perm (continues l) others
  exact (List.perm_append_comm.trans hp).map _

/-- A splice keeps a list tidy. -/
theorem Tidy.splice (tidy : Tidy levels (l :: others)) : Tidy levels (splice l others) where
  fedOnce := by
    have ho : (others.map Connection.target).Nodup := (List.nodup_cons.mp tidy.fedOnce).2
    exact map_target_splice_perm.nodup_iff.mpr ho
  onwards := by
    intro m hm
    rcases mem_splice.mp hm with ⟨ho, -⟩ | ⟨x, hx, hc, rfl⟩
    · exact tidy.onwards m (List.mem_cons_of_mem l ho)
    · obtain ⟨hslot, ho⟩ := continues_iff.mp hc
      have hs : x.source = l.destination.across := congrArg Prod.fst ho
      have hd := levels.across l.destination hslot
      have hl := tidy.onwards l List.mem_cons_self
      have hx := tidy.onwards x (List.mem_cons_of_mem l hx)
      rw [hs, hd] at hx
      simp only [splicePair]
      omega

/-- The port at which a connection is spliced is not fed any more. -/
theorem Tidy.fed_splice (tidy : Tidy levels (l :: others)) {port : Node Side × Nat} :
    Fed (Flat.splice l others) port ↔ Fed (l :: others) port ∧ port ≠ l.target := by
  have hp : Fed (Flat.splice l others) port ↔ Fed others port := by
    simpa only [Fed, List.mem_map] using map_target_splice_perm.mem_iff (a := port)
  have hl : l.target ∉ others.map Connection.target := (List.nodup_cons.mp tidy.fedOnce).1
  rw [hp]
  constructor
  · rintro ⟨m, hm, rfl⟩
    refine ⟨⟨m, List.mem_cons_of_mem l hm, rfl⟩, fun he => hl ?_⟩
    exact List.mem_map.mpr ⟨m, hm, he⟩
  · rintro ⟨⟨m, hm, rfl⟩, hne⟩
    rcases List.mem_cons.mp hm with rfl | hm
    · exact absurd rfl hne
    · exact ⟨m, hm, rfl⟩

/-- The port at which a connection is spliced is not read any more from the other side. -/
theorem Tidy.read_splice (tidy : Tidy levels (l :: others))
    (hc : ∃ m ∈ others, continues l m = true) {port : Node Side × Nat} :
    Read (Flat.splice l others) port ↔ Read (l :: others) port ∧ port ≠ opposite l.target := by
  obtain ⟨y, hy, hly⟩ := hc
  have hs := (continues_iff.mp hly).1
  have hself := not_continues_self (tidy.onwards l List.mem_cons_self)
  have hlo : l.origin ≠ opposite l.target := fun he => by
    rw [continues_iff.mpr ⟨hs, he⟩] at hself
    cases hself
  constructor
  · rintro ⟨m, hm, rfl⟩
    rcases mem_splice.mp hm with ⟨ho, hn⟩ | ⟨x, hx, -, rfl⟩
    · refine ⟨⟨m, List.mem_cons_of_mem l ho, rfl⟩, fun he => ?_⟩
      rw [continues_iff.mpr ⟨hs, he⟩] at hn
      cases hn
    · exact ⟨⟨l, List.mem_cons_self, rfl⟩, hlo⟩
  · rintro ⟨⟨m, hm, rfl⟩, hne⟩
    rcases List.mem_cons.mp hm with rfl | hm
    · exact ⟨_, mem_splice.mpr (Or.inr ⟨y, hy, hly, rfl⟩), rfl⟩
    · refine ⟨m, mem_splice.mpr (Or.inl ⟨hm, ?_⟩), rfl⟩
      rw [Bool.eq_false_iff]
      exact fun hlm => hne (continues_iff.mp hlm).2

/-- A splice leaves a connection of the new list something to go on with. -/
theorem Tidy.continues_splice (tidy : Tidy levels (l :: others))
    (hc : ∃ x ∈ others, continues l x = true) (hm : m ∈ Flat.splice l others)
    (h : ∃ x ∈ l :: others, continues m x = true) :
    ∃ x ∈ Flat.splice l others, continues m x = true := by
  obtain ⟨hs, hr⟩ := exists_continues_iff.mp h
  -- The spliced connection was the only one that ended where it did.
  have hne : m.target ≠ l.target := (tidy.fed_splice.mp ⟨m, hm, rfl⟩).2
  have hread := (tidy.read_splice hc).mpr ⟨hr, fun he => hne (opposite_inj he)⟩
  exact exists_continues_iff.mpr ⟨hs, hread⟩

/-- Splicing uses up a port of a nested pipeline on both sides. -/
theorem Tidy.balanced_splice (tidy : Tidy levels (l :: others))
    (hc : ∃ m ∈ others, continues l m = true) :
    Balanced (Flat.splice l others) ↔ Balanced (l :: others) := by
  have hfed : Fed (l :: others) l.target := ⟨l, List.mem_cons_self, rfl⟩
  have hread : Read (l :: others) (opposite l.target) := by
    obtain ⟨m, hm, hlm⟩ := hc
    exact ⟨m, List.mem_cons_of_mem l hm, (continues_iff.mp hlm).2⟩
  have hop : ∀ port, opposite port ≠ opposite l.target ↔ port ≠ l.target :=
    fun port => not_congr ⟨opposite_inj, congrArg opposite⟩
  refine forall_congr' fun port => imp_congr_right fun _ => ?_
  rw [tidy.fed_splice, tidy.read_splice hc, hop]
  by_cases he : port = l.target
  · subst he
    simp [hfed, hread]
  · simp [he]

/-- A way through the list begins where one of its connections begins and ends where one ends. -/
theorem Route.ends {links : List (Link Side)} (h : Route links c) :
    Read links c.origin ∧ Fed links c.target := by
  induction h with
  | single hl => exact ⟨⟨_, hl, rfl⟩, ⟨_, hl, rfl⟩⟩
  | extend _ hm _ ih => exact ⟨ih.1, ⟨_, hm, rfl⟩⟩

/-- A way that is there after a splice was there before. -/
theorem Route.of_splice (h : Route (splice l others) c) : Route (l :: others) c := by
  induction h with
  | single hm =>
    rcases mem_splice.mp hm with ⟨ho, -⟩ | ⟨x, hx, hlx, rfl⟩
    · exact .single (List.mem_cons_of_mem l ho)
    · exact .extend (.single List.mem_cons_self) (List.mem_cons_of_mem l hx) hlx
  | @extend c m _ hm hcm ih =>
    rcases mem_splice.mp hm with ⟨ho, -⟩ | ⟨x, hx, hlx, rfl⟩
    · exact .extend ih (List.mem_cons_of_mem l ho) hcm
    · -- The way first goes along the spliced connection, then along the one behind it.
      have hcl : continues c l = true := continues_iff.mpr (continues_iff.mp hcm)
      have hway : Route (l :: others) (splicePair c l) := .extend ih List.mem_cons_self hcl
      have hend : Route (l :: others) (splicePair (splicePair c l) x) :=
        .extend hway (List.mem_cons_of_mem l hx) (continues_iff.mpr (continues_iff.mp hlx))
      exact hend

/-- A way that begins outside nested pipelines is still there after a splice, unless it ends
with the spliced connection; then it can be continued by whatever continued that one. -/
theorem Tidy.route_splice (tidy : Tidy levels (l :: others)) (h : Route (l :: others) c)
    (hs : onSlot c.origin = false) :
    Route (Flat.splice l others) c ∨ (c.target = l.target ∧
      ∀ x ∈ others, continues l x = true → Route (Flat.splice l others) (splicePair c x)) := by
  induction h with
  | @single m hm =>
    rcases List.mem_cons.mp hm with rfl | hm
    · exact Or.inr ⟨rfl, fun x hx hmx => .single (mem_splice.mpr (Or.inr ⟨x, hx, hmx, rfl⟩))⟩
    · refine Or.inl (.single (mem_splice.mpr (Or.inl ⟨hm, ?_⟩)))
      rw [Bool.eq_false_iff]
      intro hlm
      rw [(continues_iff.mp hlm).2, onSlot_opposite, (continues_iff.mp hlm).1] at hs
      cases hs
  | @extend c m hway hm hcm ih =>
    obtain ⟨hslot, ho⟩ := continues_iff.mp hcm
    rcases ih hs with hr | ⟨ht, hr⟩
    · -- The way so far does not end where the spliced connection did.
      have hne : c.target ≠ l.target := (tidy.fed_splice.mp hr.ends.2).2
      rcases List.mem_cons.mp hm with rfl | hm
      · refine Or.inr ⟨rfl, fun x hx hmx => ?_⟩
        have hd : splicePair m x ∈ Flat.splice m others :=
          mem_splice.mpr (Or.inr ⟨x, hx, hmx, rfl⟩)
        have hend : Route (Flat.splice m others) (splicePair c (splicePair m x)) :=
          .extend hr hd (continues_iff.mpr ⟨hslot, ho⟩)
        exact hend
      · refine Or.inl (.extend hr (mem_splice.mpr (Or.inl ⟨hm, ?_⟩)) hcm)
        rw [Bool.eq_false_iff]
        intro hlm
        exact hne (opposite_inj (ho.symm.trans (continues_iff.mp hlm).2))
    · have hlm : continues l m = true := continues_iff.mpr (ht ▸ ⟨hslot, ho⟩)
      rcases List.mem_cons.mp hm with rfl | hm
      · rw [not_continues_self (tidy.onwards _ List.mem_cons_self)] at hlm
        cases hlm
      · exact Or.inl (hr m hm hlm)

end Splicing

end RenderGraph.Flat
