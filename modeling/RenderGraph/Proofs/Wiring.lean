import RenderGraph.Connection
import Mathlib.Data.List.Nodup

/-!
# Lists of connections in which no port is fed twice

Layouts, flattened graphs and every list in between keep one property: a port
has at most one source. Looking up the source of a port is then the same as
membership in the list, and the connections into a node can be counted port by
port.
-/

namespace RenderGraph

namespace Connection

variable {ν : Type}

/-- The port that a connection reads. -/
def origin (c : Connection ν) : ν × Nat := (c.source, c.sourcePort)

/-- The port that a connection feeds. -/
def target (c : Connection ν) : ν × Nat := (c.destination, c.destinationPort)

/-- Two connections with the same ends are the same. -/
theorem ext_ends {c d : Connection ν} (ho : c.origin = d.origin) (ht : c.target = d.target) :
    c = d := by
  cases c
  cases d
  simp_all [origin, target]

end Connection

/-- No port is fed by two connections of the list. -/
def FedOnce {ν : Type} (connections : List (Connection ν)) : Prop :=
  (connections.map Connection.target).Nodup

instance {ν : Type} [DecidableEq ν] (connections : List (Connection ν)) :
    Decidable (FedOnce connections) :=
  inferInstanceAs (Decidable (connections.map Connection.target).Nodup)

namespace FedOnce

variable {ν : Type} {connections : List (Connection ν)}

/-- Connections into the same port are the same. -/
theorem eq_of_target (h : FedOnce connections) {c d : Connection ν} (hc : c ∈ connections)
    (hd : d ∈ connections) (he : c.target = d.target) : c = d :=
  List.inj_on_of_nodup_map h hc hd he

/-- No connection occurs twice. -/
theorem nodup (h : FedOnce connections) : connections.Nodup :=
  List.Nodup.of_map _ h

/-- The order of the connections does not matter. -/
theorem perm {others : List (Connection ν)} (hp : connections.Perm others) :
    FedOnce connections ↔ FedOnce others :=
  (hp.map _).nodup_iff

end FedOnce

section Lookup

variable {ν : Type} [DecidableEq ν] {connections : List (Connection ν)} {node : ν} {port : Nat}

@[simp]
theorem Connection.feeds_iff {c : Connection ν} :
    c.feeds node port = true ↔ c.target = (node, port) := by
  simp [feeds, target]

@[simp]
theorem Connection.reads_iff {c : Connection ν} :
    c.reads node port = true ↔ c.origin = (node, port) := by
  simp [reads, origin]

/-- What is found as the source of a port is in the list and feeds the port. -/
theorem sourceOf?_sound {c : Connection ν} (h : sourceOf? connections node port = some c) :
    c ∈ connections ∧ c.target = (node, port) :=
  ⟨List.mem_of_find?_eq_some h, Connection.feeds_iff.mp (List.find?_some h :)⟩

/-- A port has a source exactly when some connection feeds it. -/
theorem sourceOf?_isSome_iff :
    (sourceOf? connections node port).isSome ↔ ∃ c ∈ connections, c.target = (node, port) := by
  simp only [sourceOf?, List.find?_isSome, Connection.feeds_iff]

/-- A port has no source when no connection of the list feeds it. -/
theorem sourceOf?_eq_none_iff :
    sourceOf? connections node port = none ↔ ¬ ∃ c ∈ connections, c.target = (node, port) := by
  rw [← sourceOf?_isSome_iff, Bool.not_eq_true, Option.isSome_eq_false_iff,
    Option.isNone_iff_eq_none]

/-- A port that is fed once has the connection that feeds it as its source. -/
theorem FedOnce.sourceOf?_eq (h : FedOnce connections) {c : Connection ν}
    (hc : c ∈ connections) (ht : c.target = (node, port)) :
    sourceOf? connections node port = some c := by
  have hs : (sourceOf? connections node port).isSome := sourceOf?_isSome_iff.mpr ⟨c, hc, ht⟩
  obtain ⟨d, hd⟩ := Option.isSome_iff_exists.mp hs
  have hm := sourceOf?_sound hd
  rw [hd, h.eq_of_target hm.1 hc (hm.2.trans ht.symm)]

/-- The source of a port does not depend on the order of the connections. -/
theorem FedOnce.sourceOf?_perm (h : FedOnce connections) {others : List (Connection ν)}
    (hp : connections.Perm others) (node : ν) (port : Nat) :
    sourceOf? others node port = sourceOf? connections node port := by
  cases hs : sourceOf? others node port with
  | some c =>
    obtain ⟨hm, ht⟩ := sourceOf?_sound hs
    exact (h.sourceOf?_eq (hp.mem_iff.mpr hm) ht).symm
  | none =>
    refine (Option.eq_none_iff_forall_not_mem.mpr fun c hc => ?_).symm
    obtain ⟨hm, ht⟩ := sourceOf?_sound hc
    exact absurd ⟨c, hp.mem_iff.mp hm, ht⟩ (sourceOf?_eq_none_iff.mp hs)

/-- The connections into a node that pass a test are as many as the ports of the node whose
source passes it. -/
theorem FedOnce.length_filter_into (h : FedOnce connections) (size : Nat)
    (hr : ∀ c ∈ connections, c.destination = node → c.destinationPort < size)
    (test : Connection ν → Bool) :
    (connections.filter fun c => c.destination = node && test c).length =
      (List.range size).countP fun port => (sourceOf? connections node port).any test := by
  rw [List.countP_eq_length_filter, ← List.length_map Connection.destinationPort]
  apply List.Perm.length_eq
  apply (List.perm_ext_iff_of_nodup ?_ (List.Nodup.filter _ List.nodup_range)).mpr
  · intro port
    simp only [List.mem_map, List.mem_filter, List.mem_range, Bool.and_eq_true,
      decide_eq_true_eq, Option.any_eq_true_iff_get]
    constructor
    · rintro ⟨c, ⟨hc, hn, ht⟩, rfl⟩
      have hs := h.sourceOf?_eq hc (show c.target = (node, c.destinationPort) by
        rw [← hn]; rfl)
      exact ⟨hr c hc hn, by simp [hs], by simpa [hs] using ht⟩
    · rintro ⟨-, hs, ht⟩
      obtain ⟨c, hc⟩ := Option.isSome_iff_exists.mp hs
      obtain ⟨hm, he⟩ := sourceOf?_sound hc
      simp only [hc, Option.get_some] at ht
      exact ⟨c, ⟨hm, congrArg Prod.fst he, ht⟩, congrArg Prod.snd he⟩
  · apply List.Nodup.map_on
    · intro c hc d hd hp
      simp only [List.mem_filter, Bool.and_eq_true, decide_eq_true_eq] at hc hd
      exact h.eq_of_target hc.1 hd.1 (Prod.ext (hc.2.1.trans hd.2.1.symm) hp)
    · exact h.nodup.filter _

end Lookup

end RenderGraph
