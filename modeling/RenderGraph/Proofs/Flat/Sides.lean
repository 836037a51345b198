import RenderGraph.Flat.Graph
import RenderGraph.Proofs.Layout.Address
import Mathlib.Data.List.InsertIdx

/-!
# Visits tell the sides of a boundary apart

The boundary of a nested layout is seen from inside in the visit of that layout,
and from outside in the visit of the layout around it. These are different
visits, and no other one sees it. So the numbers of the visits, with which
flattening marks the ends of connections, say as much as the sides, and merging
gives the same whichever of them the ends are marked with.
-/

namespace RenderGraph.Flat

variable {τ σ : Type}

section Marks

variable (f : Nat → τ → σ)

/-- The same node with another mark, which may depend on the slot. -/
def Node.remark : Node τ → Node σ
  | boundary => boundary
  | filter index => filter index
  | slot index mark => slot index (f index mark)

/-- The same connection with other marks at its ends. -/
def remark (link : Link τ) : Link σ :=
  link.map (Node.remark f)

@[simp]
theorem Node.slot?_remark (node : Node τ) : (node.remark f).slot? = node.slot? := by
  cases node <;> rfl

@[simp]
theorem Node.toAnchor_remark (node : Node τ) : (node.remark f).toAnchor = node.toAnchor := by
  cases node <;> rfl

@[simp]
theorem touchesSlot_remark (link : Link τ) : touchesSlot (remark f link) = touchesSlot link := by
  simp [touchesSlot, remark, Connection.map]

@[simp]
theorem touchedSlots_remark (links : List (Link τ)) :
    touchedSlots (links.map (remark f)) = touchedSlots links := by
  simp [touchedSlots, List.flatMap_map, remark, Connection.map]

/-- A connection of the flattened graph has no marks. -/
@[simp]
theorem toConnection_remark (link : Link τ) : toConnection (remark f link) = toConnection link := by
  simp [toConnection, remark, Connection.map]

end Marks

section Merging

variable [DecidableEq τ] [DecidableEq σ] {f : Nat → τ → σ} {kind : Node τ → Prop}

/-- New marks tell the nodes of a kind apart where the old ones do. -/
def Respects (f : Nat → τ → σ) (kind : Node τ → Prop) : Prop :=
  ∀ a b, kind a → kind b → (a.remark f).faces (b.remark f) = a.faces b

/-- The connections of a list end at nodes of a kind. -/
def EndsIn (kind : Node τ → Prop) (links : List (Link τ)) : Prop :=
  ∀ l ∈ links, kind l.source ∧ kind l.destination

variable {links others : List (Link τ)} {l m : Link τ}

/-- Under new marks a connection is continued by the same others. -/
theorem Respects.continues (respects : Respects f kind) (hl : kind l.destination)
    (hm : kind m.source) : continues (remark f l) (remark f m) = Flat.continues l m := by
  have hfaces := respects _ _ hl hm
  exact congrArg (· && decide (m.sourcePort = l.destinationPort)) hfaces

/-- A splice joins ends that are there. -/
theorem EndsIn.splice (hl : kind l.source) (ends : EndsIn kind others) :
    EndsIn kind (splice l others) := by
  intro m hm
  rcases List.mem_append.mp hm with hm | hm
  · exact ends m (List.mem_of_mem_filter hm)
  · obtain ⟨x, hx, rfl⟩ := List.mem_map.mp hm
    exact ⟨hl, (ends x (List.mem_of_mem_filter hx)).2⟩

/-- Splicing can be done under either marks. -/
theorem Respects.splice (respects : Respects f kind) (hl : kind l.destination)
    (ends : EndsIn kind others) :
    splice (remark f l) (others.map (remark f)) = (Flat.splice l others).map (remark f) := by
  have hsame : ∀ m ∈ others, Flat.continues (remark f l) (remark f m) = Flat.continues l m :=
    fun m hm => respects.continues hl (ends m hm).1
  have hkept : others.filter ((fun m => !Flat.continues (remark f l) m) ∘ remark f) =
      others.filter fun m => !Flat.continues l m :=
    List.filter_congr fun m hm => congrArg not (hsame m hm)
  have hspliced : others.filter (Flat.continues (remark f l) ∘ remark f) =
      others.filter (Flat.continues l) :=
    List.filter_congr hsame
  simp only [Flat.splice, List.filter_map, hkept, hspliced, List.map_append, List.map_map]
  rfl

/-- Some connection of a list is continued under either marks. -/
theorem Respects.any (respects : Respects f kind) (hl : kind l.destination)
    (ends : EndsIn kind others) :
    (others.map (remark f)).any (Flat.continues (remark f l)) =
      others.any (Flat.continues l) := by
  rw [List.any_map, Bool.eq_iff_iff, List.any_eq_true, List.any_eq_true]
  refine exists_congr fun m => and_congr_right fun hm => ?_
  rw [Function.comp_apply, respects.continues hl (ends m hm).1]

/-- So can a scan, which keeps to the ends that are there. -/
theorem Respects.scan (respects : Respects f kind) (links : List (Link τ)) (index : Nat)
    (ends : EndsIn kind links) :
    scan (links.map (remark f)) index = (Flat.scan links index).map (remark f) ∧
      EndsIn kind (Flat.scan links index) := by
  -- By the recursion of the scan; every list in it ends at nodes of the kind.
  fun_induction Flat.scan links index with
  | case1 links index h others hc ih =>
    have hend := ends _ (List.getElem_mem h)
    have hothers : EndsIn kind others := fun m hm => ends m (List.mem_of_mem_eraseIdx hm)
    obtain ⟨heq, hends⟩ := ih (hothers.splice hend.1)
    refine ⟨?_, hends⟩
    rw [← respects.splice hend.2 hothers] at heq
    rw [← heq, Flat.scan, dif_pos (by simpa using h)]
    simp only [List.getElem_map, List.eraseIdx_map]
    rw [respects.any hend.2 hothers, if_pos hc]
  | case2 links index h others hn ih =>
    have hend := ends _ (List.getElem_mem h)
    have hothers : EndsIn kind others := fun m hm => ends m (List.mem_of_mem_eraseIdx hm)
    obtain ⟨heq, hends⟩ := ih ends
    refine ⟨?_, hends⟩
    rw [← heq, Flat.scan, dif_pos (by simpa using h)]
    simp only [List.getElem_map, List.eraseIdx_map]
    rw [respects.any hend.2 hothers, if_neg hn]
  | case3 links index h =>
    refine ⟨?_, ends⟩
    rw [Flat.scan, dif_neg (by simpa using h)]

/-- And so can merging. -/
theorem Respects.merge (respects : Respects f kind) (links : List (Link τ))
    (ends : EndsIn kind links) :
    merge (links.map (remark f)) = (Flat.merge links).map (List.map (remark f)) := by
  have hany (links : List (Link τ)) :
      (links.map (remark f)).any touchesSlot = links.any touchesSlot := by
    simp [List.any_map, Function.comp_def]
  fun_induction Flat.merge links with
  | case1 links ha hl ih =>
    obtain ⟨heq, hends⟩ := respects.scan links 0 ends
    rw [← ih hends, Flat.merge, hany, if_pos ha, heq, List.length_map, List.length_map, if_pos hl]
  | case2 links ha hl =>
    obtain ⟨heq, -⟩ := respects.scan links 0 ends
    rw [Flat.merge, hany, if_pos ha, heq, List.length_map, List.length_map, if_neg hl,
      touchedSlots_remark]
    rfl
  | case3 links ha =>
    rw [Flat.merge, hany, if_neg ha]
    rfl

end Merging

variable {δ : Type}

/-- The side from which the boundary in a slot is seen in a visit. The outermost layout is visited
first, so the layout in a slot is visited when its slot and those before it have been counted. -/
def sideOf (slot visit : Nat) : Side :=
  if visit = slot + 1 then .inside else .outside

/-- Before the layout in a slot is visited, its boundary is seen from outside. -/
theorem sideOf_of_le {slot visit : Nat} (h : visit ≤ slot) : sideOf slot visit = .outside :=
  if_neg (Nat.ne_of_lt (Nat.lt_succ_of_le h))

/-- A boundary is seen in the visit of its own layout, or in the one of the layout around it. The
latter are listed by slot. -/
def SeenIn (around : List Nat) : Node Nat → Prop
  | .slot slot visit => visit = slot + 1 ∨ around[slot]? = some visit
  | _ => True

/-- More slots change nothing for those before them. -/
theorem SeenIn.append {around : List Nat} {node : Node Nat} (h : SeenIn around node)
    (more : List Nat) : SeenIn (around ++ more) node := by
  cases node with
  | boundary => trivial
  | filter index => trivial
  | slot slot visit =>
    refine h.imp_right fun ha => ?_
    rw [List.getElem?_append_left (List.getElem?_eq_some_iff.mp ha).1, ha]

/-- Where the layout around a slot is visited before the one in it, visits tell the sides apart. -/
theorem respects_sideOf {around : List Nat}
    (earlier : ∀ slot visit : Nat, around[slot]? = some visit → visit ≤ slot) :
    Respects sideOf (SeenIn around) := by
  intro a b ha hb
  cases a with
  | boundary => rfl
  | filter index => rfl
  | slot slot visit =>
    cases b with
    | boundary => rfl
    | filter index => rfl
    | slot other view =>
      simp only [Node.remark, Node.faces]
      by_cases he : slot = other
      · subst he
        have hfaces : sideOf slot visit ≠ sideOf slot view ↔ visit ≠ view := by
          rcases ha with rfl | ha <;> rcases hb with rfl | hb
          · simp
          · have hle := earlier slot view hb
            rw [sideOf_of_le hle, sideOf, if_pos rfl]
            exact iff_of_true (by decide) (by omega)
          · have hle := earlier slot visit ha
            rw [sideOf_of_le hle, sideOf, if_pos rfl]
            exact iff_of_true (by decide) (by omega)
          · obtain rfl := Option.some.inj (ha.symm.trans hb)
            simp
        simp only [hfaces]
      · simp [he]

/-- The marks of what has been found are visits in which a boundary can be seen. -/
structure Marked (found : Found δ) (around : List Nat) : Prop where
  /-- There is a visit around each slot. -/
  slots : around.length = found.slots.length
  /-- It comes before the visit of the layout in the slot. -/
  earlier : ∀ slot visit : Nat, around[slot]? = some visit → visit ≤ slot
  /-- The boundaries are seen in these two visits. -/
  ends : EndsIn (SeenIn around) found.links

/-- The slot of the layout that is visited under a number. -/
def slotOf : Nat → Option Nat
  | 0 => none
  | visit + 1 => some visit

/-- The layouts in a queue wait for the next visits. -/
structure InTurn (found : Found δ) (queue : List (Pending δ)) : Prop where
  /-- Each is visited when all slots before its own have been. -/
  slots : queue.map Pending.slot = (List.range' found.visits queue.length).map slotOf
  /-- Every slot that was found has been visited or waits. -/
  count : found.visits + queue.length = found.slots.length + 1

/-- A layout sees its own boundary from inside. -/
theorem remark_boundary {pending : Pending δ} {visit : Nat} (h : pending.slot = slotOf visit) :
    (pending.boundary visit).remark sideOf =
      pending.slot.elim .boundary fun slot => .slot slot .inside := by
  rw [Pending.boundary, h]
  cases visit with
  | zero => rfl
  | succ slot => exact congrArg (Node.slot slot) (if_pos rfl)

section Visits

variable {found : Found δ} {around : List Nat} {pending : Pending δ} {queue : List (Pending δ)}

/-- The nested layouts of a list of elements wait in the slots that follow. -/
theorem map_slot_nestedOf (lead : String) (slot : Nat) (elements : List (Placed δ)) :
    (nestedOf lead slot elements).map Pending.slot =
      (List.range' slot (slotsOf lead elements).length).map some := by
  fun_induction nestedOf lead slot elements with
  | case1 => rfl
  | case2 slot _ _ rest ih => exact ih
  | case3 slot name layout rest ih =>
    rw [List.map_cons, ih, slotsOf, List.length_cons, List.range'_succ, List.map_cons]

/-- The elements of a layout are filters, or layouts in the slots that follow. -/
theorem exists_slot_of_mem_nodesOf {visit filter slot : Nat} {elements : List (Placed δ)}
    {node : Node Nat} (h : node ∈ nodesOf visit filter slot elements) (lead : String) :
    node.slot? = none ∨ ∃ offset < (slotsOf lead elements).length,
      node = .slot (slot + offset) visit := by
  fun_induction nodesOf visit filter slot elements with
  | case1 => cases h
  | case2 filter slot _ _ rest ih =>
    rcases List.mem_cons.mp h with rfl | h
    · exact .inl rfl
    · exact ih h
  | case3 filter slot name layout rest ih =>
    rw [slotsOf, List.length_cons]
    rcases List.mem_cons.mp h with rfl | h
    · exact .inr ⟨0, Nat.succ_pos _, rfl⟩
    · refine (ih h).imp_right ?_
      rintro ⟨offset, hlt, rfl⟩
      exact ⟨offset + 1, Nat.succ_lt_succ hlt, by rw [Nat.add_assoc, Nat.add_comm 1]⟩

/-- A layout that is visited sees its own boundary from inside, and the ones of its elements from
outside. -/
theorem Marked.visit (marked : Marked found around) (hslot : pending.slot = slotOf found.visits)
    (hvisits : found.visits ≤ found.slots.length) : Marked (found.visit pending)
      (around ++ List.replicate (slotsOf pending.lead pending.layout.elements).length
        found.visits) := by
  have hown : SeenIn around (pending.boundary found.visits) := by
    rw [Pending.boundary, hslot]
    cases found.visits with
    | zero => trivial
    | succ slot => exact .inl rfl
  have hnode : ∀ node ∈ nodesOf found.visits found.filters.length found.slots.length
      pending.layout.elements, SeenIn (around ++ List.replicate
        (slotsOf pending.lead pending.layout.elements).length found.visits) node := by
    intro node hm
    rcases exists_slot_of_mem_nodesOf hm pending.lead with hn | ⟨offset, hlt, rfl⟩
    · cases node with
      | boundary => trivial
      | filter index => trivial
      | slot slot visit => cases hn
    · refine .inr ?_
      rw [← marked.slots, List.getElem?_append_right (Nat.le_add_right _ _),
        Nat.add_sub_cancel_left, List.getElem?_replicate, if_pos hlt]
  constructor
  case slots => simp [Found.visit, marked.slots]
  case earlier =>
    intro slot visit h
    rcases Nat.lt_or_ge slot around.length with hlt | hge
    · rw [List.getElem?_append_left hlt] at h
      exact marked.earlier slot visit h
    · rw [List.getElem?_append_right hge, List.getElem?_replicate] at h
      obtain rfl := Option.some.inj (Option.ite_none_right_eq_some.mp h).2
      exact Nat.le_trans hvisits (marked.slots ▸ hge)
  case ends =>
    have hat (anchor : Anchor) : SeenIn (around ++ List.replicate
        (slotsOf pending.lead pending.layout.elements).length found.visits)
        (nodeAt (pending.boundary found.visits) (nodesOf found.visits found.filters.length
          found.slots.length pending.layout.elements) anchor) := by
      cases anchor with
      | boundary => exact hown.append _
      | member index =>
        rw [nodeAt]
        cases hn : (nodesOf found.visits found.filters.length found.slots.length
            pending.layout.elements)[index]? with
        | none => exact hown.append _
        | some node => exact hnode node (List.mem_of_getElem? hn)
    intro l hl
    rcases List.mem_append.mp hl with hl | hl
    · exact (marked.ends l hl).imp (·.append _) (·.append _)
    · obtain ⟨c, -, rfl⟩ := List.mem_map.mp hl
      exact ⟨hat c.source, hat c.destination⟩

/-- The first layout of a queue is visited in its turn, and the others still wait for theirs, with
those in it behind them. -/
theorem InTurn.visit (inTurn : InTurn found (pending :: queue)) :
    pending.slot = slotOf found.visits ∧ found.visits ≤ found.slots.length ∧
      InTurn (found.visit pending)
        (queue ++ nestedOf pending.lead found.slots.length pending.layout.elements) := by
  have hcount := inTurn.count
  have hslots := inTurn.slots
  rw [List.length_cons] at hcount
  rw [List.map_cons, List.length_cons, List.range'_succ, List.map_cons, List.cons.injEq] at hslots
  have hnested := map_slot_nestedOf pending.lead found.slots.length pending.layout.elements
  have hlength : (nestedOf pending.lead found.slots.length pending.layout.elements).length =
      (slotsOf pending.lead pending.layout.elements).length := by
    simpa using congrArg List.length hnested
  refine ⟨hslots.1, by omega, ?_⟩
  constructor
  case slots =>
    have hbehind : (List.range' found.slots.length
        (slotsOf pending.lead pending.layout.elements).length).map some =
          (List.range' (found.slots.length + 1)
            (slotsOf pending.lead pending.layout.elements).length).map slotOf := by
      rw [Nat.add_comm found.slots.length 1, ← List.map_add_range', List.map_map]
      exact List.map_congr_left fun slot _ => by rw [Function.comp_apply, Nat.add_comm]; rfl
    rw [List.map_append, hslots.2, hnested, hbehind, List.length_append, hlength,
      ← List.range'_append_1, List.map_append]
    have hstart : found.visits + 1 + queue.length = found.slots.length + 1 := by omega
    rw [Found.visit, hstart]
  case count =>
    rw [List.length_append, hlength]
    simp only [Found.visit, List.length_append]
    omega

/-- Exploring marks all ends that way. -/
theorem Marked.explore (marked : Marked found around) (inTurn : InTurn found queue) :
    ∃ around, Marked (explore found queue) around := by
  fun_induction Flat.explore found queue generalizing around with
  | case1 found => exact ⟨around, marked⟩
  | case2 found pending queue nested =>
    rename_i ih
    obtain ⟨hslot, hvisits, hnext⟩ := inTurn.visit
    exact ih (marked.visit hslot hvisits) hnext

end Visits

/-- The boundaries in a layout are seen in two visits only: in that of their own layout, and in that
of the layout around it, which comes before. -/
theorem survey_marked (layout : Layout δ) : ∃ around, Marked (survey layout) around := by
  have hstart : Marked (Found.none : Found δ) [] := ⟨rfl, nofun, nofun⟩
  have hqueue : InTurn (Found.none : Found δ) [⟨layout, none, ""⟩] := ⟨rfl, rfl⟩
  exact hstart.explore hqueue

/-- Connections with the sides from which their ends are seen. -/
def sided (links : List (Link Nat)) : List (Link Side) :=
  links.map (remark sideOf)

/-- The connections found in a layout, with the sides from which their ends are seen. -/
def linksIn (layout : Layout δ) : List (Link Side) :=
  sided (survey layout).links

/-- Merging the connections of a layout gives the same whether their ends are marked with visits or
with sides. -/
theorem merge_sided (layout : Layout δ) :
    merge (linksIn layout) = (merge (survey layout).links).map sided := by
  obtain ⟨around, marked⟩ := survey_marked layout
  exact (respects_sideOf marked.earlier).merge _ marked.ends

/-- The flattened graph can be read off the sides as well. -/
theorem connectionsOf_survey (layout : Layout δ) :
    connectionsOf (survey layout) =
      match merge (linksIn layout) with
      | .error stuck => .error (Cause.stuckMerging (slotPaths (survey layout).slots stuck))
      | .ok links => links.mapM toConnection := by
  rw [merge_sided, connectionsOf]
  cases merge (survey layout).links with
  | error stuck => rfl
  | ok links =>
    have hends : (toConnection ∘ remark sideOf : Link Nat → Except Error (Connection Anchor)) =
        toConnection := funext fun link => toConnection_remark sideOf link
    exact (congrArg (links.mapM ·) hends.symm).trans List.mapM_map.symm

end RenderGraph.Flat
