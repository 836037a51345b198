import RenderGraph.Proofs.Flat.Paths
import RenderGraph.Proofs.Layout.Checked
import Mathlib.Data.Set.Card

/-!
# What the check of a layout lists

The check goes through the elements of a layout and, behind the ports of each, into
what is nested in it; the ports of the layout itself come last. Each finding is
about one requirement that is not met, at whatever level, and each of these has its
finding. So there are as many findings as requirements that are not met.
-/

namespace RenderGraph

/-- What is asked of the wiring of one port: that a connection of the layout at an address uses
it. -/
structure Requirement where
  /-- The address of the layout. -/
  address : List Nat
  /-- An element of the layout, or its boundary. -/
  node : Anchor
  /-- Whether the port has to be fed or to be read. The boundary is fed at the outputs of the layout
  and read at its inputs. -/
  role : Direction
  /-- The port. -/
  port : Nat
  deriving DecidableEq, Repr

/-- Whether a requirement is about an element of the layout at an address, or about something
inside that element. -/
def Requirement.Concerns (r : Requirement) (address : List Nat) (index : Nat) : Prop :=
  (r.address = address ∧ r.node = .member index) ∨ address ++ [index] <+: r.address

/-- A requirement is about one element of a layout only. -/
theorem Requirement.Concerns.eq {r : Requirement} {address : List Nat} {i j : Nat}
    (hi : r.Concerns address i) (hj : r.Concerns address j) : i = j := by
  have hlong : ∀ {index}, address ++ [index] <+: r.address → r.address ≠ address := by
    intro index hp he
    have hl := hp.length_le
    rw [he, List.length_append, List.length_singleton] at hl
    omega
  rcases hi with ⟨ha, hn⟩ | hp
  · rcases hj with ⟨-, hm⟩ | hq
    · exact Anchor.member.inj (hn.symm.trans hm)
    · exact absurd ha (hlong hq)
  · rcases hj with ⟨hb, -⟩ | hq
    · exact absurd hb (hlong hp)
    · have he := (List.prefix_of_prefix_length_le hp hq (by simp)).eq_of_length (by simp)
      simpa using he

namespace Layout

variable {δ : Type} {layout : Layout δ}

/-- Whether a connection uses a port: feeds it or reads it, as its role asks. -/
def Connects (connections : List (Connection Anchor)) (node : Anchor) (role : Direction)
    (port : Nat) : Prop :=
  match role with
  | .input => ∃ c ∈ connections, c.target = (node, port)
  | .output => ∃ c ∈ connections, c.origin = (node, port)

/-- A port that exists in the layout at an address, and that no connection of this layout uses. -/
def Unmet (layout : Layout δ) (r : Requirement) : Prop :=
  ∃ nested, layout.at? r.address = some (.pipeline nested) ∧ nested.HasPort r.node r.role r.port ∧
    ¬ Connects nested.connections r.node r.role r.port

/-- How findings on its own ports call a layout: the outermost one by its type, a nested one by the
names that lead to it, without separators at the end. -/
def ownerName (layout : Layout δ) (names : List String) : String :=
  if names = [] then layout.typeName else Path.trimEnd (Path.join names)

/-- A finding names a port as it is reached from the outermost layout. -/
inductive Reports (layout : Layout δ) : Diagnostic → Requirement → Prop
  /-- An input of an element should have a source. -/
  | elementInput {address : List Nat} {names : List String} {outer : Layout δ} {index port : Nat}
    {placed : Placed δ} {name : String} : layout.at? address = some (.pipeline outer) →
    layout.names? address = some names → outer.elements[index]? = some placed →
    placed.element.inputs.names[port]? = some name →
    Reports layout (.inputWithoutSource (Path.join (names ++ [placed.name])) name)
      ⟨address, .member index, .input, port⟩
  /-- An output of an element should have a destination. -/
  | elementOutput {address : List Nat} {names : List String} {outer : Layout δ} {index port : Nat}
    {placed : Placed δ} {name : String} : layout.at? address = some (.pipeline outer) →
    layout.names? address = some names → outer.elements[index]? = some placed →
    placed.element.outputs.names[port]? = some name →
    Reports layout (.outputNotConnected (Path.join (names ++ [placed.name])) name)
      ⟨address, .member index, .output, port⟩
  /-- An output of a layout should have a source in it. -/
  | layoutOutput {address : List Nat} {names : List String} {nested : Layout δ} {port : Nat}
    {name : String} : layout.at? address = some (.pipeline nested) →
    layout.names? address = some names → nested.outputs.names[port]? = some name →
    Reports layout (.boundaryOutputWithoutSource (layout.ownerName names) name)
      ⟨address, .boundary, .input, port⟩
  /-- An input of a layout should have a destination in it. -/
  | layoutInput {address : List Nat} {names : List String} {nested : Layout δ} {port : Nat}
    {name : String} : layout.at? address = some (.pipeline nested) →
    layout.names? address = some names → nested.inputs.names[port]? = some name →
    Reports layout (.boundaryInputNotConnected (layout.ownerName names) name)
      ⟨address, .boundary, .output, port⟩

/-- Findings report the requirements of a kind, each of them once. -/
def Accounts (layout : Layout δ) (kind : Requirement → Prop) (found : List Diagnostic) : Prop :=
  ∃ unmet : List Requirement, unmet.Nodup ∧ (∀ r, r ∈ unmet ↔ kind r) ∧
    List.Forall₂ layout.Reports found unmet

section Accounting

variable {kind other : Requirement → Prop} {found more : List Diagnostic}

/-- What is reported can be described in other words. -/
theorem Accounts.congr (h : layout.Accounts kind found) (same : ∀ r, kind r ↔ other r) :
    layout.Accounts other found := by
  obtain ⟨unmet, hn, hm, hr⟩ := h
  exact ⟨unmet, hn, fun r => (hm r).trans (same r), hr⟩

/-- Nothing is reported where there is nothing to report. -/
theorem accounts_nil (h : ∀ r, ¬ kind r) : layout.Accounts kind [] :=
  ⟨[], List.nodup_nil, fun r => iff_of_false List.not_mem_nil (h r), .nil⟩

/-- Findings on different requirements are put together. -/
theorem Accounts.append (h : layout.Accounts kind found) (h' : layout.Accounts other more)
    (apart : ∀ r, kind r → ¬ other r) :
    layout.Accounts (fun r => kind r ∨ other r) (found ++ more) := by
  obtain ⟨unmet, hn, hm, hr⟩ := h
  obtain ⟨unmet', hn', hm', hr'⟩ := h'
  refine ⟨unmet ++ unmet', List.nodup_append.mpr ⟨hn, hn', ?_⟩, fun r => ?_,
    List.rel_append hr hr'⟩
  · intro r hu r' hu' he
    rw [← he] at hu'
    exact apart r ((hm r).mp hu) ((hm' r).mp hu')
  · rw [List.mem_append, hm, hm']

/-- The ports of a list that fail a test are reported, each under its name. -/
theorem accounts_failing {ports : Ports} {met : Nat → Bool} {finding : String → Diagnostic}
    {requirement : Nat → Requirement} (hinj : Function.Injective requirement)
    (reports : ∀ port name, ports.names[port]? = some name →
      layout.Reports (finding name) (requirement port)) :
    layout.Accounts (fun r => ∃ port < ports.size, met port = false ∧ r = requirement port)
      (failing ports met finding) := by
  have hsplit : ∀ {α : Type} (f : String × Nat → α) (entries : List (String × Nat)),
      entries.filterMap (fun entry => if met entry.2 then none else some (f entry)) =
        (entries.filter fun entry => !met entry.2).map f := by
    intro α f entries
    induction entries with
    | nil => rfl
    | cons entry rest ih =>
      by_cases hm : met entry.2 <;> simp [hm, ih]
  refine ⟨(ports.names.zipIdx.filter fun entry => !met entry.2).map
    fun entry => requirement entry.2, ?nodup, ?mem, ?reports⟩
  case nodup =>
    have hports : ((ports.names.zipIdx.filter fun entry => !met entry.2).map Prod.snd).Nodup :=
      (List.nodup_zipIdx_map_snd ports.names).sublist (List.filter_sublist.map _)
    have hrequirements := hports.map hinj
    rwa [List.map_map] at hrequirements
  case mem =>
    intro r
    simp only [List.mem_map, List.mem_filter, Prod.exists, List.mem_zipIdx_iff_getElem?,
      Bool.not_eq_true']
    constructor
    · rintro ⟨name, port, ⟨hn, hm⟩, rfl⟩
      exact ⟨port, (List.getElem?_eq_some_iff.mp hn).1, hm, rfl⟩
    · rintro ⟨port, hp, hm, rfl⟩
      exact ⟨_, port, ⟨List.getElem?_eq_getElem hp, hm⟩, rfl⟩
  case reports =>
    unfold failing
    rw [hsplit fun entry => finding entry.1, List.forall₂_map_left_iff, List.forall₂_map_right_iff,
      List.forall₂_same]
    intro entry he
    have hentry := (List.mem_filter.mp he).1
    exact reports entry.2 entry.1 (List.mem_zipIdx_iff_getElem?.mp hentry)

end Accounting

section Levels

variable {address : List Nat} {names : List String} {outer : Layout δ}

/-- The findings on the ports of one node report what this node lacks in its layout. -/
theorem accounts_node (ha : layout.at? address = some (.pipeline outer)) {node : Anchor}
    {receiving providing : Ports} {unfed unread : String → Diagnostic}
    (hreceive : ∀ port, outer.HasPort node .input port ↔ port < receiving.size)
    (hprovide : ∀ port, outer.HasPort node .output port ↔ port < providing.size)
    (hunfed : ∀ port name, receiving.names[port]? = some name →
      layout.Reports (unfed name) ⟨address, node, .input, port⟩)
    (hunread : ∀ port name, providing.names[port]? = some name →
      layout.Reports (unread name) ⟨address, node, .output, port⟩) :
    layout.Accounts (fun r => layout.Unmet r ∧ r.address = address ∧ r.node = node)
      (failing receiving (isFed outer.connections node) unfed ++
        failing providing (isRead outer.connections node) unread) := by
  have hfed : layout.Accounts _ (failing receiving (isFed outer.connections node) unfed) :=
    accounts_failing (fun _ _ he => (Requirement.mk.inj he).2.2.2) hunfed
  have hread : layout.Accounts _ (failing providing (isRead outer.connections node) unread) :=
    accounts_failing (fun _ _ he => (Requirement.mk.inj he).2.2.2) hunread
  refine (hfed.append hread ?apart).congr fun r => ?same
  case apart =>
    rintro r ⟨port, -, -, rfl⟩ ⟨other, -, -, he⟩
    cases he
  case same =>
    simp only [← hreceive, ← hprovide, Bool.eq_false_iff, ne_eq, isFed_iff, isRead_iff]
    constructor
    · rintro (⟨port, hp, hm, rfl⟩ | ⟨port, hp, hm, rfl⟩)
      · exact ⟨⟨outer, ha, hp, hm⟩, rfl, rfl⟩
      · exact ⟨⟨outer, ha, hp, hm⟩, rfl, rfl⟩
    · rintro ⟨⟨nested, hn, hp, hm⟩, rfl, rfl⟩
      obtain rfl := Element.pipeline.inj (Option.some.inj (ha.symm.trans hn))
      obtain ⟨address, node, role, port⟩ := r
      cases role with
      | input => exact .inl ⟨port, hp, hm, rfl⟩
      | output => exact .inr ⟨port, hp, hm, rfl⟩

/-- The findings on the ports of an element report what it lacks in the layout around it. -/
theorem accounts_element (ha : layout.at? address = some (.pipeline outer))
    (hn : layout.names? address = some names) {index : Nat} {placed : Placed δ}
    (hp : outer.elements[index]? = some placed) :
    layout.Accounts (fun r => layout.Unmet r ∧ r.address = address ∧ r.node = .member index)
      (elementFindings outer.connections (Flat.leadOf names ++ placed.name) index
        placed.element.inputs placed.element.outputs) := by
  rw [← Flat.join_concat]
  refine accounts_node ha (fun port => ?_) (fun port => ?_)
    (fun port name h => .elementInput ha hn hp h) fun port name h => .elementOutput ha hn hp h
  · simp [hasPort_member_input, hp]
  · simp [hasPort_member_output, hp]

/-- A layout is called by its own type only where it is the outermost one. -/
theorem ownerName_eq (ha : layout.at? address = some (.pipeline outer))
    (hn : layout.names? address = some names) :
    (if (Flat.leadOf names).isEmpty then outer.typeName else Path.trimEnd (Flat.leadOf names)) =
      layout.ownerName names := by
  unfold Flat.leadOf ownerName
  by_cases h : names = []
  · obtain ⟨found, hf, hl⟩ := exists_names ha
    obtain rfl := Option.some.inj (hn.symm.trans hf)
    rw [h, List.length_nil] at hl
    obtain rfl := List.length_eq_zero_iff.mp hl.symm
    obtain rfl := Element.pipeline.inj (Option.some.inj ha)
    simp [h]
  · have hne : (Path.join names ++ Path.separator).isEmpty = false := by
      simp [Path.separator]
    rw [if_neg h, if_neg h, hne, Path.trimEnd_append_separator]
    rfl

/-- The findings on the ports of a layout report what it lacks itself. -/
theorem accounts_boundary (ha : layout.at? address = some (.pipeline outer))
    (hn : layout.names? address = some names) :
    layout.Accounts (fun r => layout.Unmet r ∧ r.address = address ∧ r.node = .boundary)
      (boundaryFindings outer.connections (layout.ownerName names) outer.inputs
        outer.outputs) :=
  accounts_node ha (fun _ => hasPort_boundary_input) (fun _ => hasPort_boundary_output)
    (fun _ _ h => .layoutOutput ha hn h) fun _ _ h => .layoutInput ha hn h

/-- Nothing is required inside a filter. -/
theorem not_unmet_of_filter {index : Nat} {placed : Placed δ} {spec : FilterSpec δ}
    (ha : layout.at? address = some (.pipeline outer)) (hp : outer.elements[index]? = some placed)
    (he : placed.element = .filter spec) {r : Requirement} (hr : address ++ [index] <+: r.address) :
    ¬ layout.Unmet r := by
  rintro ⟨nested, hn, -, -⟩
  have hat : layout.at? (address ++ [index]) = some (.filter spec) :=
    at?_concat.mpr ⟨outer, placed, ha, hp, he⟩
  obtain ⟨rest, hrest⟩ := hr
  rw [← hrest, at?, Element.at?_append, Option.bind_eq_some_iff] at hn
  obtain ⟨found, hf, hbelow⟩ := hn
  obtain rfl := Option.some.inj (hat.symm.trans hf)
  cases rest <;> cases hbelow

/-- The findings on the elements from an index on report what these and everything inside them
lack, if this is so of the findings on each nested layout. -/
theorem accounts_elements (ha : layout.at? address = some (.pipeline outer))
    (hn : layout.names? address = some names)
    (hnested : ∀ index placed nested, outer.elements[index]? = some placed →
      placed.element = .pipeline nested →
      layout.Accounts (fun r => layout.Unmet r ∧ address ++ [index] <+: r.address)
        (nested.findings (Flat.leadOf (names ++ [placed.name]))))
    (elements : List (Placed δ)) (index : Nat) (hrest : outer.elements.drop index = elements) :
    layout.Accounts
      (fun r => layout.Unmet r ∧ ∃ i, index ≤ i ∧ r.Concerns address i)
      (elementsFindings (Flat.leadOf names) outer.connections index elements) := by
  induction elements generalizing index with
  | nil =>
    refine accounts_nil fun r => ?_
    rintro ⟨⟨nested, hat, hport, -⟩, i, hi, hc⟩
    -- There is no element from the index on that a requirement could be about.
    have hlength := List.drop_eq_nil_iff.mp hrest
    have hnone : outer.elements[i]? = none := List.getElem?_eq_none (Nat.le_trans hlength hi)
    rcases hc with ⟨hra, hrn⟩ | ⟨below, hbelow⟩
    · rw [hra, ha] at hat
      obtain rfl := Element.pipeline.inj (Option.some.inj hat)
      rw [hrn] at hport
      have hlt := hport.lt_length
      omega
    · rw [← hbelow, at?, Element.at?_append, Option.bind_eq_some_iff] at hat
      obtain ⟨found, hf, -⟩ := hat
      obtain ⟨around, placed, hat, hp, -⟩ := at?_concat.mp hf
      obtain rfl := Element.pipeline.inj (Option.some.inj (ha.symm.trans hat))
      rw [hnone] at hp
      cases hp
  | cons placed rest ih =>
    have hp : outer.elements[index]? = some placed := by
      rw [← Nat.add_zero index, ← List.getElem?_drop, hrest]
      rfl
    have hbehind : outer.elements.drop (index + 1) = rest := by
      rw [← List.drop_drop, hrest]
      rfl
    have hports := accounts_element ha hn hp
    have hlater := ih (index + 1) hbehind
    have hsplit : ∀ r : Requirement, (∃ i, index ≤ i ∧ r.Concerns address i) ↔
        r.Concerns address index ∨ ∃ i, index + 1 ≤ i ∧ r.Concerns address i := by
      intro r
      constructor
      · rintro ⟨i, hi, hc⟩
        rcases Nat.eq_or_lt_of_le hi with rfl | hlt
        · exact .inl hc
        · exact .inr ⟨i, hlt, hc⟩
      · rintro (hc | ⟨i, hi, hc⟩)
        · exact ⟨index, Nat.le_refl index, hc⟩
        · exact ⟨i, Nat.le_of_succ_le hi, hc⟩
    have hapart : ∀ r : Requirement, layout.Unmet r ∧ r.Concerns address index →
        ¬ (layout.Unmet r ∧ ∃ i, index + 1 ≤ i ∧ r.Concerns address i) := by
      rintro r ⟨-, hc⟩ ⟨-, i, hi, hci⟩
      have he := hc.eq hci
      omega
    obtain ⟨name, element⟩ := placed
    cases element with
    | filter spec =>
      have hfirst : layout.Accounts (fun r => layout.Unmet r ∧ r.Concerns address index)
          (elementFindings outer.connections (Flat.leadOf names ++ name) index spec.inputs
            spec.outputs) := by
        refine hports.congr fun r => and_congr_right fun hr => ?_
        exact (or_iff_left fun hc => not_unmet_of_filter ha hp rfl hc hr).symm
      refine (hfirst.append hlater hapart).congr fun r => ?_
      rw [hsplit r, and_or_left]
    | pipeline nested =>
      have hinside := hnested index _ nested hp rfl
      rw [Flat.leadOf_concat] at hinside
      have hfirst : layout.Accounts (fun r => layout.Unmet r ∧ r.Concerns address index)
          (elementFindings outer.connections (Flat.leadOf names ++ name) index nested.inputs
            nested.outputs ++ nested.findings (Flat.leadOf names ++ name ++ Path.separator)) := by
        refine (hports.append hinside ?_).congr fun r => (and_or_left ..).symm
        rintro r ⟨-, hra, -⟩ ⟨-, hbelow⟩
        have hl := hbelow.length_le
        rw [hra, List.length_append, List.length_singleton] at hl
        omega
      refine (hfirst.append hlater hapart).congr fun r => ?_
      rw [hsplit r, and_or_left]

/-- The findings on the layout at an address report what is not met there and below. -/
theorem accounts_findings (nested : Layout δ) {address : List Nat} {names : List String}
    (ha : layout.at? address = some (.pipeline nested)) (hn : layout.names? address = some names) :
    layout.Accounts (fun r => layout.Unmet r ∧ address <+: r.address)
      (nested.findings (Flat.leadOf names)) := by
  have hnested : ∀ index placed deeper, nested.elements[index]? = some placed →
      placed.element = .pipeline deeper →
      layout.Accounts (fun r => layout.Unmet r ∧ address ++ [index] <+: r.address)
        (deeper.findings (Flat.leadOf (names ++ [placed.name]))) := by
    intro index placed deeper hp he
    have hsmaller := sizeOf_lt_of_mem (List.mem_of_getElem? hp) he
    exact accounts_findings deeper (at?_concat.mpr ⟨nested, placed, ha, hp, he⟩)
      (names?_concat ha hn hp)
  have helements := accounts_elements ha hn hnested nested.elements 0 rfl
  have hboundary := accounts_boundary ha hn
  have hparts : nested.findings (Flat.leadOf names) =
      elementsFindings (Flat.leadOf names) nested.connections 0 nested.elements ++
        boundaryFindings nested.connections (layout.ownerName names) nested.inputs
          nested.outputs := by
    rw [← ownerName_eq ha hn]
    cases nested
    rfl
  rw [hparts]
  refine (helements.append hboundary ?apart).congr fun r => ?same
  case apart =>
    rintro r ⟨-, i, -, hc⟩ ⟨-, hra, hrn⟩
    rcases hc with ⟨-, hm⟩ | hbelow
    · rw [hrn] at hm
      cases hm
    · have hl := hbelow.length_le
      rw [hra, List.length_append, List.length_singleton] at hl
      omega
  case same =>
    rw [← and_or_left]
    refine and_congr_right fun _ => ?_
    constructor
    · rintro (⟨i, -, ⟨hra, -⟩ | hbelow⟩ | ⟨hra, -⟩)
      · exact hra ▸ List.prefix_rfl
      · exact (List.prefix_append address [i]).trans hbelow
      · exact hra ▸ List.prefix_rfl
    · rintro ⟨rest, hrest⟩
      cases rest with
      | nil =>
        rw [List.append_nil] at hrest
        cases hnode : r.node with
        | boundary => exact .inr ⟨hrest.symm, rfl⟩
        | member i => exact .inl ⟨i, Nat.zero_le i, .inl ⟨hrest.symm, hnode⟩⟩
      | cons i rest =>
        refine .inl ⟨i, Nat.zero_le i, .inr ⟨rest, ?_⟩⟩
        rw [← hrest, List.append_assoc]
        rfl
termination_by sizeOf nested

/-- The findings report all requirements that are not met. -/
theorem accounts_diagnostics (layout : Layout δ) :
    layout.Accounts layout.Unmet layout.diagnostics := by
  have hroot : layout.at? [] = some (.pipeline layout) := rfl
  have hname : layout.names? [] = some [] := rfl
  exact (accounts_findings layout hroot hname).congr fun r => and_iff_left List.nil_prefix

/-- There are as many findings as requirements they report. -/
theorem Accounts.length_eq {kind : Requirement → Prop} {found : List Diagnostic}
    (h : layout.Accounts kind found) :
    { r | kind r }.Finite ∧ found.length = { r | kind r }.ncard := by
  obtain ⟨unmet, hn, hm, hr⟩ := h
  have hset : { r | kind r } = ↑unmet.toFinset := by
    ext r
    simp [hm]
  refine ⟨hset ▸ unmet.toFinset.finite_toSet, ?_⟩
  rw [hset, Set.ncard_coe_finset, List.toFinset_card_of_nodup hn, hr.length_eq]

end Levels

/-- The check lists every requirement that is not met at any level, each in one line, and nothing
else. So there are as many lines as such requirements, and none exactly when all ports are connected
at every level; asked to raise a failure, the check raises a configuration error exactly when there
are lines. -/
theorem check_lists_unmet (layout : Layout δ) : ∃ found, layout.check false = .ok found ∧
    layout.Accounts layout.Unmet found ∧
    { r | layout.Unmet r }.Finite ∧ found.length = { r | layout.Unmet r }.ncard ∧
    (found = [] ↔
      ∀ address nested, layout.at? address = some (.pipeline nested) → nested.Used) ∧
    ((∃ e, layout.check true = .error e ∧ e.kind = .configuration) ↔ found ≠ []) ∧
    (layout.check true = .ok [] ↔ found = []) := by
  have hcheck : layout.check false = .ok layout.diagnostics := by simp [check]
  have haccounts := accounts_diagnostics layout
  have hlength := haccounts.length_eq
  refine ⟨layout.diagnostics, hcheck, haccounts, hlength.1, hlength.2, ?used, ?raised, ?passed⟩
  case used =>
    rw [← check_eq_ok_nil_iff, hcheck, Except.ok.injEq]
  case raised =>
    by_cases h : layout.diagnostics = []
    · simp [check, h]
    · simp [check, h, Error.kind, Cause.kind]
  case passed =>
    by_cases h : layout.diagnostics = []
    · simp [check, h]
    · simp [check, h]

end Layout

end RenderGraph
