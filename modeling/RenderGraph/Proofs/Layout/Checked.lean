import RenderGraph.Layout.Check
import RenderGraph.Proofs.Layout.Address

/-!
# What the check of a layout means

The check finds nothing exactly when every port is connected in its own layout, at
every level: the ports of each element from outside, and the ports of each layout
from inside.
-/

namespace RenderGraph.Layout

variable {δ : Type} {layout : Layout δ}

/-- Every port of a layout and of its elements has a connection in the layout. Seen from inside,
the boundary receives the outputs of the layout and provides its inputs. -/
structure Used (layout : Layout δ) : Prop where
  /-- Every port that receives a texture has a source. -/
  fed : ∀ node port, layout.HasPort node .input port →
    ∃ c ∈ layout.connections, c.target = (node, port)
  /-- Every port that provides a texture is the source of a connection. -/
  read : ∀ node port, layout.HasPort node .output port →
    ∃ c ∈ layout.connections, c.origin = (node, port)

section Ends

/-- In a layout whose connections fit, a port that should have a source has one exactly when it
exists. -/
theorem Used.fed_iff (used : layout.Used) (wired : layout.Wired) {node : Anchor} {port : Nat} :
    (∃ c ∈ layout.connections, c.target = (node, port)) ↔ layout.HasPort node .input port := by
  constructor
  · intro h
    obtain ⟨c, hc, ht⟩ := h
    have hport := wired.destination c hc
    rwa [(Prod.mk.inj ht).1, (Prod.mk.inj ht).2] at hport
  · exact used.fed node port

/-- In a layout whose connections fit, a port that should be read is read exactly when it
exists. -/
theorem Used.read_iff (used : layout.Used) (wired : layout.Wired) {node : Anchor} {port : Nat} :
    (∃ c ∈ layout.connections, c.origin = (node, port)) ↔ layout.HasPort node .output port := by
  constructor
  · intro h
    obtain ⟨c, hc, ht⟩ := h
    have hport := wired.source c hc
    rwa [(Prod.mk.inj ht).1, (Prod.mk.inj ht).2] at hport
  · exact used.read node port

end Ends

section Ports

variable {connections : List (Connection Anchor)} {node : Anchor} {port : Nat}

/-- A port counts as fed when some connection feeds it. -/
theorem isFed_iff : isFed connections node port = true ↔
    ∃ c ∈ connections, c.target = (node, port) :=
  sourceOf?_isSome_iff

/-- A port counts as read when some connection reads it. -/
theorem isRead_iff : isRead connections node port = true ↔
    ∃ c ∈ connections, c.origin = (node, port) := by
  unfold isRead
  simp only [RenderGraph.destinationsOf, Bool.not_eq_true', List.isEmpty_eq_false_iff, ne_eq,
    List.filter_eq_nil_iff, Connection.reads_iff, not_forall, not_not, exists_prop]

/-- No port of a list is found when all of them pass the test. -/
theorem failing_eq_nil_iff {ports : Ports} {met : Nat → Bool} {finding : String → Diagnostic} :
    failing ports met finding = [] ↔ ∀ port < ports.size, met port = true := by
  unfold failing
  rw [List.filterMap_eq_nil_iff]
  constructor
  · intro h port hp
    have hm : (ports.names[port], port) ∈ ports.names.zipIdx :=
      List.mem_zipIdx_iff_getElem?.mpr (List.getElem?_eq_getElem hp)
    by_contra hn
    have hnone := h _ hm
    simp only [if_neg hn] at hnone
    cases hnone
  · intro h entry he
    have hp := (List.getElem?_eq_some_iff.mp (List.mem_zipIdx_iff_getElem?.mp he)).1
    exact if_pos (h entry.2 hp)

/-- Nothing is found on the ports of an element when all of them are connected. -/
theorem elementFindings_eq_nil_iff {path : String} {index : Nat} {inputs outputs : Ports} :
    elementFindings connections path index inputs outputs = [] ↔
      (∀ port < inputs.size, ∃ c ∈ connections, c.target = (.member index, port)) ∧
        ∀ port < outputs.size, ∃ c ∈ connections, c.origin = (.member index, port) := by
  unfold elementFindings
  simp only [List.append_eq_nil_iff, failing_eq_nil_iff, isFed_iff, isRead_iff]

/-- Nothing is found on the ports of the layout itself when all of them are connected. -/
theorem boundaryFindings_eq_nil_iff {owner : String} {inputs outputs : Ports} :
    boundaryFindings connections owner inputs outputs = [] ↔
      (∀ port < outputs.size, ∃ c ∈ connections, c.target = (.boundary, port)) ∧
        ∀ port < inputs.size, ∃ c ∈ connections, c.origin = (.boundary, port) := by
  unfold boundaryFindings
  simp only [List.append_eq_nil_iff, failing_eq_nil_iff, isFed_iff, isRead_iff]

end Ports

section Levels

/-- Nothing is found on a list of elements when the ports of each are connected and nothing is
found inside those that are layouts. -/
theorem elementsFindings_eq_nil_iff {lead : String} {connections : List (Connection Anchor)}
    {start : Nat} {elements : List (Placed δ)} :
    elementsFindings lead connections start elements = [] ↔
      ∀ offset placed, elements[offset]? = some placed →
        ((∀ port < placed.element.inputs.size,
            ∃ c ∈ connections, c.target = (.member (start + offset), port)) ∧
          ∀ port < placed.element.outputs.size,
            ∃ c ∈ connections, c.origin = (.member (start + offset), port)) ∧
        ∀ nested, placed.element = .pipeline nested →
          nested.findings (lead ++ placed.name ++ Path.separator) = [] := by
  induction elements generalizing start with
  | nil => simp [elementsFindings]
  | cons first rest ih =>
    have hshift : ∀ offset, start + 1 + offset = start + (offset + 1) := fun offset => by omega
    rw [forall_getElem?_cons]
    obtain ⟨name, element⟩ := first
    cases element with
    | filter spec =>
      rw [elementsFindings, List.append_eq_nil_iff, elementFindings_eq_nil_iff, ih]
      simp [Element.inputs, Element.outputs, hshift]
    | pipeline nested =>
      rw [elementsFindings, List.append_eq_nil_iff, List.append_eq_nil_iff,
        elementFindings_eq_nil_iff, ih]
      simp [Element.inputs, Element.outputs, hshift]

/-- Nothing is found on a layout when all its ports are connected and nothing is found inside its
elements. -/
theorem findings_eq_nil_iff {lead : String} : layout.findings lead = [] ↔
    layout.Used ∧ ∀ placed ∈ layout.elements, ∀ nested, placed.element = .pipeline nested →
      nested.findings (lead ++ placed.name ++ Path.separator) = [] := by
  obtain ⟨typeName, inputs, outputs, elements, connections⟩ := layout
  rw [findings, List.append_eq_nil_iff, elementsFindings_eq_nil_iff, boundaryFindings_eq_nil_iff]
  simp only [Nat.zero_add]
  constructor
  · intro h
    refine ⟨⟨?fed, ?read⟩, ?nested⟩
    case fed =>
      intro node port hport
      cases node with
      | boundary => exact h.2.1 port (hasPort_boundary_input.mp hport)
      | member index =>
        obtain ⟨placed, hp, hlt⟩ := hasPort_member_input.mp hport
        exact (h.1 index placed hp).1.1 port hlt
    case read =>
      intro node port hport
      cases node with
      | boundary => exact h.2.2 port (hasPort_boundary_output.mp hport)
      | member index =>
        obtain ⟨placed, hp, hlt⟩ := hasPort_member_output.mp hport
        exact (h.1 index placed hp).1.2 port hlt
    case nested =>
      intro placed hp
      obtain ⟨index, hi⟩ := List.mem_iff_getElem?.mp hp
      exact (h.1 index placed hi).2
  · intro h
    have used := h.1
    refine ⟨fun index placed hp => ⟨⟨fun port hlt => ?_, fun port hlt => ?_⟩, ?_⟩,
      fun port hlt => ?_, fun port hlt => ?_⟩
    · exact used.fed (.member index) port (hasPort_member_input.mpr ⟨placed, hp, hlt⟩)
    · exact used.read (.member index) port (hasPort_member_output.mpr ⟨placed, hp, hlt⟩)
    · exact h.2 placed (List.mem_of_getElem? hp)
    · exact used.fed .boundary port (hasPort_boundary_input.mpr hlt)
    · exact used.read .boundary port (hasPort_boundary_output.mpr hlt)

/-- Where nothing is found all ports are connected, at every level. -/
theorem used_of_findings {lead : String} (h : layout.findings lead = []) {address : List Nat}
    {nested : Layout δ} (ha : layout.at? address = some (.pipeline nested)) : nested.Used := by
  induction address generalizing layout lead with
  | nil =>
    have he : layout = nested := Element.pipeline.inj (Option.some.inj ha)
    rw [← he]
    exact (findings_eq_nil_iff.mp h).1
  | cons index rest ih =>
    obtain ⟨placed, hp, hn⟩ := at?_cons.mp ha
    cases he : placed.element with
    | filter spec =>
      rw [he] at hn
      cases rest <;> cases hn
    | pipeline deeper =>
      rw [he] at hn
      have hm := List.mem_of_getElem? hp
      exact ih ((findings_eq_nil_iff.mp h).2 placed hm deeper he) hn

/-- A layout that is nested in another one is smaller. -/
theorem sizeOf_lt_of_mem {placed : Placed δ} (hp : placed ∈ layout.elements) {nested : Layout δ}
    (he : placed.element = .pipeline nested) : sizeOf nested < sizeOf layout := by
  have hlt := List.sizeOf_lt_of_mem hp
  obtain ⟨typeName, inputs, outputs, elements, connections⟩ := layout
  obtain ⟨name, element⟩ := placed
  simp only at he
  subst he
  simp only [Layout.mk.sizeOf_spec, Placed.mk.sizeOf_spec, Element.pipeline.sizeOf_spec] at hlt ⊢
  omega

/-- Where all ports are connected at every level, nothing is found. -/
theorem findings_of_used (layout : Layout δ) (lead : String) (h : ∀ address nested,
    layout.at? address = some (.pipeline nested) → nested.Used) : layout.findings lead = [] := by
  refine findings_eq_nil_iff.mpr ⟨h [] layout rfl, fun placed hp nested he => ?_⟩
  have hsize := sizeOf_lt_of_mem hp he
  obtain ⟨index, hi⟩ := List.mem_iff_getElem?.mp hp
  refine findings_of_used nested _ fun address deeper ha => h (index :: address) deeper ?_
  exact at?_cons.mpr ⟨placed, hi, he ▸ ha⟩
termination_by sizeOf layout

/-- The check finds nothing exactly when all ports are connected, at every level. -/
theorem check_eq_ok_nil_iff : layout.check false = .ok [] ↔
    ∀ address nested, layout.at? address = some (.pipeline nested) → nested.Used := by
  have hcheck : layout.check false = .ok layout.diagnostics := by simp [check]
  rw [hcheck, Except.ok.injEq]
  constructor
  · intro h address nested ha
    exact used_of_findings h ha
  · exact findings_of_used layout ""

end Levels

end RenderGraph.Layout
