import RenderGraph.Layout.AutoConnect

/-!
# Layouts that can be constructed

A layout is constructed by declaring ports, adding elements and connecting ports,
one operation after another, from a layout without anything. An operation that is
refused leaves the layout as it was, so only those that succeed count.
-/

namespace RenderGraph

/-- Lists of ports that can be declared. -/
inductive Ports.Declared : Ports → Prop
  /-- There may be no port. -/
  | empty : Declared {}
  /-- A port can be declared behind the others. -/
  | add {ports next : Ports} {name : String} :
    Declared ports → ports.add name = .ok next → Declared next

/-- Filter descriptions that can be constructed. -/
inductive FilterSpec.Constructed {δ : Type} : FilterSpec δ → Prop
  /-- A filter without ports. -/
  | empty (typeName : String) (descriptor : δ) : Constructed (.empty typeName descriptor)
  /-- An input can be declared. -/
  | addInput {filter next : FilterSpec δ} {name : String} :
    Constructed filter → filter.addInput name = .ok next → Constructed next
  /-- An output can be declared. -/
  | addOutput {filter next : FilterSpec δ} {name : String} :
    Constructed filter → filter.addOutput name = .ok next → Constructed next
  /-- The descriptor can be replaced. -/
  | describe {filter : FilterSpec δ} (descriptor : δ) :
    Constructed filter → Constructed { filter with descriptor }

/-- Layouts that can be constructed. -/
inductive Layout.Constructed {δ : Type} : Layout δ → Prop
  /-- A layout without anything. -/
  | empty (typeName : String) : Constructed (.empty typeName)
  /-- An input can be declared. -/
  | addInput {layout next : Layout δ} {name : String} :
    Constructed layout → layout.addInput name = .ok next → Constructed next
  /-- An output can be declared. -/
  | addOutput {layout next : Layout δ} {name : String} :
    Constructed layout → layout.addOutput name = .ok next → Constructed next
  /-- A filter can be added. -/
  | addFilter {layout next : Layout δ} {name : String} {spec : FilterSpec δ} :
    Constructed layout → spec.Constructed → layout.add name (.filter spec) = .ok next →
    Constructed next
  /-- A layout can be added to another one, or to a copy of itself. -/
  | addPipeline {layout next nested : Layout δ} {name : String} :
    Constructed layout → Constructed nested → layout.add name (.pipeline nested) = .ok next →
    Constructed next
  /-- Two ports can be connected. -/
  | connect {layout next : Layout δ} {c : Connection Anchor} :
    Constructed layout → layout.connect c = .ok next → Constructed next
  /-- Two ports of elements can be connected by name. -/
  | connectByName {layout next : Layout δ}
    {source sourcePort destination destinationPort : String} :
    Constructed layout →
    layout.connectByName source sourcePort destination destinationPort = .ok next →
    Constructed next
  /-- An input of the layout can be connected. -/
  | connectToInput {layout next : Layout δ} {port destination destinationPort : Nat} :
    Constructed layout → layout.connectToInput port destination destinationPort = .ok next →
    Constructed next
  /-- An input of the layout can be connected by name. -/
  | connectToInputByName {layout next : Layout δ} {port destination destinationPort : String} :
    Constructed layout →
    layout.connectToInputByName port destination destinationPort = .ok next → Constructed next
  /-- An output of the layout can be connected. -/
  | connectToOutput {layout next : Layout δ} {source sourcePort port : Nat} :
    Constructed layout → layout.connectToOutput source sourcePort port = .ok next →
    Constructed next
  /-- An output of the layout can be connected by name. -/
  | connectToOutputByName {layout next : Layout δ} {source sourcePort port : String} :
    Constructed layout → layout.connectToOutputByName source sourcePort port = .ok next →
    Constructed next
  /-- All ports without a source can be connected at once. -/
  | autoConnect {layout next : Layout δ} :
    Constructed layout → layout.autoConnect = .ok next → Constructed next

/-- Elements that can be constructed are filters and layouts that can. -/
def Element.Constructed {δ : Type} : Element δ → Prop
  | filter spec => spec.Constructed
  | pipeline nested => nested.Constructed

section Results

variable {δ : Type}

/-- An operation that succeeds inside another one gave the same result by itself. -/
theorem within_eq_ok_iff {α : Type} {context : Context} {result : Except Error α} {a : α} :
    within context result = .ok a ↔ result = .ok a := by
  cases result <;> simp

/-- The first of two operations in a row succeeds when both do. -/
theorem bind_eq_ok_iff {α β : Type} {first : Except Error α} {next : α → Except Error β} {b : β} :
    (first >>= next) = .ok b ↔ ∃ a, first = .ok a ∧ next a = .ok b := by
  cases first with
  | error e => simp [bind, Except.bind]
  | ok a => simp [bind, Except.bind]

/-- A port is declared behind the others, under a name that is admissible and new. -/
theorem Ports.add_eq_ok_iff {ports next : Ports} {name : String} :
    ports.add name = .ok next ↔
      checkName .port name = .ok () ∧ name ∉ ports.names ∧ next = ⟨ports.names ++ [name]⟩ := by
  simp only [Ports.add, bind_eq_ok_iff]
  constructor
  · rintro ⟨⟨⟩, hc, h⟩
    split at h
    · cases h
    · exact ⟨hc, ‹_›, (Except.ok.inj h).symm⟩
  · rintro ⟨hc, hn, rfl⟩
    exact ⟨(), hc, if_neg hn⟩

/-- Declaring a port takes none away. -/
theorem Ports.size_le_of_add {ports next : Ports} {name : String}
    (h : ports.add name = .ok next) : ports.size ≤ next.size := by
  obtain ⟨-, -, rfl⟩ := Ports.add_eq_ok_iff.mp h
  simp [Ports.size]

/-- A single port can be declared under any admissible name. -/
theorem Ports.declared_singleton {name : String} (h : checkName .port name = .ok ()) :
    Ports.Declared ⟨[name]⟩ :=
  .add .empty (Ports.add_eq_ok_iff.mpr ⟨h, List.not_mem_nil, rfl⟩)

/-- Ports that can be declared can be those of a filter. -/
theorem FilterSpec.constructed_of_declared (typeName : String) {inputs outputs : Ports}
    (hi : inputs.Declared) (ho : outputs.Declared) (descriptor : δ) :
    FilterSpec.Constructed ⟨typeName, inputs, outputs, descriptor⟩ := by
  induction ho with
  | empty =>
    induction hi with
    | empty => exact .empty typeName descriptor
    | add _ ha ih => exact .addInput ih (bind_eq_ok_iff.mpr ⟨_, ha, rfl⟩)
  | add _ ha ih => exact .addOutput ih (bind_eq_ok_iff.mpr ⟨_, ha, rfl⟩)

namespace Layout

variable {layout next : Layout δ}

/-- Declaring an input changes the inputs only. -/
theorem addInput_eq_ok_iff {name : String} : layout.addInput name = .ok next ↔
    ∃ ports, layout.inputs.add name = .ok ports ∧ next = { layout with inputs := ports } := by
  simp only [addInput, within_eq_ok_iff, bind_eq_ok_iff, pure, Except.pure, Except.ok.injEq]
  simp only [eq_comm]

/-- Declaring an output changes the outputs only. -/
theorem addOutput_eq_ok_iff {name : String} : layout.addOutput name = .ok next ↔
    ∃ ports, layout.outputs.add name = .ok ports ∧ next = { layout with outputs := ports } := by
  simp only [addOutput, within_eq_ok_iff, bind_eq_ok_iff, pure, Except.pure, Except.ok.injEq]
  simp only [eq_comm]

/-- Ports that can be declared can be those of a layout without elements. -/
theorem constructed_of_declared (typeName : String) {inputs outputs : Ports}
    (hi : inputs.Declared) (ho : outputs.Declared) :
    Constructed (⟨typeName, inputs, outputs, [], []⟩ : Layout δ) := by
  induction ho with
  | empty =>
    induction hi with
    | empty => exact .empty typeName
    | add _ ha ih => exact .addInput ih (addInput_eq_ok_iff.mpr ⟨_, ha, rfl⟩)
  | add _ ha ih => exact .addOutput ih (addOutput_eq_ok_iff.mpr ⟨_, ha, rfl⟩)

/-- An element is added behind the others, under a name that is admissible and new. -/
theorem add_eq_ok_iff {name : String} {element : Element δ} :
    layout.add name element = .ok next ↔ checkName .element name = .ok () ∧
      (∀ placed ∈ layout.elements, placed.name ≠ name) ∧
      next = { layout with elements := layout.elements ++ [⟨name, element⟩] } := by
  simp only [add, bind_eq_ok_iff]
  constructor
  · rintro ⟨⟨⟩, hc, he⟩
    split at he
    · cases he
    case isFalse h => exact ⟨hc, by simpa using h, (Except.ok.inj he).symm⟩
  · rintro ⟨hc, hn, rfl⟩
    exact ⟨(), hc, if_neg (by simpa using hn)⟩

/-- Connecting by name is connecting what the names stand for. -/
theorem exists_connect_of_connectByName {source sourcePort destination destinationPort : String}
    (h : layout.connectByName source sourcePort destination destinationPort = .ok next) :
    ∃ c, layout.connect c = .ok next := by
  obtain ⟨c, -, hc⟩ := bind_eq_ok_iff.mp h
  exact ⟨c, hc⟩

/-- Connecting an input by name is connecting what the names stand for. -/
theorem exists_connect_of_connectToInputByName {port destination destinationPort : String}
    (h : layout.connectToInputByName port destination destinationPort = .ok next) :
    ∃ c, layout.connect c = .ok next := by
  obtain ⟨c, -, hc⟩ := bind_eq_ok_iff.mp h
  exact ⟨c, hc⟩

/-- Connecting an output by name is connecting what the names stand for. -/
theorem exists_connect_of_connectToOutputByName {source sourcePort port : String}
    (h : layout.connectToOutputByName source sourcePort port = .ok next) :
    ∃ c, layout.connect c = .ok next := by
  obtain ⟨c, -, hc⟩ := bind_eq_ok_iff.mp h
  exact ⟨c, hc⟩

end Layout

end Results

end RenderGraph
