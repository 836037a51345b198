import RenderGraph.Proofs.Layout.Names

/-!
# Layouts whose connections were made in another order

Two layouts agree up to the order of their connections when, at every level, the
ports are the same, the elements are the same one by one, and the connections are
those of the other layout in some order. Then they have the same elements at the
same addresses, and the same connections lead between them.
-/

namespace RenderGraph

variable {δ : Type}

mutual

/-- The layouts agree, up to the order of connections, from this level downwards. -/
inductive Layout.Reordered {δ : Type} : Layout δ → Layout δ → Prop
  /-- Ports and elements are the same, and the connections are, in some order. -/
  | level {a b : Layout δ} : a.inputs = b.inputs → a.outputs = b.outputs →
    Layout.ElementsReordered a.elements b.elements → a.connections.Perm b.connections →
    Layout.Reordered a b

/-- The elements agree, up to the order of connections in nested layouts. -/
inductive Element.Reordered {δ : Type} : Element δ → Element δ → Prop
  /-- A filter has no connections of its own. -/
  | filter (spec : FilterSpec δ) : Element.Reordered (.filter spec) (.filter spec)
  /-- Nested layouts agree as layouts. -/
  | pipeline {a b : Layout δ} : Layout.Reordered a b → Element.Reordered (.pipeline a) (.pipeline b)

/-- The elements agree one by one and have the same names. -/
inductive Layout.ElementsReordered {δ : Type} : List (Placed δ) → List (Placed δ) → Prop
  /-- There may be no element. -/
  | nil : Layout.ElementsReordered [] []
  /-- The first elements agree, and so do the others. -/
  | cons {name : String} {a b : Element δ} {rest rest' : List (Placed δ)} :
    Element.Reordered a b → Layout.ElementsReordered rest rest' →
    Layout.ElementsReordered (⟨name, a⟩ :: rest) (⟨name, b⟩ :: rest')

end

mutual

/-- It does not matter which of the layouts comes first. -/
theorem Layout.Reordered.symm : ∀ {a b : Layout δ}, a.Reordered b → b.Reordered a
  | _, _, .level hi ho he hc => .level hi.symm ho.symm he.symm hc.symm

/-- It does not matter which of the elements comes first. -/
theorem Element.Reordered.symm : ∀ {a b : Element δ}, a.Reordered b → b.Reordered a
  | _, _, .filter spec => .filter spec
  | _, _, .pipeline h => .pipeline h.symm

/-- It does not matter which of the lists comes first. -/
theorem Layout.ElementsReordered.symm : ∀ {a b : List (Placed δ)},
    Layout.ElementsReordered a b → Layout.ElementsReordered b a
  | _, _, .nil => .nil
  | _, _, .cons h hr => .cons h.symm hr.symm

end

/-- At each index stand elements that agree, under the same name. -/
theorem Layout.ElementsReordered.getElem? {elements others : List (Placed δ)}
    (h : Layout.ElementsReordered elements others) {index : Nat} {placed : Placed δ}
    (hp : elements[index]? = some placed) :
    ∃ other, others[index]? = some other ∧ placed.name = other.name ∧
      placed.element.Reordered other.element := by
  induction elements generalizing others index with
  | nil => cases hp
  | cons first rest ih =>
    cases h with
    | cons hab hr =>
      cases index with
      | zero =>
        obtain rfl := Option.some.inj hp
        exact ⟨_, rfl, rfl, hab⟩
      | succ index => exact ih hr hp

namespace Layout.Reordered

variable {a b : Layout δ}

/-- The inputs are the same. -/
theorem inputs : a.Reordered b → a.inputs = b.inputs
  | .level hi _ _ _ => hi

/-- The outputs are the same. -/
theorem outputs : a.Reordered b → a.outputs = b.outputs
  | .level _ ho _ _ => ho

/-- The elements agree. -/
theorem elements : a.Reordered b → ElementsReordered a.elements b.elements
  | .level _ _ he _ => he

/-- The connections are the same in some order. -/
theorem connections : a.Reordered b → a.connections.Perm b.connections
  | .level _ _ _ hc => hc

end Layout.Reordered

/-- Below elements that agree, elements agree at every address. -/
theorem Element.Reordered.at? {a b found : Element δ} (h : a.Reordered b) {address : List Nat}
    (ha : a.at? address = some found) :
    ∃ other, b.at? address = some other ∧ found.Reordered other := by
  induction address generalizing a b with
  | nil => exact ⟨b, rfl, Option.some.inj ha ▸ h⟩
  | cons index rest ih =>
    cases h with
    | filter spec => cases ha
    | pipeline h =>
      obtain ⟨placed, hp, hf⟩ := Option.bind_eq_some_iff.mp ha
      obtain ⟨other, ho, -, he⟩ := h.elements.getElem? hp
      obtain ⟨last, hl, hr⟩ := ih he hf
      exact ⟨last, Option.bind_eq_some_iff.mpr ⟨other, ho, hl⟩, hr⟩

/-- Below elements that agree, the names along every address are the same. -/
theorem Element.Reordered.names? {a b : Element δ} (h : a.Reordered b) {address : List Nat}
    {names : List String} (hn : a.names? address = some names) :
    b.names? address = some names := by
  induction address generalizing a b names with
  | nil => rwa [Layout.names?_nil] at hn ⊢
  | cons index rest ih =>
    cases h with
    | filter spec => cases hn
    | pipeline h =>
      obtain ⟨placed, more, hp, hm, rfl⟩ := Layout.names?_cons.mp hn
      obtain ⟨other, ho, hname, he⟩ := h.elements.getElem? hp
      exact Layout.names?_cons.mpr ⟨other, more, ho, ih he hm, by rw [hname]⟩

namespace Layout.Reordered

variable {a b : Layout δ} {c : Connection Spot}

/-- The same connections were made. -/
theorem authored (h : a.Reordered b) (hc : a.Authored c) : b.Authored c := by
  obtain ⟨address, nested, ha, d, hd, rfl⟩ := hc
  obtain ⟨other, ho, hr⟩ := Element.Reordered.at? (.pipeline h) ha
  cases hr with
  | pipeline hn => exact ⟨address, _, ho, d, hn.connections.mem_iff.mp hd, rfl⟩

/-- Filters are at the same addresses. -/
theorem at?_filter (h : a.Reordered b) {address : List Nat} {spec : FilterSpec δ}
    (ha : a.at? address = some (.filter spec)) : b.at? address = some (.filter spec) := by
  obtain ⟨other, ho, hr⟩ := Element.Reordered.at? (.pipeline h) ha
  cases hr with
  | filter => exact ho

/-- Textures come from the same places and end at the same places. -/
theorem terminal (h : a.Reordered b) {spot : Spot} (ht : a.Terminal spot) : b.Terminal spot := by
  rcases ht with hb | ⟨hs, spec, ha⟩
  · exact Or.inl hb
  · exact Or.inr ⟨hs, spec, h.at?_filter ha⟩

/-- The same connections meet. -/
theorem walk (h : a.Reordered b) {path : List (Connection Spot)} (hw : a.Walk path c) :
    b.Walk path c := by
  induction hw with
  | single hc => exact .single (h.authored hc)
  | extend _ hd hm ih => exact .extend ih (h.authored hd) hm

/-- The same chains carry textures. -/
theorem chain (h : a.Reordered b) {path : List (Connection Spot)} (hc : a.Chain path c) :
    b.Chain path c :=
  ⟨h.walk hc.walk, h.terminal hc.departs, h.terminal hc.arrives⟩

/-- Nested layouts are used on the same sides of their boundaries. -/
theorem matched (h : a.Reordered b) (hm : a.Matched) : b.Matched := by
  have hsame : ∀ c, b.Authored c ↔ a.Authored c := fun c => ⟨h.symm.authored, h.authored⟩
  rw [matched_iff] at hm ⊢
  intro address nested hne hb side port
  obtain ⟨other, ha, hr⟩ := Element.Reordered.at? (.pipeline h.symm) hb
  cases hr with
  | pipeline => simpa only [hsame] using hm address _ hne ha side port

end Layout.Reordered

end RenderGraph
