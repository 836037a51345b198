import RenderGraph.Proofs.Layout.Names

/-!
# Looking elements up by path

A path is cut into names, and each name is looked up in the layout that the names
before it lead to. What is found stands at the address along which these names
are given. The path of a filter leads back to it exactly when none of the layouts
around it has a name that ends with a colon.
-/

namespace RenderGraph

variable {δ : Type}

namespace Layout

variable {layout : Layout δ} {path : String} {address : List Nat} {names : List String}
  {element : Element δ}

section Descent

/-- What is found under a name is an element of that name, with its index. -/
theorem placed?_sound {name : String} {index : Nat} {placed : Placed δ}
    (h : layout.placed? name = some (index, placed)) :
    layout.elements[index]? = some placed ∧ placed.name = name := by
  obtain ⟨⟨other, position⟩, hm, hf⟩ := List.exists_of_findSome?_eq_some h
  obtain ⟨hname, he⟩ := Option.ite_none_right_eq_some.mp hf
  obtain ⟨rfl, rfl⟩ := Prod.mk.inj (Option.some.inj he)
  exact ⟨List.mem_zipIdx_iff_getElem?.mp hm, hname⟩

/-- Names are different, so every element is found under its own one. -/
theorem Titled.placed?_eq_some_iff (titled : layout.Titled) {name : String} {index : Nat}
    {placed : Placed δ} : layout.placed? name = some (index, placed) ↔
      layout.elements[index]? = some placed ∧ placed.name = name := by
  refine ⟨placed?_sound, fun ⟨hp, hname⟩ => ?_⟩
  cases hs : layout.placed? name with
  | none =>
    have hnone := List.findSome?_eq_none_iff.mp hs (placed, index)
      (List.mem_zipIdx_iff_getElem?.mpr hp)
    simp [hname] at hnone
  | some found =>
    obtain ⟨position, other⟩ := found
    obtain ⟨ho, hother⟩ := placed?_sound hs
    obtain rfl := titled.index_inj hp ho (hname.trans hother.symm)
    rw [Option.some.inj (hp.symm.trans ho)]

/-- Looking up a name succeeds with an element of that name. -/
theorem Titled.placed_eq_ok_iff (titled : layout.Titled) {name : String} {found : Nat × Placed δ} :
    layout.placed name = .ok found ↔
      layout.elements[found.1]? = some found.2 ∧ found.2.name = name := by
  rw [← titled.placed?_eq_some_iff, placed]
  cases layout.placed? name with
  | none => simp
  | some other => simp

/-- Nothing is named along the empty address only. -/
theorem eq_nil_of_names {element : Element δ} (h : element.names? address = some []) :
    address = [] := by
  cases address with
  | nil => rfl
  | cons index address =>
    cases element with
    | filter spec => cases h
    | pipeline layout =>
      obtain ⟨placed, more, -, -, hnil⟩ := names?_cons.mp h
      cases hnil

/-- Names lead from an element to another one that stands at an address along which they are
given. -/
def Reaches (element : Element δ) (names : List String) (found : Element δ) : Prop :=
  ∃ address, element.names? address = some names ∧ element.at? address = some found

/-- No name leads to the element itself. -/
theorem reaches_nil {element found : Element δ} : Reaches element [] found ↔ element = found := by
  constructor
  · rintro ⟨address, hn, ha⟩
    obtain rfl := eq_nil_of_names hn
    exact Option.some.inj ha
  · rintro rfl
    exact ⟨[], names?_nil element, rfl⟩

/-- The first name is that of an element of the layout, and the others lead on from there. -/
theorem reaches_cons {name : String} {found : Element δ} :
    Reaches (.pipeline layout) (name :: names) found ↔ ∃ (index : Nat) (placed : Placed δ),
      layout.elements[index]? = some placed ∧ placed.name = name ∧
        Reaches placed.element names found := by
  constructor
  · rintro ⟨address, hn, ha⟩
    cases address with
    | nil => cases hn
    | cons index address =>
      obtain ⟨placed, more, hp, hm, hnames⟩ := names?_cons.mp hn
      obtain ⟨rfl, rfl⟩ := List.cons.inj hnames
      obtain ⟨other, ho, he⟩ := at?_cons.mp ha
      obtain rfl := Option.some.inj (hp.symm.trans ho)
      exact ⟨index, placed, hp, rfl, address, hm, he⟩
  · rintro ⟨index, placed, hp, rfl, address, hn, ha⟩
    exact ⟨index :: address, names?_cons.mpr ⟨placed, names, hp, hn, rfl⟩,
      at?_cons.mpr ⟨placed, hp, ha⟩⟩

/-- No names lead on from a filter. -/
theorem not_reaches_filter {spec : FilterSpec δ} {name : String} {found : Element δ} :
    ¬ Reaches (.filter spec) (name :: names) found := by
  rintro ⟨address, hn, -⟩
  cases address with
  | nil => cases hn
  | cons index address => cases hn

/-- Following names leads to the element that they reach. -/
theorem Constructed.follow_eq_ok_iff (h : layout.Constructed) (hne : names ≠ []) :
    layout.follow path names = .ok element ↔ Reaches (.pipeline layout) names element := by
  -- On the names, in whatever layout the ones before have led to.
  induction names generalizing layout with
  | nil => exact absurd rfl hne
  | cons name rest ih =>
    rw [reaches_cons]
    cases rest with
    | nil =>
      simp only [follow, bind_eq_ok_iff, h.titled.placed_eq_ok_iff, Prod.exists, and_assoc,
        reaches_nil]
      simp [pure, Except.pure]
    | cons second others =>
      simp only [follow, bind_eq_ok_iff, h.titled.placed_eq_ok_iff, Prod.exists, and_assoc]
      refine exists_congr fun index => exists_congr fun placed => and_congr_right fun hp =>
        and_congr_right fun _ => ?_
      cases he : placed.element with
      | filter spec => exact iff_of_false nofun not_reaches_filter
      | pipeline nested =>
        exact ih (h.nested placed (List.mem_of_getElem? hp) nested he) (List.cons_ne_nil _ _)

end Descent

section Paths

/-- A path leads to an address if its components are the names along the address. -/
def LeadsTo (layout : Layout δ) (path : String) (address : List Nat) : Prop :=
  ∃ names, splitPath path = .ok names ∧ layout.names? address = some names

/-- The names along an address are admissible. -/
theorem admissible_names (element : Element δ) (h : element.Constructed)
    (hn : element.names? address = some names) :
    ∀ name ∈ names, checkName .element name = .ok () := by
  induction address generalizing element names with
  | nil =>
    obtain rfl := Option.some.inj ((names?_nil element).symm.trans hn)
    nofun
  | cons index address ih =>
    cases element with
    | filter spec => cases hn
    | pipeline layout =>
      obtain ⟨placed, more, hp, hm, rfl⟩ := names?_cons.mp hn
      have hmem := List.mem_of_getElem? hp
      exact List.forall_mem_cons.mpr
        ⟨(Constructed.titled h).admissible placed hmem, ih _ (Constructed.members h placed hmem) hm⟩

/-- The same names are given along one address only. -/
theorem eq_of_names (element : Element δ) (h : element.Constructed) {other : List Nat}
    (hn : element.names? address = some names) (ho : element.names? other = some names) :
    address = other := by
  induction address generalizing element other names with
  | nil =>
    obtain rfl := Option.some.inj ((names?_nil element).symm.trans hn)
    exact (eq_nil_of_names ho).symm
  | cons index address ih =>
    cases element with
    | filter spec => cases hn
    | pipeline layout =>
      obtain ⟨placed, more, hp, hm, rfl⟩ := names?_cons.mp hn
      cases other with
      | nil => cases ho
      | cons position other =>
        obtain ⟨placed', more', hp', hm', hnames⟩ := names?_cons.mp ho
        obtain ⟨hname, rfl⟩ := List.cons.inj hnames
        obtain rfl := (Constructed.titled h).index_inj hp hp' hname
        obtain rfl := Option.some.inj (hp.symm.trans hp')
        rw [ih _ (Constructed.members h placed (List.mem_of_getElem? hp)) hm hm']

/-- A path leads to an address if it joins the names along the address, and these are settled. -/
theorem Constructed.leadsTo_iff (h : layout.Constructed) : layout.LeadsTo path address ↔
    ∃ names, layout.names? address = some names ∧ names ≠ [] ∧ Path.join names = path ∧
      Path.Settled names := by
  simp only [LeadsTo, splitPath_eq_ok_iff]
  constructor
  · rintro ⟨names, ⟨hne, hj, -, hs⟩, hn⟩
    exact ⟨names, hn, hne, hj, hs⟩
  · rintro ⟨names, hn, hne, hj, hs⟩
    exact ⟨names, ⟨hne, hj, admissible_names (.pipeline layout) h hn, hs⟩, hn⟩

/-- A path leads to one address only. -/
theorem Constructed.leadsTo_unique (h : layout.Constructed) {other : List Nat}
    (ha : layout.LeadsTo path address) (hb : layout.LeadsTo path other) : address = other := by
  obtain ⟨names, hs, hn⟩ := ha
  obtain ⟨found, ho, hf⟩ := hb
  obtain rfl := Except.ok.inj (hs.symm.trans ho)
  exact eq_of_names (.pipeline layout) h hn hf

/-- Looking up a path gives the element at the address that the path leads to. -/
theorem Constructed.elementByPath_eq_ok_iff (h : layout.Constructed) :
    layout.elementByPath path = .ok element ↔
      ∃ address, layout.LeadsTo path address ∧ layout.at? address = some element := by
  rw [elementByPath, bind_eq_ok_iff]
  constructor
  · rintro ⟨names, hs, hf⟩
    obtain ⟨address, hn, ha⟩ := (h.follow_eq_ok_iff (splitPath_eq_ok_iff.mp hs).1).mp hf
    exact ⟨address, ⟨names, hs, hn⟩, ha⟩
  · rintro ⟨address, ⟨names, hs, hn⟩, ha⟩
    exact ⟨names, hs, (h.follow_eq_ok_iff (splitPath_eq_ok_iff.mp hs).1).mpr ⟨address, hn, ha⟩⟩

/-- The path of a filter leads to the filter, and nowhere else, exactly when the names along its
address are settled. -/
theorem Constructed.filter_found_iff (h : layout.Constructed) {spec : FilterSpec δ}
    (ha : layout.at? address = some (.filter spec)) (hn : layout.names? address = some names) :
    ((∀ other, layout.LeadsTo (Path.join names) other ↔ other = address) ∧
      layout.elementByPath (Path.join names) = .ok (.filter spec)) ↔ Path.Settled names := by
  constructor
  · rintro ⟨hall, -⟩
    obtain ⟨found, hf, -, -, hs⟩ := h.leadsTo_iff.mp ((hall address).mpr rfl)
    rwa [Option.some.inj (hn.symm.trans hf)]
  · intro hs
    have hl : layout.LeadsTo (Path.join names) address :=
      h.leadsTo_iff.mpr ⟨names, hn, names_ne_nil ha hn, rfl, hs⟩
    refine ⟨fun other => ⟨fun ho => h.leadsTo_unique ho hl, ?_⟩,
      h.elementByPath_eq_ok_iff.mpr ⟨address, hl, ha⟩⟩
    rintro rfl
    exact hl

/-- A path under which a filter is found is the path of a filter at an address. -/
theorem Constructed.exists_filterPath (h : layout.Constructed) {spec : FilterSpec δ}
    (hf : layout.elementByPath path = .ok (.filter spec)) : ∃ address names,
      layout.LeadsTo path address ∧ layout.at? address = some (.filter spec) ∧
        layout.names? address = some names ∧ Path.join names = path := by
  obtain ⟨address, hl, ha⟩ := h.elementByPath_eq_ok_iff.mp hf
  obtain ⟨names, hn, -, hj, -⟩ := h.leadsTo_iff.mp hl
  exact ⟨address, names, hl, ha, hn, hj⟩

end Paths

end Layout

end RenderGraph
