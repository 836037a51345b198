import RenderGraph.Proofs.Order
import RenderGraph.Proofs.Name
import RenderGraph.Proofs.Layout.Address

/-!
# Names in a nested layout

The names along an address spell the path of what stands there. The elements of a
layout have different names, none of which contains a separator, and still two
filters can have the same path: of two nested layouts, one may be called like the
other with a colon behind it. Apart from that, paths tell filters apart.
-/

namespace RenderGraph

variable {δ : Type}

/-- The names of the elements along an address below an element. -/
def Element.names? : Element δ → List Nat → Option (List String)
  | _, [] => some []
  | .filter _, _ :: _ => none
  | .pipeline layout, index :: rest =>
    layout.elements[index]?.bind fun placed =>
      (placed.element.names? rest).map fun names => placed.name :: names

namespace Layout

variable {layout : Layout δ}

/-- The names of the elements along an address. -/
def names? (layout : Layout δ) (address : List Nat) : Option (List String) :=
  (Element.pipeline layout).names? address

/-- The elements of a layout have names of their own. -/
structure Titled (layout : Layout δ) : Prop where
  /-- Every name is admissible. -/
  admissible : ∀ placed ∈ layout.elements, checkName .element placed.name = .ok ()
  /-- No two elements have the same name. -/
  distinct : (layout.elements.map Placed.name).Nodup

/-- The elements of a layout that can be constructed have names of their own. -/
theorem Constructed.titled (h : layout.Constructed) : layout.Titled := by
  refine h.induction (motive := Titled) ?empty ?inputs ?outputs ?element ?connections
  case empty => exact fun typeName => ⟨nofun, List.nodup_nil⟩
  case inputs => exact fun layout name ports _ titled => ⟨titled.admissible, titled.distinct⟩
  case outputs => exact fun layout name ports _ titled => ⟨titled.admissible, titled.distinct⟩
  case element =>
    intro layout placed hname hfresh _ titled
    constructor
    case admissible =>
      intro other ho
      rcases List.mem_append.mp ho with ho | ho
      · exact titled.admissible other ho
      · exact List.mem_singleton.mp ho ▸ hname
    case distinct =>
      rw [List.map_append, List.nodup_append]
      refine ⟨titled.distinct, List.nodup_singleton _, fun a ha b hb => ?_⟩
      obtain ⟨other, ho, rfl⟩ := List.mem_map.mp ha
      rw [List.map_singleton, List.mem_singleton] at hb
      rw [hb]
      exact hfresh other ho
  case connections => exact fun layout added _ titled => ⟨titled.admissible, titled.distinct⟩

/-- An element is known by its name. -/
theorem Titled.index_inj (titled : layout.Titled) {i j : Nat} {a b : Placed δ}
    (ha : layout.elements[i]? = some a) (hb : layout.elements[j]? = some b)
    (h : a.name = b.name) : i = j :=
  nodup_map_iff_index.mp titled.distinct i j a b ha hb h

section Along

/-- There is nothing to name on the way to an element itself. -/
theorem names?_nil (element : Element δ) : element.names? [] = some [] := by
  cases element <;> rfl

/-- The first name is that of an element of the layout, and the others are found in it. -/
theorem names?_cons {index : Nat} {address : List Nat} {names : List String} :
    layout.names? (index :: address) = some names ↔ ∃ placed more,
      layout.elements[index]? = some placed ∧ placed.element.names? address = some more ∧
        names = placed.name :: more := by
  unfold names?
  simp only [Element.names?, Option.bind_eq_some_iff, Option.map_eq_some_iff]
  constructor
  · rintro ⟨placed, hp, more, hm, rfl⟩
    exact ⟨placed, more, hp, hm, rfl⟩
  · rintro ⟨placed, more, hp, hm, rfl⟩
    exact ⟨placed, hp, more, hm, rfl⟩

/-- There is a name for every step of an address. -/
theorem exists_names {element found : Element δ} {address : List Nat}
    (h : element.at? address = some found) :
    ∃ names, element.names? address = some names ∧ names.length = address.length := by
  induction address generalizing element with
  | nil => exact ⟨[], names?_nil element, rfl⟩
  | cons index address ih =>
    cases element with
    | filter spec => cases h
    | pipeline layout =>
      obtain ⟨placed, hp, ha⟩ := at?_cons.mp h
      obtain ⟨names, hn, hl⟩ := ih ha
      refine ⟨placed.name :: names, names?_cons.mpr ⟨placed, names, hp, hn, rfl⟩, ?_⟩
      rw [List.length_cons, List.length_cons, hl]

/-- On the way to a filter in a layout something is named. -/
theorem names_ne_nil {address : List Nat} {spec : FilterSpec δ} {names : List String}
    (h : layout.at? address = some (.filter spec)) (hn : layout.names? address = some names) :
    names ≠ [] := by
  cases address with
  | nil => cases h
  | cons index address =>
    obtain ⟨placed, more, -, -, rfl⟩ := names?_cons.mp hn
    exact List.cons_ne_nil _ _

/-- The names along two addresses, one after the other. -/
theorem names?_append {element found : Element δ} {address more : List Nat}
    {front back : List String} (h : element.at? address = some found)
    (hf : element.names? address = some front) (hb : found.names? more = some back) :
    element.names? (address ++ more) = some (front ++ back) := by
  induction address generalizing element front with
  | nil =>
    obtain rfl : element = found := Option.some.inj h
    obtain rfl := Option.some.inj ((names?_nil element).symm.trans hf)
    exact hb
  | cons index address ih =>
    cases element with
    | filter spec => cases h
    | pipeline layout =>
      obtain ⟨placed, hp, ha⟩ := at?_cons.mp h
      obtain ⟨named, names, hn, hnames, rfl⟩ := names?_cons.mp hf
      obtain rfl := Option.some.inj (hp.symm.trans hn)
      exact names?_cons.mpr ⟨placed, names ++ back, hp, ih ha hnames, rfl⟩

/-- The name of an element follows the names along the address of its layout. -/
theorem names?_concat {address : List Nat} {outer : Layout δ} {names : List String} {index : Nat}
    {placed : Placed δ} (h : layout.at? address = some (.pipeline outer))
    (hn : layout.names? address = some names) (hp : outer.elements[index]? = some placed) :
    layout.names? (address ++ [index]) = some (names ++ [placed.name]) :=
  names?_append h hn (names?_cons.mpr ⟨placed, [], hp, names?_nil placed.element, rfl⟩)

end Along

/-- The path of a filter of the layout. -/
def FilterPath (layout : Layout δ) (address : List Nat) (path : String) : Prop :=
  ∃ spec names, layout.at? address = some (.filter spec) ∧ layout.names? address = some names ∧
    path = Path.join names

/-- Paths run together in a layout: of two layouts in it, one is called like the other with a
colon behind it, and a filter of the other one has the path of a filter of the first with a colon
before it. -/
def Clashing (layout : Layout δ) : Prop :=
  ∃ longer ∈ layout.elements, ∃ shorter ∈ layout.elements, longer.name = shorter.name ++ ":" ∧
    ∃ first second : Layout δ, longer.element = .pipeline first ∧
      shorter.element = .pipeline second ∧ ∃ address other path,
        first.FilterPath address path ∧ second.FilterPath other (":" ++ path)

/-- Nowhere in a layout do paths run together. -/
def Unambiguous (layout : Layout δ) : Prop :=
  ∀ address nested, layout.at? address = some (.pipeline nested) → ¬ nested.Clashing

section Paths

/-- A layout in an unambiguous layout is unambiguous. -/
theorem Unambiguous.nested (h : layout.Unambiguous) {index : Nat} {placed : Placed δ}
    {nested : Layout δ} (hp : layout.elements[index]? = some placed)
    (he : placed.element = .pipeline nested) : nested.Unambiguous := by
  intro address deeper ha
  refine h (index :: address) deeper (at?_cons.mpr ⟨placed, hp, ?_⟩)
  rw [he]
  exact ha

/-- The names along an address below an element spell the way to a filter. -/
def Spells (element : Element δ) (address : List Nat) (names : List String) : Prop :=
  ∃ spec, element.at? address = some (.filter spec) ∧ element.names? address = some names

/-- A filter is reached at once. -/
theorem Spells.filter {spec : FilterSpec δ} {address : List Nat} {names : List String}
    (h : Spells (.filter spec) address names) : address = [] ∧ names = [] := by
  obtain ⟨found, ha, hn⟩ := h
  cases address with
  | nil => exact ⟨rfl, (Option.some.inj hn).symm⟩
  | cons index rest => cases ha

/-- In a layout, the names that lead to a filter spell its path. -/
theorem Spells.pipeline {nested : Layout δ} {address : List Nat} {names : List String}
    (h : Spells (.pipeline nested) address names) :
    names ≠ [] ∧ nested.FilterPath address (Path.join names) := by
  obtain ⟨spec, ha, hn⟩ := h
  exact ⟨names_ne_nil ha hn, spec, names, ha, hn, rfl⟩

/-- An element in which names lead to a filter is a layout. -/
theorem Spells.exists_nested {element : Element δ} {address : List Nat} {names : List String}
    (h : Spells element address names) (hne : names ≠ []) :
    ∃ nested, element = .pipeline nested ∧ nested.FilterPath address (Path.join names) := by
  cases element with
  | filter spec => exact absurd h.filter.2 hne
  | pipeline nested => exact ⟨nested, rfl, h.pipeline.2⟩

/-- The path of a filter begins with the name of an element, in which the other names lead to the
filter. -/
theorem FilterPath.cases {address : List Nat} {path : String} (h : layout.FilterPath address path) :
    ∃ index rest placed names, address = index :: rest ∧
      layout.elements[index]? = some placed ∧ path = Path.join (placed.name :: names) ∧
      Spells placed.element rest names := by
  obtain ⟨spec, found, ha, hn, rfl⟩ := h
  cases address with
  | nil => cases ha
  | cons index rest =>
    obtain ⟨placed, hp, ha⟩ := at?_cons.mp ha
    obtain ⟨named, names, hq, hnames, rfl⟩ := names?_cons.mp hn
    obtain rfl := Option.some.inj (hp.symm.trans hq)
    exact ⟨index, rest, placed, names, rfl, hp, rfl, spec, ha, hnames⟩

/-- Where the names of two elements differ by a colon that the other path begins with, the
elements are layouts whose paths run together. -/
theorem clashing_of_colon {longer shorter : Placed δ} (hl : longer ∈ layout.elements)
    (hs : shorter ∈ layout.elements) (hname : longer.name = shorter.name ++ ":") {a b : List Nat}
    {ns ms : List String} (ha : Spells longer.element a ns) (hb : Spells shorter.element b ms)
    (hns : ns ≠ []) (hms : ms ≠ []) (hcolon : Path.join ms = ":" ++ Path.join ns) :
    layout.Clashing := by
  obtain ⟨first, hef, hfirst⟩ := ha.exists_nested hns
  obtain ⟨second, hes, hsecond⟩ := hb.exists_nested hms
  rw [hcolon] at hsecond
  exact ⟨longer, hl, shorter, hs, hname, first, second, hef, hes, a, b, Path.join ns, hfirst,
    hsecond⟩

/-- Filters in elements of different names have the same path only where paths run together. -/
theorem Titled.clashing_of_parting (titled : layout.Titled) {p q : Placed δ}
    (hp : p ∈ layout.elements) (hq : q ∈ layout.elements) (hne : p.name ≠ q.name) {a b : List Nat}
    {ns ms : List String} (ha : Spells p.element a ns) (hb : Spells q.element b ms)
    (h : Path.join (p.name :: ns) = Path.join (q.name :: ms)) : layout.Clashing := by
  have hsp := (checkName_eq_ok_iff.mp (titled.admissible p hp)).2
  have hsq := (checkName_eq_ok_iff.mp (titled.admissible q hq)).2
  rcases Path.join_eq_join hsp hsq hne h with ⟨hns, hms, hname, hcolon⟩ | ⟨hms, hns, hname, hcolon⟩
  · exact clashing_of_colon hp hq hname ha hb hns hms hcolon
  · exact clashing_of_colon hq hp hname hb ha hms hns hcolon

/-- In an unambiguous layout filters with the same path are the same. -/
theorem Constructed.eq_of_filterPath (h : layout.Constructed) (clear : layout.Unambiguous)
    {a b : List Nat} {path : String} (ha : layout.FilterPath a path)
    (hb : layout.FilterPath b path) : a = b := by
  induction a generalizing layout b path with
  | nil =>
    obtain ⟨index, rest, -, -, hnil, -⟩ := ha.cases
    cases hnil
  | cons i a ih =>
    obtain ⟨i, a, p, ns, hia, hp, rfl, hfirst⟩ := ha.cases
    obtain ⟨rfl, rfl⟩ := List.cons.inj hia
    obtain ⟨j, b, q, ms, rfl, hq, hjoin, hsecond⟩ := hb.cases
    have hmp := List.mem_of_getElem? hp
    have hname : p.name = q.name := by
      by_contra hne
      exact clear [] layout rfl (h.titled.clashing_of_parting hmp (List.mem_of_getElem? hq) hne
        hfirst hsecond hjoin)
    obtain rfl := h.titled.index_inj hp hq hname
    obtain rfl := Option.some.inj (hp.symm.trans hq)
    cases he : p.element with
    | filter spec =>
      rw [he] at hfirst hsecond
      rw [hfirst.filter.1, hsecond.filter.1]
    | pipeline nested =>
      rw [he] at hfirst hsecond
      obtain ⟨hns, hfirst⟩ := hfirst.pipeline
      obtain ⟨hms, hsecond⟩ := hsecond.pipeline
      rw [← Path.join_cons_inj hns hms hjoin] at hsecond
      rw [ih (h.nested p hmp nested he) (clear.nested hp he) hfirst hsecond]

/-- The path of a filter in a nested layout, seen from the layout around it. -/
theorem FilterPath.below {address : List Nat} {outer nested : Layout δ} {names : List String}
    {index : Nat} {placed : Placed δ} {inner : List Nat} {path : String}
    (ha : layout.at? address = some (.pipeline outer)) (hn : layout.names? address = some names)
    (hp : outer.elements[index]? = some placed) (he : placed.element = .pipeline nested)
    (h : nested.FilterPath inner path) : ∃ more, more ≠ [] ∧ path = Path.join more ∧
      layout.FilterPath (address ++ index :: inner) (Path.join (names ++ placed.name :: more)) := by
  obtain ⟨spec, more, hat, hmore, rfl⟩ := h
  have hinner : outer.at? (index :: inner) = some (.filter spec) := by
    refine at?_cons.mpr ⟨placed, hp, ?_⟩
    rw [he]
    exact hat
  have hnames : outer.names? (index :: inner) = some (placed.name :: more) := by
    refine names?_cons.mpr ⟨placed, more, hp, ?_, rfl⟩
    rw [he]
    exact hmore
  refine ⟨more, names_ne_nil hat hmore, rfl, spec, names ++ placed.name :: more, ?_,
    names?_append ha hn hnames, rfl⟩
  rw [at?, Element.at?_append, Option.bind_eq_some_iff]
  exact ⟨_, ha, hinner⟩

/-- Where paths run together two filters have the same path. -/
theorem exists_same_filterPath (h : ¬ layout.Unambiguous) : ∃ a b path, a ≠ b ∧
    layout.FilterPath a path ∧ layout.FilterPath b path := by
  unfold Unambiguous at h
  push Not at h
  obtain ⟨address, outer, ha, longer, hl, shorter, hs, hname, first, second, hef, hes, inner, other,
    path, hfirst, hsecond⟩ := h
  obtain ⟨names, hn, -⟩ := exists_names ha
  obtain ⟨i, hi⟩ := List.mem_iff_getElem?.mp hl
  obtain ⟨j, hj⟩ := List.mem_iff_getElem?.mp hs
  obtain ⟨ns, hns, rfl, hlong⟩ := FilterPath.below ha hn hi hef hfirst
  obtain ⟨ms, hms, hcolon, hshort⟩ := FilterPath.below ha hn hj hes hsecond
  refine ⟨_, address ++ j :: other, _, ?_, hlong, ?_⟩
  · intro he
    have hij := (List.cons.inj (List.append_cancel_left he)).1
    rw [hij, hj] at hi
    have hlen := congrArg String.length ((congrArg Placed.name (Option.some.inj hi)).trans hname)
    simp at hlen
  · have hjoin := Path.join_eq_of_colon (m := shorter.name) hns hms hcolon.symm
    rw [hname]
    have hsame : Path.join (names ++ (shorter.name ++ ":") :: ns) =
        Path.join (names ++ shorter.name :: ms) := by
      by_cases hnil : names = []
      · rw [hnil, List.nil_append, List.nil_append, hjoin]
      · rw [Path.join_append hnil (List.cons_ne_nil _ _), hjoin,
          Path.join_append hnil (List.cons_ne_nil _ _)]
    rw [hsame]
    exact hshort

/-- Paths tell the filters of a layout apart exactly when they run together nowhere. -/
theorem Constructed.filterPath_injective_iff (h : layout.Constructed) :
    (∀ a b path, layout.FilterPath a path → layout.FilterPath b path → a = b) ↔
      layout.Unambiguous := by
  constructor
  · intro hinj
    by_contra hn
    obtain ⟨a, b, path, hne, ha, hb⟩ := exists_same_filterPath hn
    exact hne (hinj a b path ha hb)
  · intro clear a b path ha hb
    exact h.eq_of_filterPath clear ha hb

/-- Paths run together nowhere if no name ends with a colon, or none begins with one. -/
theorem Constructed.unambiguous_of_names (h : layout.Constructed)
    (hcolon : (∀ address outer placed, layout.at? address = some (.pipeline outer) →
        placed ∈ outer.elements → placed.name.toList.getLast? ≠ some ':') ∨
      ∀ address outer placed, layout.at? address = some (.pipeline outer) →
        placed ∈ outer.elements → placed.name.toList.head? ≠ some ':') : layout.Unambiguous := by
  intro address outer ha hclash
  obtain ⟨longer, hl, shorter, hs, hname, first, second, -, hes, inner, other, path, -, hsecond⟩ :=
    hclash
  rcases hcolon with hlast | hhead
  · refine hlast address outer longer ha hl ?_
    rw [hname, String.toList_append]
    exact List.getLast?_concat
  · obtain ⟨j, hj⟩ := List.mem_iff_getElem?.mp hs
    have hat := at?_concat.mpr ⟨outer, shorter, ha, hj, hes⟩
    obtain ⟨i, rest, placed, names, -, hp, hpath, -⟩ := hsecond.cases
    have hm := List.mem_of_getElem? hp
    refine hhead (address ++ [j]) second placed hat hm ?_
    -- The name is not empty, so the path begins with the colon that the name begins with.
    have hadmissible := (h.at? hat).titled.admissible placed hm
    have hne := (checkName_eq_ok_iff.mp hadmissible).1
    have htext := congrArg String.toList hpath
    rw [String.toList_append, Path.toList_join_cons] at htext
    cases hn : placed.name.toList with
    | nil => exact absurd (String.toList_eq_nil_iff.mp hn) hne
    | cons c text =>
      rw [hn] at htext
      have hc : ':' = c := (List.cons.inj htext).1
      rw [List.head?_cons, ← hc]

end Paths

end Layout

end RenderGraph
