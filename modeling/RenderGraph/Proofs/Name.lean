import RenderGraph.Name
import RenderGraph.Proofs.Path

/-!
# Cutting a path into names

A path is cut from the left: at its first separator, then at the first one that
begins behind it, and so on. A separator that overlaps one of these is no cut. The
pieces between the cuts are admissible names unless one of them is empty, and they
spell the path.
-/

namespace RenderGraph

/-- A name is admissible when it is not empty and has no separator in it. -/
theorem checkName_eq_ok_iff {bearer : Named} {name : String} :
    checkName bearer name = .ok () ↔ name ≠ "" ∧ Path.hasSeparator name.toList = false := by
  unfold checkName
  by_cases he : name = ""
  · simp [he]
  · by_cases hs : Path.hasSeparator name.toList <;> simp [he, hs]

/-- A path is accepted as the admissible names that it joins, if they are settled. -/
theorem splitPath_eq_ok_iff {path : String} {names : List String} :
    splitPath path = .ok names ↔ names ≠ [] ∧ Path.join names = path ∧
      (∀ name ∈ names, checkName .element name = .ok ()) ∧ Path.Settled names := by
  simp only [checkName_eq_ok_iff, ← Path.components?_eq_some_iff]
  rw [splitPath]
  cases Path.components? path with
  | none => simp
  | some components => simp

namespace Path

variable {text name rest : List Char} {start position other : Nat}
  {pieces others : List (List Char)}

section Separators

/-- A separator begins at a position of a text. -/
def SeparatorAt (text : List Char) (position : Nat) : Prop :=
  separator.toList <+: text.drop position

/-- The first separator that begins at a position or behind it. -/
structure NextSeparator (text : List Char) (start position : Nat) : Prop where
  /-- It does not begin before the start. -/
  start_le : start ≤ position
  /-- It is a separator. -/
  separator : SeparatorAt text position
  /-- No other one begins in between. -/
  least : ∀ earlier, start ≤ earlier → earlier < position → ¬ SeparatorAt text earlier

/-- The separators at which a text is cut from a position on: the first one, and then always the
first one behind the one before. -/
inductive Cut (text : List Char) (start : Nat) : Nat → Prop
  /-- The first separator is a cut. -/
  | first {position : Nat} : NextSeparator text start position → Cut text start position
  /-- The first separator behind a cut is one. -/
  | next {position other : Nat} : Cut text start position →
    NextSeparator text (position + 2) other → Cut text start other

/-- The pieces of a text from a position on. -/
inductive Pieces (text : List Char) : Nat → List (List Char) → Prop
  /-- What no separator follows is a single piece. -/
  | last {start : Nat} : (∀ position, start ≤ position → ¬ SeparatorAt text position) →
    Pieces text start [text.drop start]
  /-- A piece ends where the next separator begins, and the others follow behind it. -/
  | cut {start position : Nat} {others : List (List Char)} :
    NextSeparator text start position → Pieces text (position + 2) others →
    Pieces text start ((text.drop start).take (position - start) :: others)

/-- A separator begins where two colons stand side by side. -/
theorem separatorAt_iff : SeparatorAt text position ↔ [':', ':'] <+: text.drop position :=
  Iff.rfl

/-- A separator lies within the text. -/
theorem SeparatorAt.le_length (h : SeparatorAt text position) : position + 2 ≤ text.length := by
  have hl : 2 ≤ (text.drop position).length := (separatorAt_iff.mp h).length_le
  rw [List.length_drop] at hl
  omega

/-- What stands before a text only shifts its separators. -/
theorem separatorAt_append (front : List Char) :
    SeparatorAt (front ++ text) (front.length + position) ↔ SeparatorAt text position := by
  rw [SeparatorAt, List.drop_length_add_append, SeparatorAt]

/-- A text without separators has none at any position. -/
theorem not_separatorAt (h : hasSeparator text = false) : ¬ SeparatorAt text position := by
  intro hp
  have hinfix := (separatorAt_iff.mp hp).isInfix.trans (List.drop_suffix _ _).isInfix
  rw [hasSeparator_iff.mpr hinfix] at h
  cases h

/-- There is only one next separator. -/
theorem NextSeparator.unique (h : NextSeparator text start position)
    (k : NextSeparator text start other) : position = other := by
  by_contra hne
  rcases Nat.lt_or_gt_of_ne hne with hlt | hlt
  · exact k.least position h.start_le hlt h.separator
  · exact h.least other k.start_le hlt k.separator

/-- The first separator of a text begins behind a name that does not end with a colon. -/
theorem nextSeparator_append (front : List Char) (hw : hasSeparator name = false)
    (hl : name.getLast? ≠ some ':') (rest : List Char) :
    NextSeparator (front ++ (name ++ ':' :: ':' :: rest)) front.length
      (front.length + name.length) where
  start_le := Nat.le_add_right _ _
  separator := by
    rw [separatorAt_append, separatorAt_iff, List.drop_left]
    exact ⟨rest, rfl⟩
  least := by
    intro earlier hs he
    obtain ⟨offset, rfl⟩ := Nat.exists_eq_add_of_le hs
    have hlt : offset < name.length := by omega
    have hsplit := List.take_append_drop offset name
    have hlast : (name.drop offset).getLast? ≠ some ':' := by
      rwa [List.getLast?_drop, if_neg (by omega)]
    rw [← hsplit] at hw
    have hwhole := hasSeparator_of_append hw
    rw [separatorAt_append, separatorAt_iff, List.drop_append_of_le_length hlt.le]
    rw [List.drop_eq_getElem_cons hlt] at hlast hwhole ⊢
    exact not_separator_cons hwhole hlast rest

end Separators

section Cutting

/-- The components of a text are its pieces, whatever stands before the text. -/
theorem pieces_parts (front text : List Char) :
    Pieces (front ++ text) front.length (parts text) := by
  induction text using cutting_induction generalizing front with
  | whole text h =>
    rw [parts_of_whole h]
    have hdrop : (front ++ text).drop front.length = text := List.drop_left
    have hlast : Pieces (front ++ text) front.length [(front ++ text).drop front.length] := by
      refine .last fun position hp => ?_
      obtain ⟨offset, rfl⟩ := Nat.exists_eq_add_of_le hp
      rw [separatorAt_append]
      exact not_separatorAt h
    rwa [hdrop] at hlast
  | separated name rest hw hl ih =>
    rw [parts_append hw hl]
    have hnext := nextSeparator_append front hw hl rest
    have hrest := ih (front ++ name ++ [':', ':'])
    have htext : front ++ name ++ [':', ':'] ++ rest = front ++ (name ++ ':' :: ':' :: rest) := by
      simp
    have hbehind : (front ++ name ++ [':', ':']).length = front.length + name.length + 2 := by
      simp [Nat.add_assoc]
    rw [htext, hbehind] at hrest
    have hpieces := Pieces.cut hnext hrest
    rwa [List.drop_left, Nat.add_sub_cancel_left, List.take_left] at hpieces

/-- A text has only one list of pieces. -/
theorem Pieces.unique (h : Pieces text start pieces) (k : Pieces text start others) :
    pieces = others := by
  induction h generalizing others with
  | last hnone =>
    cases k with
    | last => rfl
    | cut hnext _ => exact absurd hnext.separator (hnone _ hnext.start_le)
  | cut hnext _ ih =>
    cases k with
    | last hnone => exact absurd hnext.separator (hnone _ hnext.start_le)
    | cut hother hrest =>
      obtain rfl := hnext.unique hother
      rw [ih hrest]

/-- The cuts are the next separator and the cuts behind it. -/
theorem cut_iff (h : NextSeparator text start position) :
    Cut text start other ↔ other = position ∨ Cut text (position + 2) other := by
  constructor
  · intro hcut
    induction hcut with
    | first hnext => exact .inl (hnext.unique h)
    | next _ hnext ih =>
      rcases ih with rfl | hcut
      · exact .inr (.first hnext)
      · exact .inr (.next hcut hnext)
  · rintro (rfl | hcut)
    · exact .first h
    · induction hcut with
      | first hnext => exact .next (.first h) hnext
      | next _ hnext ih => exact .next ih hnext

/-- No cut lies before the position from which the text is cut. -/
theorem Cut.start_le (h : Cut text start position) : start ≤ position := by
  induction h with
  | first hnext => exact hnext.start_le
  | next _ hnext ih =>
    have hle := hnext.start_le
    omega

/-- A text is cut where it begins exactly if it begins with a separator. -/
theorem cut_start_iff : Cut text start start ↔ SeparatorAt text start := by
  constructor
  · intro h
    cases h with
    | first hnext => exact hnext.separator
    | next hcut hnext =>
      have hle := hcut.start_le
      have hlt := hnext.start_le
      omega
  · intro h
    exact .first ⟨Nat.le_refl _, h, fun earlier hs he => absurd he (by omega)⟩

/-- Two cuts in a row are the next separator and one right behind it, or two further ones. -/
theorem exists_row_iff (h : NextSeparator text start position) :
    (∃ cut, Cut text start cut ∧ Cut text start (cut + 2)) ↔ SeparatorAt text (position + 2) ∨
      ∃ cut, Cut text (position + 2) cut ∧ Cut text (position + 2) (cut + 2) := by
  have hsecond : ∀ cut, position ≤ cut →
      (Cut text start (cut + 2) ↔ Cut text (position + 2) (cut + 2)) := by
    intro cut hle
    rw [cut_iff h, or_iff_right (by omega)]
  constructor
  · rintro ⟨cut, hcut, hrow⟩
    rcases (cut_iff h).mp hcut with rfl | hbehind
    · exact .inl (cut_start_iff.mp ((hsecond cut (Nat.le_refl _)).mp hrow))
    · have hle := hbehind.start_le
      exact .inr ⟨cut, hbehind, (hsecond cut (by omega)).mp hrow⟩
  · rintro (hrow | ⟨cut, hcut, hrow⟩)
    · exact ⟨position, .first h, (hsecond position (Nat.le_refl _)).mpr (cut_start_iff.mpr hrow)⟩
    · have hle := hcut.start_le
      exact ⟨cut, (cut_iff h).mpr (.inr hcut), (hsecond cut (by omega)).mpr hrow⟩

/-- One of the pieces is empty exactly if the text is empty, begins with a separator, ends with a
cut or has two cuts in a row. -/
theorem Pieces.empty_iff (h : Pieces text start pieces) (hs : start ≤ text.length) :
    [] ∈ pieces ↔ start = text.length ∨ SeparatorAt text start ∨
      (∃ cut, Cut text start cut ∧ cut + 2 = text.length) ∨
      ∃ cut, Cut text start cut ∧ Cut text start (cut + 2) := by
  induction h with
  | @last start hnone =>
    have hno : ∀ cut, ¬ Cut text start cut := by
      intro cut hcut
      induction hcut with
      | first hnext => exact hnone _ hnext.start_le hnext.separator
      | next _ _ ih => exact ih
    have hstart := hnone start (Nat.le_refl _)
    simp only [hno, hstart, false_and, exists_false, or_false]
    rw [List.mem_singleton, eq_comm, List.drop_eq_nil_iff]
    omega
  | @cut start position others hnext hrest ih =>
    have hle := hnext.start_le
    have hfits := hnext.separator.le_length
    have hpiece : (text.drop start).take (position - start) = [] ↔ SeparatorAt text start := by
      rw [List.take_eq_nil_iff, List.drop_eq_nil_iff, or_iff_left (by omega)]
      constructor
      · intro hzero
        have hstart : start = position := Nat.le_antisymm hle (by omega)
        exact hstart ▸ hnext.separator
      · intro hsep
        by_contra hne
        exact hnext.least start (Nat.le_refl _) (by omega) hsep
    have hend : (∃ cut, Cut text start cut ∧ cut + 2 = text.length) ↔ position + 2 = text.length ∨
        ∃ cut, Cut text (position + 2) cut ∧ cut + 2 = text.length := by
      simp only [cut_iff hnext, or_and_right, exists_or, exists_eq_left]
    rw [List.mem_cons, eq_comm, hpiece, ih hfits, hend, exists_row_iff hnext,
      or_iff_right (show ¬ start = text.length by omega)]
    simp only [or_assoc, or_left_comm]

end Cutting

end Path

/-- A path is cut into pieces in one way only. Either none of the pieces is empty; then they are
admissible names, at least one, and they spell the path. Or one of them is empty, and the path is
refused with a runtime error. This happens to the empty path and to a path that begins with a
separator, that ends where it is cut or that is cut twice in a row. -/
theorem splitPath_spells (path : String) : ∃ pieces : List (List Char),
    (∀ others, Path.Pieces path.toList 0 others ↔ others = pieces) ∧
    ((∃ names, splitPath path = .ok names ∧ names.map String.toList = pieces ∧ names ≠ [] ∧
        Path.join names = path ∧
        ∀ name ∈ names, name ≠ "" ∧ ¬ Path.separator.toList <:+: name.toList ∧
          ∀ bearer, checkName bearer name = .ok ()) ∨
      ∃ error, splitPath path = .error error ∧ error = Cause.invalidPath path ∧
        error.kind = .runtime) ∧
    ((∃ error, splitPath path = .error error) ↔ [] ∈ pieces) ∧
    ([] ∈ pieces ↔ path = "" ∨ Path.separator.toList <+: path.toList ∨
      (∃ cut, Path.Cut path.toList 0 cut ∧ cut + 2 = path.toList.length) ∨
      ∃ cut, Path.Cut path.toList 0 cut ∧ Path.Cut path.toList 0 (cut + 2)) := by
  have hpieces : Path.Pieces path.toList 0 (Path.parts path.toList) :=
    Path.pieces_parts [] path.toList
  refine ⟨Path.parts path.toList, ?unique, ?outcome, ?refused, ?empty⟩
  case unique =>
    intro others
    refine ⟨fun h => h.unique hpieces, ?_⟩
    rintro rfl
    exact hpieces
  case outcome =>
    rw [splitPath]
    cases hc : Path.components? path with
    | none => exact .inr ⟨_, rfl, rfl, rfl⟩
    | some names =>
      obtain ⟨hparts, -⟩ := Path.components?_eq_some_iff_parts.mp hc
      obtain ⟨hne, hjoin, hnames, -⟩ := Path.components?_eq_some_iff.mp hc
      refine .inl ⟨names, rfl, hparts.symm, hne, hjoin, fun name hn => ?_⟩
      obtain ⟨hfull, hwhole⟩ := hnames name hn
      refine ⟨hfull, fun hinfix => ?_, fun bearer => checkName_eq_ok_iff.mpr ⟨hfull, hwhole⟩⟩
      rw [Path.hasSeparator_iff.mpr hinfix] at hwhole
      cases hwhole
  case refused =>
    rw [← Path.components?_eq_none_iff, splitPath]
    cases Path.components? path <;> simp
  case empty =>
    rw [hpieces.empty_iff (Nat.zero_le _), Path.separatorAt_iff, List.drop_zero, eq_comm,
      List.length_eq_zero_iff, String.toList_eq_nil_iff]
    rfl

/-- Of three colons the first two are the cut, so the names need not be those that were joined. -/
example : splitPath "a:::b" = .ok ["a", ":b"] := rfl

end RenderGraph
