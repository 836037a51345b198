import RenderGraph.Path
import Mathlib.Data.List.Infix

/-!
# Joined names

A name has no separator in it, but it may begin or end with a colon. Where the
names of two paths part, the joined texts are therefore the same in one case only:
one name is the other with a colon behind it, and what follows the shorter name
begins with that colon. For the same reason a text is cut where its first separator
begins, which gives joined names back unless one of them ends with a colon.
-/

namespace RenderGraph.Path

section Separators

/-- A text has a separator when two colons stand side by side. -/
theorem hasSeparator_iff {text : List Char} : hasSeparator text = true ↔ [':', ':'] <:+: text := by
  fun_induction hasSeparator text with
  | case1 rest => exact iff_of_true rfl ⟨[], rest, rfl⟩
  | case2 c rest hne ih =>
    rw [ih, List.infix_cons_iff]
    refine (or_iff_right fun hp => ?_).symm
    obtain ⟨tail, ht⟩ := hp
    have hparts := List.cons.inj ht
    exact hne tail hparts.1.symm hparts.2.symm
  | case3 => simp

/-- What a text without separators begins with has none either. -/
theorem hasSeparator_of_append {front back : List Char}
    (h : hasSeparator (front ++ back) = false) : hasSeparator back = false := by
  rw [Bool.eq_false_iff, ne_eq, hasSeparator_iff] at h ⊢
  intro hb
  exact h (hb.trans (List.suffix_append front back).isInfix)

/-- Without its first character such a text has none either. -/
theorem hasSeparator_of_cons {c : Char} {text : List Char}
    (h : hasSeparator (c :: text) = false) : hasSeparator text = false :=
  hasSeparator_of_append (show hasSeparator ([c] ++ text) = false from h)

end Separators

/-- A separator at the end makes no difference to a text without separators at its end. -/
theorem trimEnd_append_separator (text : String) : trimEnd (text ++ separator) = trimEnd text := by
  have hreverse : (text ++ separator).toList.reverse = ':' :: ':' :: text.toList.reverse := by
    rw [String.toList_append, List.reverse_append]
    rfl
  rw [trimEnd, hreverse, dropSeparators]
  rfl

section Joining

variable {n m : String} {ns ms : List String}

/-- What follows the first of several joined names. -/
def tailText (ns : List String) : List Char :=
  if ns = [] then [] else ':' :: ':' :: (join ns).toList

/-- Nothing follows a single name. -/
theorem tailText_nil : tailText [] = [] := rfl

/-- A separator and the other names follow the first name. -/
theorem tailText_of_ne_nil (h : ns ≠ []) : tailText ns = ':' :: ':' :: (join ns).toList :=
  if_neg h

/-- A path begins with its first name. -/
theorem toList_join_cons (n : String) (ns : List String) :
    (join (n :: ns)).toList = n.toList ++ tailText ns := by
  by_cases h : ns = []
  · rw [h, tailText_nil, join, String.intercalate_singleton, List.append_nil]
  · rw [tailText_of_ne_nil h, join, String.intercalate_cons_of_ne_nil h, String.toList_append,
      String.toList_append]
    simp [separator, join]

/-- Joining puts a separator between two parts of a path. -/
theorem join_append (hn : ns ≠ []) (hm : ms ≠ []) :
    join (ns ++ ms) = join ns ++ separator ++ join ms :=
  String.intercalate_append_of_ne_nil hn hm

/-- Paths that begin with the same name go on in the same way. -/
theorem join_cons_inj (hn : ns ≠ []) (hm : ms ≠ []) (h : join (n :: ns) = join (n :: ms)) :
    join ns = join ms := by
  have hl := congrArg String.toList h
  rw [toList_join_cons, toList_join_cons, List.append_cancel_left_eq, tailText_of_ne_nil hn,
    tailText_of_ne_nil hm] at hl
  exact String.toList_inj.mp (List.cons.inj (List.cons.inj hl).2).2

/-- A name that is longer than the one at which another path begins with the same text is longer
by one colon, with which the other path goes on. -/
theorem colon_of_longer (hn : hasSeparator n.toList = false) {extra : List Char}
    (he : extra ≠ []) (hl : n.toList = m.toList ++ extra) (hr : extra ++ tailText ns = tailText ms) :
    ns ≠ [] ∧ ms ≠ [] ∧ n = m ++ ":" ∧ join ms = ":" ++ join ns := by
  have hms : ms ≠ [] := by
    intro h
    rw [h, tailText_nil] at hr
    exact he (List.append_eq_nil_iff.mp hr).1
  rw [hl] at hn
  have hextra := hasSeparator_of_append hn
  rw [tailText_of_ne_nil hms] at hr
  cases extra with
  | nil => exact absurd rfl he
  | cons first more =>
    have hfirst := List.cons.inj hr
    cases more with
    | cons second more =>
      -- A second character would be the second colon of a separator inside the name.
      have hsecond := List.cons.inj hfirst.2
      rw [hfirst.1, hsecond.1] at hextra
      cases hextra
    | nil =>
      have hns : ns ≠ [] := by
        intro h
        rw [h, tailText_nil] at hfirst
        cases hfirst.2
      rw [tailText_of_ne_nil hns] at hfirst
      have htail := (List.cons.inj hfirst.2).2
      refine ⟨hns, hms, String.toList_inj.mp ?_, String.toList_inj.mp ?_⟩
      · rw [hl, hfirst.1, String.toList_append]
        rfl
      · rw [← htail, String.toList_append]
        rfl

/-- Paths whose first names differ are the same only if one of these names is the other one with
a colon behind it, and the other path goes on with that colon. -/
theorem join_eq_join (hn : hasSeparator n.toList = false) (hm : hasSeparator m.toList = false)
    (hne : n ≠ m) (h : join (n :: ns) = join (m :: ms)) :
    (ns ≠ [] ∧ ms ≠ [] ∧ n = m ++ ":" ∧ join ms = ":" ++ join ns) ∨
      (ms ≠ [] ∧ ns ≠ [] ∧ m = n ++ ":" ∧ join ns = ":" ++ join ms) := by
  have hl := congrArg String.toList h
  rw [toList_join_cons, toList_join_cons, List.append_eq_append_iff] at hl
  have hextra : ∀ {a b : String} {extra : List Char}, a ≠ b → a.toList = b.toList ++ extra →
      extra ≠ [] := by
    intro a b extra hab ha hnil
    rw [hnil, List.append_nil] at ha
    exact hab (String.toList_inj.mp ha)
  rcases hl with ⟨extra, hlong, hrest⟩ | ⟨extra, hlong, hrest⟩
  · exact Or.inr (colon_of_longer hm (hextra hne.symm hlong) hlong hrest.symm)
  · exact Or.inl (colon_of_longer hn (hextra hne hlong) hlong hrest.symm)

/-- The other way round, such paths are the same. -/
theorem join_eq_of_colon (hn : ns ≠ []) (hm : ms ≠ []) (h : join ms = ":" ++ join ns) :
    join ((m ++ ":") :: ns) = join (m :: ms) := by
  refine String.toList_inj.mp ?_
  rw [toList_join_cons, toList_join_cons, tailText_of_ne_nil hn, tailText_of_ne_nil hm, h]
  simp

end Joining

section Cutting

variable {name text rest : List Char}

/-- Names are settled if none of them ends with a colon, the last one apart. The colon would be
taken for the beginning of the separator behind it. -/
def Settled (names : List String) : Prop :=
  ∀ name ∈ names.dropLast, name.toList.getLast? ≠ some ':'

instance (names : List String) : Decidable (Settled names) :=
  inferInstanceAs (Decidable (∀ name ∈ names.dropLast, name.toList.getLast? ≠ some ':'))

/-- A separator ends an empty component. -/
theorem parts_separator (rest : List Char) : parts (':' :: ':' :: rest) = [] :: parts rest := by
  rw [parts]

/-- Any other character belongs to the first component. -/
theorem parts_cons {c : Char} (h : ¬ [':', ':'] <+: c :: rest) :
    parts (c :: rest) = (parts rest).modifyHead (List.cons c) := by
  have hne : ∀ more, c = ':' → rest = ':' :: more → False := by
    rintro more rfl rfl
    exact h ⟨more, rfl⟩
  rw [parts.eq_3 c rest hne]
  cases hp : parts rest with
  | nil => exact absurd hp (parts_ne_nil rest)
  | cons first others => rfl

/-- A text without separators is a single component. -/
theorem parts_of_whole (h : hasSeparator text = false) : parts text = [text] := by
  induction text with
  | nil => rfl
  | cons c text ih =>
    have hc : ¬ [':', ':'] <+: c :: text := by
      intro hp
      rw [hasSeparator_iff.mpr hp.isInfix] at h
      cases h
    have hw : hasSeparator text = false := hasSeparator_of_cons h
    rw [parts_cons hc, ih hw]
    rfl

/-- In front of a separator no other one begins with a character of a name that does not end with a
colon. -/
theorem not_separator_cons {c : Char} (h : hasSeparator (c :: name) = false)
    (hl : (c :: name).getLast? ≠ some ':') (rest : List Char) :
    ¬ [':', ':'] <+: c :: (name ++ ':' :: ':' :: rest) := by
  -- Two colons here would be in the name, or the name would end with the first of them.
  rintro ⟨tail, ht⟩
  obtain ⟨rfl, hd⟩ := List.cons.inj ht
  cases name with
  | nil => exact hl rfl
  | cons d name =>
    obtain ⟨rfl, -⟩ := List.cons.inj hd
    cases h

/-- A name in front of a separator is the first component if it does not end with a colon. -/
theorem parts_append (h : hasSeparator name = false) (hl : name.getLast? ≠ some ':')
    (rest : List Char) : parts (name ++ ':' :: ':' :: rest) = name :: parts rest := by
  induction name with
  | nil => exact parts_separator rest
  | cons c name ih =>
    have hw : hasSeparator name = false := hasSeparator_of_cons h
    have hlast : name.getLast? ≠ some ':' := by
      intro he
      rw [List.getLast?_cons, he] at hl
      exact hl rfl
    rw [List.cons_append, parts_cons (not_separator_cons h hl rest), ih hw hlast]
    rfl

/-- A text with a separator begins with a name and the first separator. -/
theorem exists_first_separator (h : hasSeparator text = true) :
    ∃ name rest, text = name ++ ':' :: ':' :: rest ∧ hasSeparator name = false ∧
      name.getLast? ≠ some ':' := by
  fun_induction hasSeparator text with
  | case1 rest => exact ⟨[], rest, rfl, rfl, nofun⟩
  | case2 c text hne ih =>
    obtain ⟨name, rest, rfl, hw, hl⟩ := ih h
    refine ⟨c :: name, rest, rfl, ?_, ?_⟩
    · rw [Bool.eq_false_iff, ne_eq, hasSeparator_iff, List.infix_cons_iff, not_or,
        ← hasSeparator_iff, Bool.not_eq_true]
      refine ⟨?_, hw⟩
      rintro ⟨tail, ht⟩
      obtain ⟨hc, hname⟩ := List.cons.inj ht
      rw [← hname] at hne
      exact hne _ hc.symm rfl
    · -- If nothing but a colon stood before the separator, the separator would begin with it.
      cases name with
      | nil => exact fun he => hne _ (Option.some.inj he) rfl
      | cons d name => exact hl
  | case3 => cases h

/-- A text is cut at its first separator, and what follows is cut in the same way. -/
theorem cutting_induction {motive : List Char → Prop}
    (whole : ∀ text, hasSeparator text = false → motive text)
    (separated : ∀ name rest, hasSeparator name = false → name.getLast? ≠ some ':' →
      motive rest → motive (name ++ ':' :: ':' :: rest)) (text : List Char) : motive text := by
  by_cases h : hasSeparator text = true
  · obtain ⟨name, rest, ht, hw, hl⟩ := exists_first_separator h
    have hlt : rest.length < text.length := by
      rw [ht, List.length_append, List.length_cons, List.length_cons]
      omega
    rw [ht]
    exact separated name rest hw hl (cutting_induction whole separated rest)
  · exact whole text (Bool.not_eq_true _ ▸ h)
termination_by text.length

/-- The components with separators between them are the text. None of them has a separator in it,
and none but the last one ends with a colon. -/
theorem parts_spec (text : List Char) : [':', ':'].intercalate (parts text) = text ∧
    (∀ part ∈ parts text, hasSeparator part = false) ∧
    ∀ part ∈ (parts text).dropLast, part.getLast? ≠ some ':' := by
  induction text using cutting_induction with
  | whole text h =>
    rw [parts_of_whole h]
    refine ⟨List.intercalate_singleton, fun part hp => ?_, nofun⟩
    rw [List.mem_singleton.mp hp]
    exact h
  | separated name rest hw hl ih =>
    obtain ⟨hjoin, hwhole, hlast⟩ := ih
    have hne := parts_ne_nil rest
    rw [parts_append hw hl]
    refine ⟨?_, ?_, ?_⟩
    · rw [List.intercalate_cons_of_ne_nil hne, hjoin]
      simp
    · exact List.forall_mem_cons.mpr ⟨hw, hwhole⟩
    · rw [List.dropLast_cons_of_ne_nil hne]
      exact List.forall_mem_cons.mpr ⟨hl, hlast⟩

/-- Components without separators in them are found again in the text they form if none of them
ends with a colon, the last one apart. -/
theorem parts_intercalate {found : List (List Char)} (hne : found ≠ [])
    (hw : ∀ part ∈ found, hasSeparator part = false)
    (hl : ∀ part ∈ found.dropLast, part.getLast? ≠ some ':') :
    parts ([':', ':'].intercalate found) = found := by
  induction found with
  | nil => exact absurd rfl hne
  | cons name others ih =>
    obtain ⟨hname, hothers⟩ := List.forall_mem_cons.mp hw
    by_cases h : others = []
    · rw [h, List.intercalate_singleton, parts_of_whole hname]
    · rw [List.dropLast_cons_of_ne_nil h] at hl
      obtain ⟨hlast, hl⟩ := List.forall_mem_cons.mp hl
      rw [List.intercalate_cons_of_ne_nil h, List.append_assoc]
      have hp := parts_append hname hlast ([':', ':'].intercalate others)
      rw [ih h hothers hl] at hp
      exact hp

/-- The components of a text are the only ones that form it without a separator in one of them and
without a colon at the end of one, the last one apart. -/
theorem parts_eq_iff {found : List (List Char)} : parts text = found ↔
    found ≠ [] ∧ [':', ':'].intercalate found = text ∧
      (∀ part ∈ found, hasSeparator part = false) ∧
      ∀ part ∈ found.dropLast, part.getLast? ≠ some ':' := by
  constructor
  · rintro rfl
    exact ⟨parts_ne_nil text, parts_spec text⟩
  · rintro ⟨hne, rfl, hw, hl⟩
    exact parts_intercalate hne hw hl

/-- The components of a path are those of its text, none of which may be empty. -/
theorem components?_eq_some_iff_parts {path : String} {names : List String} :
    components? path = some names ↔
      parts path.toList = names.map String.toList ∧ ∀ name ∈ names, name ≠ "" := by
  have hback : (names.map String.toList).map String.ofList = names := by
    simp [Function.comp_def]
  simp only [components?, List.any_eq_true, List.isEmpty_iff]
  constructor
  · intro h
    split at h
    case isTrue => cases h
    case isFalse hempty =>
      obtain rfl := Option.some.inj h
      refine ⟨by simp [Function.comp_def], fun name hn he => ?_⟩
      obtain ⟨part, hp, rfl⟩ := List.mem_map.mp hn
      exact hempty ⟨part, hp, String.ofList_eq_empty_iff.mp he⟩
  · rintro ⟨hp, hne⟩
    rw [hp, if_neg, hback]
    rintro ⟨part, hm, rfl⟩
    obtain ⟨name, hn, he⟩ := List.mem_map.mp hm
    exact hne name hn (String.toList_eq_nil_iff.mp he)

/-- A path is refused when one of the components of its text is empty. -/
theorem components?_eq_none_iff {path : String} :
    components? path = none ↔ [] ∈ parts path.toList := by
  simp [components?]

/-- The components of a path are names that it joins. None of them is empty or has a separator in
it, and they are settled. -/
theorem components?_eq_some_iff {path : String} {names : List String} :
    components? path = some names ↔ names ≠ [] ∧ join names = path ∧
      (∀ name ∈ names, name ≠ "" ∧ hasSeparator name.toList = false) ∧ Settled names := by
  have hjoin : [':', ':'].intercalate (names.map String.toList) = path.toList ↔
      join names = path := by
    rw [← String.toList_inj, join, String.toList_intercalate]
    rfl
  rw [components?_eq_some_iff_parts, parts_eq_iff, hjoin, ne_eq, List.map_eq_nil_iff,
    List.forall_mem_map, ← List.map_dropLast, List.forall_mem_map]
  constructor
  · rintro ⟨⟨hne, hj, hw, hs⟩, he⟩
    exact ⟨hne, hj, fun name hn => ⟨he name hn, hw name hn⟩, hs⟩
  · rintro ⟨hne, hj, hn, hs⟩
    exact ⟨⟨hne, hj, fun name hm => (hn name hm).2, hs⟩, fun name hm => (hn name hm).1⟩

end Cutting

end RenderGraph.Path
