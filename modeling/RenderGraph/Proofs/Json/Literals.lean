import RenderGraph.Json.Printer
import RenderGraph.Json.Token

/-!
# Literals that are read back

A string literal is read back as its text, whatever characters the text has, and the
digits of a natural number are read back as the number if something that cannot
prolong it follows.
-/

namespace RenderGraph.Json

section Strings

/-- The piece that a character of a text becomes when it is written and read. -/
def pieceOf (c : Char) : Piece :=
  if c.toNat < 32 ∧ c ∉ ['\n', '\r', '\t', '\x08', '\x0c'] then .unit c.toNat else .char c

/-- Two digits behind two zeros are the number of a control character. -/
theorem hexUnit?_twoHexDigits {n : Nat} (h : n < 32) :
    hexUnit? '0' '0' (n / 16 % 16).digitChar (n % 16).digitChar = some n := by
  have hall : ∀ n < 32, hexUnit? '0' '0' (n / 16 % 16).digitChar (n % 16).digitChar = some n := by
    decide
  exact hall n h

/-- A character as it stands in a string is read as its piece. -/
theorem readPieces_escapeChar (c : Char) (rest : List Char) :
    readPieces (escapeChar c ++ rest) =
      (readPieces rest).map fun (pieces, more) => (pieceOf c :: pieces, more) := by
  have hshort : ∀ letter escaped : Char, letter ≠ 'u' → shortEscape? letter = some escaped →
      readPieces ('\\' :: letter :: rest) =
        (readPieces rest).map fun (pieces, more) => (.char escaped :: pieces, more) := by
    intro letter escaped hu he
    rw [readPieces]
    · simp only [he, Option.bind_eq_bind, Option.bind_some]
      cases readPieces rest <;> rfl
    · exact fun _ _ _ _ _ h => absurd h hu
  unfold escapeChar
  split
  case h_1 => exact hshort '"' _ (by decide) rfl
  case h_2 => exact hshort '\\' _ (by decide) rfl
  case h_3 => exact hshort 'n' _ (by decide) rfl
  case h_4 => exact hshort 'r' _ (by decide) rfl
  case h_5 => exact hshort 't' _ (by decide) rfl
  case h_6 => exact hshort 'b' _ (by decide) rfl
  case h_7 => exact hshort 'f' _ (by decide) rfl
  case h_8 hquote hslash hn hr ht hb hf =>
    by_cases hlow : c.toNat < 32
    · have hpiece : pieceOf c = .unit c.toNat := by
        refine if_pos ⟨hlow, ?_⟩
        simp only [List.mem_cons, List.not_mem_nil, or_false, not_or]
        exact ⟨hn, hr, ht, hb, hf⟩
      rw [if_pos hlow, hpiece, twoHexDigits]
      simp only [List.cons_append, List.nil_append, readPieces, hexUnit?_twoHexDigits hlow,
        Option.bind_eq_bind, Option.bind_some]
      cases readPieces rest <;> rfl
    · have hpiece : pieceOf c = .char c := by simp [pieceOf, hlow]
      rw [if_neg hlow, hpiece, List.singleton_append, readPieces]
      · rw [if_neg hlow]
        cases readPieces rest <;> rfl
      · exact hquote
      · exact fun _ _ _ _ _ h => absurd h hslash
      · exact fun _ _ h => absurd h hslash

/-- A unit that is no half of a surrogate pair spells its character. -/
theorem spell?_unit {value : Nat} (h : value < 0xd800) (pieces : List Piece) :
    spell? (.unit value :: pieces) = (spell? pieces).map (Char.ofNat value :: ·) := by
  have hleading : isLeading value = false := by simp [isLeading]; omega
  have htrailing : isTrailing value = false := by simp [isTrailing]; omega
  cases pieces with
  | nil => simp [spell?, hleading, htrailing]
  | cons piece pieces => cases piece <;> simp [spell?, hleading, htrailing]

/-- The pieces of a text spell it. -/
theorem spell?_pieceOf (cs : List Char) : spell? (cs.map pieceOf) = some cs := by
  induction cs with
  | nil => rfl
  | cons c cs ih =>
    rw [List.map_cons, pieceOf]
    split
    case isTrue h =>
      rw [spell?_unit (Nat.lt_trans h.1 (by decide)), ih, Char.ofNat_toNat]
      rfl
    case isFalse =>
      rw [spell?, ih]
      rfl

/-- A string literal is read back as its text. -/
theorem readString_escaped (value : String) (rest : List Char) :
    readString (value.toList.flatMap escapeChar ++ '"' :: rest) =
      some (.string (some value), rest) := by
  have hpieces : ∀ cs : List Char, readPieces (cs.flatMap escapeChar ++ '"' :: rest) =
      some (cs.map pieceOf, rest) := by
    intro cs
    induction cs with
    | nil => rfl
    | cons c cs ih =>
      rw [List.flatMap_cons, List.append_assoc, readPieces_escapeChar, ih]
      rfl
  rw [readString, hpieces]
  simp [spell?_pieceOf]

end Strings

section Numbers

/-- What can follow a value in a document: nothing, a blank, a comma or a closing bracket. -/
def Ends (rest : List Char) : Prop :=
  ∀ c ∈ rest.head?, c ∈ [' ', '\n', ',', ']', '\x7d']

/-- A character that can follow a value does so whatever comes behind it. -/
theorem ends_cons {c : Char} (h : c ∈ [' ', '\n', ',', ']', '\x7d']) (rest : List Char) :
    Ends (c :: rest) := by
  intro d hd
  rwa [← Option.some.inj hd]

/-- What follows a value does not prolong a number. -/
theorem Ends.not_isDigit {c : Char} {rest : List Char} (h : Ends (c :: rest)) :
    c.isDigit = false := by
  have hc := h c rfl
  simp only [List.mem_cons, List.not_mem_nil, or_false] at hc
  rcases hc with rfl | rfl | rfl | rfl | rfl <;> rfl

/-- It begins neither a fraction nor an exponent. -/
theorem Ends.readExponent {rest : List Char} (h : Ends rest) :
    readFraction rest = some ([], rest) ∧ readExponent rest = some ([], rest) := by
  cases rest with
  | nil => exact ⟨rfl, rfl⟩
  | cons c rest =>
    have hc := h c rfl
    simp only [List.mem_cons, List.not_mem_nil, or_false] at hc
    rcases hc with rfl | rfl | rfl | rfl | rfl <;> exact ⟨rfl, rfl⟩

/-- Digits are read up to their end. -/
theorem readDigits_append {digits rest : List Char} (hne : digits ≠ [])
    (hd : ∀ c ∈ digits, c.isDigit = true) (h : Ends rest) :
    readDigits (digits ++ rest) = some (digits, rest) := by
  have hrest : rest.takeWhile Char.isDigit = [] ∧ rest.dropWhile Char.isDigit = rest := by
    cases rest with
    | nil => exact ⟨rfl, rfl⟩
    | cons c rest => simp [h.not_isDigit]
  have htake : (digits ++ rest).takeWhile Char.isDigit = digits := by
    rw [List.takeWhile_append_of_pos hd, hrest.1, List.append_nil]
  have hdrop : (digits ++ rest).dropWhile Char.isDigit = rest := by
    rw [List.dropWhile_append_of_pos hd, hrest.2]
  unfold readDigits
  rw [htake, hdrop]
  cases digits with
  | nil => exact absurd rfl hne
  | cons c digits => rfl

/-- Only the digits of zero begin with a zero. -/
theorem head?_toDigits {n : Nat} (h : n ≠ 0) : (Nat.toDigits 10 n).head? ≠ some '0' := by
  have hdigit : ∀ d < 10, d ≠ 0 → d.digitChar ≠ '0' := by decide
  induction n using Nat.strongRecOn with
  | ind n ih =>
    rw [Nat.toDigits_eq_if (by decide)]
    split
    case isTrue hlt => simpa using hdigit n hlt h
    case isFalse hge =>
      have hfront := ih (n / 10) (by omega) (by omega)
      cases hd : Nat.toDigits 10 (n / 10) with
      | nil => exact absurd hd Nat.toDigits_ne_nil
      | cons c digits => rwa [hd] at hfront

/-- The digits of a natural number are read back as the number. -/
theorem readNumber_toDigits (n : Nat) {rest : List Char} (h : Ends rest) :
    readNumber (Nat.toDigits 10 n ++ rest) = some (.natural n, rest) := by
  have hd : ∀ c ∈ Nat.toDigits 10 n, c.isDigit = true :=
    fun c hc => Nat.isDigit_of_mem_toDigits (by decide) (by decide) hc
  have hread := readDigits_append Nat.toDigits_ne_nil hd h
  have hvalue : naturalOfDigits (Nat.toDigits 10 n) = n :=
    Nat.ofDigitChars_toDigits (by decide) (by decide)
  have hzero : ¬ ((Nat.toDigits 10 n).head? = some '0' ∧ (Nat.toDigits 10 n).length > 1) := by
    rintro ⟨hhead, hlong⟩
    by_cases hn : n = 0
    · rw [hn] at hlong
      exact absurd hlong (by decide)
    · exact head?_toDigits hn hhead
  have hwhole : readWhole (Nat.toDigits 10 n ++ rest) = some (Nat.toDigits 10 n, rest) := by
    rw [readWhole, hread]
    simp only [Option.bind_eq_bind, Option.bind_some, if_neg hzero]
    rfl
  obtain ⟨hfraction, hexponent⟩ := h.readExponent
  obtain ⟨c, digits, hc⟩ := List.exists_cons_of_ne_nil (Nat.toDigits_ne_nil (n := n) (b := 10))
  have hminus : c ≠ '-' := by
    rintro rfl
    exact absurd (hd '-' (hc ▸ List.mem_cons_self)) (by decide)
  rw [hc] at hwhole hvalue ⊢
  unfold readNumber
  simp only [List.cons_append] at hwhole ⊢
  split
  case h_1 more he => exact absurd (List.cons.inj he).1 hminus
  case h_2 =>
    simp only [hwhole, hfraction, hexponent, Option.bind_eq_bind, Option.bind_some, hvalue,
      and_self, if_true]
    rfl

end Numbers

end RenderGraph.Json
