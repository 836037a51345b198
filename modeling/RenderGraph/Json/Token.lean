import RenderGraph.Json.Value

/-!
# Tokens of JSON texts

A JSON text is first cut into tokens; blanks between them are dropped. A string
token holds its text, or nothing when its escapes name half a surrogate pair.
Numbers follow the grammar of the format: no leading zeros, digits on both sides
of a point and after an exponent mark.
-/

namespace RenderGraph.Json

/-- A token of a JSON text. -/
inductive Token where
  /-- The bracket in front of a list. -/
  | openArray
  /-- The bracket behind a list. -/
  | closeArray
  /-- The brace in front of an object. -/
  | openObject
  /-- The brace behind an object. -/
  | closeObject
  /-- What separates items and members. -/
  | comma
  /-- What separates a key from its value. -/
  | colon
  /-- The value `null`. -/
  | null
  /-- A truth value. -/
  | bool (value : Bool)
  /-- A number written with digits only. -/
  | natural (value : Nat)
  /-- Any other number, as it is written. -/
  | decimal (literal : String)
  /-- A string with its text, or without one when it spells none. -/
  | string (text : Option String)
  deriving DecidableEq, Repr

/-- A piece of a string: a character, or a sixteen-bit unit written by its number. -/
inductive Piece where
  /-- A character that stands for itself or for a short escape. -/
  | char (c : Char)
  /-- A unit of an escaped character. -/
  | unit (value : Nat)
  deriving DecidableEq, Repr

/-- The value of a digit in base sixteen, in either case. -/
def hexDigit? (c : Char) : Option Nat :=
  if '0' ≤ c ∧ c ≤ '9' then some (c.toNat - '0'.toNat)
  else if 'a' ≤ c ∧ c ≤ 'f' then some (c.toNat - 'a'.toNat + 10)
  else if 'A' ≤ c ∧ c ≤ 'F' then some (c.toNat - 'A'.toNat + 10)
  else none

/-- The value of four digits in base sixteen. -/
def hexUnit? (a b c d : Char) : Option Nat := do
  return (((← hexDigit? a) * 16 + (← hexDigit? b)) * 16 + (← hexDigit? c)) * 16 + (← hexDigit? d)

/-- The character that a letter after a backslash stands for. -/
def shortEscape? : Char → Option Char
  | '"' => some '"'
  | '\\' => some '\\'
  | '/' => some '/'
  | 'b' => some '\x08'
  | 'f' => some '\x0c'
  | 'n' => some '\n'
  | 'r' => some '\r'
  | 't' => some '\t'
  | _ => none

/-- The pieces of a string up to its closing quote, and what follows it. -/
def readPieces : List Char → Option (List Piece × List Char)
  | [] => none
  | '"' :: rest => some ([], rest)
  | '\\' :: 'u' :: a :: b :: c :: d :: rest => do
    let value ← hexUnit? a b c d
    let (pieces, rest) ← readPieces rest
    return (.unit value :: pieces, rest)
  | '\\' :: c :: rest => do
    let escaped ← shortEscape? c
    let (pieces, rest) ← readPieces rest
    return (.char escaped :: pieces, rest)
  | c :: rest =>
    if c.toNat < 32 then none
    else do
      let (pieces, rest) ← readPieces rest
      return (.char c :: pieces, rest)

/-- Whether a unit is the first half of a surrogate pair. -/
def isLeading (value : Nat) : Bool :=
  0xd800 ≤ value && value < 0xdc00

/-- Whether a unit is the second half of a surrogate pair. -/
def isTrailing (value : Nat) : Bool :=
  0xdc00 ≤ value && value < 0xe000

/-- The text of a string, if its units pair up. -/
def spell? : List Piece → Option (List Char)
  | [] => some []
  | .char c :: rest => (spell? rest).map (c :: ·)
  | .unit value :: .unit next :: rest =>
    if isLeading value then
      if isTrailing next then
        let code := 0x10000 + (value - 0xd800) * 0x400 + (next - 0xdc00)
        (spell? rest).map (Char.ofNat code :: ·)
      else none
    else if isTrailing value then none
    else (spell? (.unit next :: rest)).map (Char.ofNat value :: ·)
  | .unit value :: rest =>
    if isLeading value || isTrailing value then none
    else (spell? rest).map (Char.ofNat value :: ·)

/-- A string token after its opening quote, and what follows it. -/
def readString (chars : List Char) : Option (Token × List Char) := do
  let (pieces, rest) ← readPieces chars
  return (.string ((spell? pieces).map String.ofList), rest)

/-- The digits at the start, of which there has to be one, and what follows them. -/
def readDigits (chars : List Char) : Option (List Char × List Char) :=
  match chars.takeWhile Char.isDigit with
  | [] => none
  | digits => some (digits, chars.dropWhile Char.isDigit)

/-- The whole part of a number. -/
def readWhole (chars : List Char) : Option (List Char × List Char) := do
  let (digits, rest) ← readDigits chars
  if digits.head? = some '0' ∧ digits.length > 1 then none else return (digits, rest)

/-- The fraction of a number, if there is one. -/
def readFraction : List Char → Option (List Char × List Char)
  | '.' :: rest => do
    let (digits, rest) ← readDigits rest
    return ('.' :: digits, rest)
  | chars => some ([], chars)

/-- The sign of an exponent, if there is one. -/
def readSign : List Char → List Char × List Char
  | '+' :: rest => (['+'], rest)
  | '-' :: rest => (['-'], rest)
  | chars => ([], chars)

/-- The exponent of a number, if there is one. -/
def readExponent (chars : List Char) : Option (List Char × List Char) :=
  match chars with
  | c :: rest =>
    if c = 'e' ∨ c = 'E' then do
      let (sign, rest) := readSign rest
      let (digits, rest) ← readDigits rest
      return (c :: sign ++ digits, rest)
    else some ([], chars)
  | [] => some ([], [])

/-- The number that digits spell. -/
def naturalOfDigits (digits : List Char) : Nat :=
  digits.foldl (fun n c => 10 * n + (c.toNat - '0'.toNat)) 0

/-- A number token, and what follows it. -/
def readNumber (chars : List Char) : Option (Token × List Char) := do
  let (minus, rest) := match chars with
    | '-' :: rest => (['-'], rest)
    | _ => ([], chars)
  let (whole, rest) ← readWhole rest
  let (fraction, rest) ← readFraction rest
  let (exponent, rest) ← readExponent rest
  if minus = [] ∧ fraction = [] ∧ exponent = [] then
    return (.natural (naturalOfDigits whole), rest)
  else
    return (.decimal (String.ofList (minus ++ whole ++ fraction ++ exponent)), rest)

/-- Whether a character may stand between tokens. -/
def isBlank (c : Char) : Bool :=
  c = ' ' || c = '\n' || c = '\t' || c = '\r'

/-- The token at the start of a text, and what follows it. -/
def readToken : List Char → Option (Token × List Char)
  | '[' :: rest => some (.openArray, rest)
  | ']' :: rest => some (.closeArray, rest)
  | '\x7b' :: rest => some (.openObject, rest)
  | '\x7d' :: rest => some (.closeObject, rest)
  | ',' :: rest => some (.comma, rest)
  | ':' :: rest => some (.colon, rest)
  | 'n' :: 'u' :: 'l' :: 'l' :: rest => some (.null, rest)
  | 't' :: 'r' :: 'u' :: 'e' :: rest => some (.bool true, rest)
  | 'f' :: 'a' :: 'l' :: 's' :: 'e' :: rest => some (.bool false, rest)
  | '"' :: rest => readString rest
  | chars => readNumber chars

/-- The tokens of a text, cut off one at a time. Each takes at least one character, so as many
rounds as there are characters are enough. -/
def tokensWithin : Nat → List Char → Option (List Token)
  | _, [] => some []
  | 0, _ :: _ => none
  | n + 1, c :: rest =>
    if isBlank c then tokensWithin n rest
    else do
      let (token, rest) ← readToken (c :: rest)
      return token :: (← tokensWithin n rest)

/-- The tokens of a text. -/
def tokens (chars : List Char) : Option (List Token) :=
  tokensWithin chars.length chars

end RenderGraph.Json
