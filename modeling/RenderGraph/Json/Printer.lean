import RenderGraph.Json.Value

/-!
# Writing JSON

A value is written without any blanks, or with one member or item to a line and
two blanks of indentation for each level. In strings the quote, the backslash
and the control characters below the blank are escaped, nothing else.
-/

namespace RenderGraph.Json

/-- The last two digits of a number in base sixteen, in lower case. -/
def twoHexDigits (n : Nat) : List Char :=
  [(n / 16 % 16).digitChar, (n % 16).digitChar]

/-- A character as it stands in a string. -/
def escapeChar (c : Char) : List Char :=
  match c with
  | '"' => ['\\', '"']
  | '\\' => ['\\', '\\']
  | '\n' => ['\\', 'n']
  | '\r' => ['\\', 'r']
  | '\t' => ['\\', 't']
  | '\x08' => ['\\', 'b']
  | '\x0c' => ['\\', 'f']
  | _ => if c.toNat < 32 then ['\\', 'u', '0', '0'] ++ twoHexDigits c.toNat else [c]

/-- A string literal. -/
def renderText (value : String) : List Char :=
  '"' :: value.toList.flatMap escapeChar ++ ['"']

/-- What stands before an item at a depth, and nothing in a text without blanks. -/
def lineBreak : Option Nat → List Char
  | none => []
  | some depth => '\n' :: List.replicate (2 * depth) ' '

/-- What stands between a key and its value. -/
def keySeparator : Option Nat → List Char
  | none => [':']
  | some _ => [':', ' ']

mutual

/-- A value whose first line stands at a depth; without a depth there are no blanks. -/
def render (depth : Option Nat) : Json → List Char
  | null => "null".toList
  | bool true => "true".toList
  | bool false => "false".toList
  | natural value => Nat.toDigits 10 value
  | decimal literal => literal.toList
  | text value => renderText value
  | unreadable => "null".toList
  | array [] => ['[', ']']
  | array items => '[' :: renderItems (depth.map (· + 1)) items ++ lineBreak depth ++ [']']
  | object [] => ['\x7b', '\x7d']
  | object members =>
    '\x7b' :: renderMembers (depth.map (· + 1)) members ++ lineBreak depth ++ ['\x7d']

/-- The items of a list at a depth. -/
def renderItems (depth : Option Nat) : List Json → List Char
  | [] => []
  | [item] => lineBreak depth ++ item.render depth
  | item :: rest => lineBreak depth ++ item.render depth ++ ',' :: renderItems depth rest

/-- The members of an object at a depth. -/
def renderMembers (depth : Option Nat) : List (String × Json) → List Char
  | [] => []
  | [(key, value)] =>
    lineBreak depth ++ renderText key ++ keySeparator depth ++ value.render depth
  | (key, value) :: rest =>
    lineBreak depth ++ renderText key ++ keySeparator depth ++ value.render depth ++
      ',' :: renderMembers depth rest

end

/-- The text of a value without blanks. -/
def compact (value : Json) : String :=
  String.ofList (value.render none)

/-- The text of a value over indented lines. -/
def pretty (value : Json) : String :=
  String.ofList (value.render (some 0))

end RenderGraph.Json
