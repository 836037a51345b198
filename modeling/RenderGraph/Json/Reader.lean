import RenderGraph.Json.Token

/-!
# Reading JSON

The tokens of a text drive a machine that keeps the containers that are still
open. It stands in one of a few states, each of which says what may come next,
and it ends well when one value is complete and nothing is open.
-/

namespace RenderGraph.Json

/-- A container that is still open. -/
inductive Frame where
  /-- A list with its items so far. -/
  | array (items : List Json)
  /-- An object with its members so far and the key of the next one. -/
  | object (members : List (Option String × Json)) (key : Option String)

/-- What the machine waits for. -/
inductive Reading where
  /-- A value. -/
  | value (stack : List Frame)
  /-- The first item of a list, or its end. -/
  | firstItem (stack : List Frame)
  /-- What follows an item of a list. -/
  | afterItem (stack : List Frame) (items : List Json)
  /-- The first key of an object, or its end. -/
  | firstKey (stack : List Frame)
  /-- A key of an object. -/
  | key (stack : List Frame) (members : List (Option String × Json))
  /-- The colon behind a key. -/
  | colon (stack : List Frame) (members : List (Option String × Json)) (name : Option String)
  /-- What follows a member of an object. -/
  | afterMember (stack : List Frame) (members : List (Option String × Json))
  /-- Nothing more. -/
  | finished (value : Json)

/-- The object with the given members, unless a key spells no text. -/
def ofMembers (members : List (Option String × Json)) : Json :=
  match members.mapM fun (key, value) => key.map fun text => (text, value) with
  | some members => object members
  | none => unreadable

/-- Where the machine goes with a complete value. -/
def Reading.complete (value : Json) : List Frame → Reading
  | [] => .finished value
  | .array items :: stack => .afterItem stack (items ++ [value])
  | .object members name :: stack => .afterMember stack (members ++ [(name, value)])

/-- Where the machine goes when a value has to come. -/
def readValue (stack : List Frame) : Token → Option Reading
  | .null => some (.complete null stack)
  | .bool b => some (.complete (bool b) stack)
  | .natural n => some (.complete (natural n) stack)
  | .decimal literal => some (.complete (decimal literal) stack)
  | .string (some s) => some (.complete (text s) stack)
  | .string none => some (.complete unreadable stack)
  | .openArray => some (.firstItem stack)
  | .openObject => some (.firstKey stack)
  | _ => none

/-- One step of the machine. -/
def Reading.step : Reading → Token → Option Reading
  | .value stack, token => readValue stack token
  | .firstItem stack, .closeArray => some (.complete (array []) stack)
  | .firstItem stack, token => readValue (.array [] :: stack) token
  | .afterItem stack items, .comma => some (.value (.array items :: stack))
  | .afterItem stack items, .closeArray => some (.complete (array items) stack)
  | .firstKey stack, .closeObject => some (.complete (object []) stack)
  | .firstKey stack, .string name => some (.colon stack [] name)
  | .key stack members, .string name => some (.colon stack members name)
  | .colon stack members name, .colon => some (.value (.object members name :: stack))
  | .afterMember stack members, .comma => some (.key stack members)
  | .afterMember stack members, .closeObject => some (.complete (ofMembers members) stack)
  | _, _ => none

/-- The value that some tokens spell. -/
def ofTokens? (tokens : List Token) : Option Json :=
  match tokens.foldlM Reading.step (.value []) with
  | some (.finished value) => some value
  | _ => none

/-- The value that a text spells. -/
def ofText? (text : String) : Option Json := do
  ofTokens? (← tokens text.toList)

end RenderGraph.Json
