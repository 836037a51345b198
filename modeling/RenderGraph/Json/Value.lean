/-!
# JSON values

The values that documents are made of. An object keeps its members in order,
repeated keys included. A number that is not written as a plain natural number
keeps its spelling.
-/

namespace RenderGraph

/-- A JSON value. -/
inductive Json where
  /-- The value `null`. -/
  | null
  /-- A truth value. -/
  | bool (value : Bool)
  /-- A number written with digits only. -/
  | natural (value : Nat)
  /-- Any other number, as it is written. -/
  | decimal (literal : String)
  /-- A text. -/
  | text (value : String)
  /-- A string that names half a surrogate pair and so spells no text, or an object with such
  a string for a key. -/
  | unreadable
  /-- A list of values. -/
  | array (items : List Json)
  /-- A list of members, each with its key. -/
  | object (members : List (String × Json))
  deriving Inhabited, Repr

namespace Json

/-- A list of natural numbers. -/
def naturals (values : List Nat) : Json :=
  array (values.map natural)

/-- A list of texts. -/
def texts (values : List String) : Json :=
  array (values.map text)

/-- The values of all members with a key, in order. -/
def membersNamed (key : String) (members : List (String × Json)) : List Json :=
  (members.filter fun member => member.1 = key).map Prod.snd

end Json

end RenderGraph
