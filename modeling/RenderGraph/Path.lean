/-!
# Element paths

A path names an element of a nested layout by the element names that lead to
it, outermost first, with two colons between them. Paths are cut greedily from
the left: of three colons in a row the first two are the separator and the
third belongs to the next component. A path with an empty component is refused.
-/

namespace RenderGraph.Path

/-- The text between two components of a path. -/
def separator : String := "::"

/-- Whether two colons stand side by side somewhere in the text. -/
def hasSeparator : List Char → Bool
  | ':' :: ':' :: _ => true
  | _ :: rest => hasSeparator rest
  | [] => false

/-- Cuts a text at its separators, from the left. -/
def parts : List Char → List (List Char)
  | [] => [[]]
  | ':' :: ':' :: rest => [] :: parts rest
  | c :: rest =>
    match parts rest with
    | [] => [[c]]
    | first :: others => (c :: first) :: others

/-- There is always a first component, possibly empty. -/
theorem parts_ne_nil (text : List Char) : parts text ≠ [] := by
  fun_cases parts text <;> simp_all

/-- The components of a path, or nothing when one of them is empty. -/
def components? (path : String) : Option (List String) :=
  let found := parts path.toList
  if found.any List.isEmpty then none else some (found.map String.ofList)

/-- The path that names the given components. -/
def join (components : List String) : String :=
  separator.intercalate components

/-- Drops every separator that a reversed text starts with. -/
def dropSeparators : List Char → List Char
  | ':' :: ':' :: rest => dropSeparators rest
  | text => text

/-- The text without the separators at its end. -/
def trimEnd (text : String) : String :=
  String.ofList (dropSeparators text.toList.reverse).reverse

end RenderGraph.Path
