import RenderGraph.Name

/-!
# Ports

The ordered, uniquely named ports on one side of an element or of a layout. A
port is addressed by its index or by its name.
-/

namespace RenderGraph

/-- An ordered list of port names. -/
structure Ports where
  /-- The names, in port order. -/
  names : List String := []
  deriving DecidableEq, Repr

namespace Ports

/-- The number of ports. -/
def size (ports : Ports) : Nat :=
  ports.names.length

/-- The name of the port at an index. -/
def name? (ports : Ports) (index : Nat) : Option String :=
  ports.names[index]?

/-- The index of the port with a name. -/
def indexOf? (ports : Ports) (name : String) : Option Nat :=
  ports.names.idxOf? name

/-- Appends a port, whose index is the former size. A name that cannot stand in a path or is
taken is refused. -/
def add (ports : Ports) (name : String) : Except Error Ports := do
  checkName .port name
  if name ∈ ports.names then .error (Cause.portDeclared name)
  else .ok ⟨ports.names ++ [name]⟩

/-- Appends several ports, up to the first that is refused. -/
def addAll (ports : Ports) (names : List String) : Except Error Ports :=
  names.foldlM add ports

/-- Refuses an index out of range. -/
def check (ports : Ports) (owner : String) (direction : Direction) (index : Nat) :
    Except Error Unit :=
  if index < ports.size then .ok ()
  else .error (Cause.noPort owner direction index ports.size)

/-- The index of the port with a name, which has to exist. -/
def find (ports : Ports) (owner : String) (direction : Direction) (name : String) :
    Except Error Nat :=
  match ports.indexOf? name with
  | some index => .ok index
  | none => .error (Cause.noPortNamed owner direction name)

/-- The names in parentheses. -/
def text (ports : Ports) : String :=
  "(" ++ ", ".intercalate ports.names ++ ")"

end Ports

end RenderGraph
