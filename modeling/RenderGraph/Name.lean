import RenderGraph.Path
import RenderGraph.Error

/-!
# Names

A name of a port or of an element must not be empty and must not contain the
path separator. The components of an accepted path are therefore exactly the
names that can occur in a layout, and paths need no escapes.
-/

namespace RenderGraph

/-- Refuses a name that cannot stand in a path. -/
def checkName (bearer : Named) (name : String) : Except Error Unit :=
  if name.isEmpty then .error (Cause.emptyName bearer)
  else if Path.hasSeparator name.toList then .error (Cause.separatorInName bearer name)
  else .ok ()

/-- The components of a path, none of which may be empty. -/
def splitPath (path : String) : Except Error (List String) :=
  match Path.components? path with
  | some components => .ok components
  | none => .error (Cause.invalidPath path)

end RenderGraph
