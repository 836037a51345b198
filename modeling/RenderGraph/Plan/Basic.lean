import RenderGraph.Schedule.Basic

/-!
# Execution plans

The summary of a compiled pipeline. It refers to filters and render targets by
number only, so it can be read and written without the device.
-/

namespace RenderGraph

open Schedule (Binding)

/-- A filter of a plan. -/
structure PlannedFilter where
  /-- The number of the filter. -/
  index : Nat
  /-- Its full path. -/
  path : String
  /-- The name of its type. -/
  typeName : String
  /-- The render target it writes. -/
  target : Nat
  /-- The sources of its inputs. -/
  inputs : List Binding
  deriving DecidableEq, Repr

/-- A render target of a plan. -/
structure PlannedTarget where
  /-- The number of the target. -/
  id : Nat
  /-- Its format, as messages spell it. -/
  format : String
  /-- The number of its attachments. -/
  attachments : Nat
  /-- The filters that write it, in execution order. -/
  users : List Nat
  deriving DecidableEq, Repr

/-- An output of the pipeline. -/
structure PlannedOutput where
  /-- The name of the output. -/
  name : String
  /-- Where its texture is found. -/
  binding : Binding
  deriving DecidableEq, Repr

/-- The execution plan of a pipeline. -/
structure Plan where
  /-- The name of the pipeline. -/
  name : String
  /-- The filters, by number. -/
  filters : List PlannedFilter
  /-- The filters in execution order. -/
  schedule : List Nat
  /-- The pool of render targets. -/
  targets : List PlannedTarget
  /-- The connections between filters and with the boundary. -/
  connections : List (Connection Anchor)
  /-- The names of the pipeline inputs. -/
  inputs : List String
  /-- The outputs of the pipeline. -/
  outputs : List PlannedOutput
  deriving DecidableEq, Repr

namespace Plan

/-- The filter with a path. -/
def filter? (plan : Plan) (path : String) : Option PlannedFilter :=
  plan.filters.find? fun filter => filter.path = path

/-- The position of the filter with a path. -/
def filterIndex? (plan : Plan) (path : String) : Option Nat :=
  plan.filters.findIdx? fun filter => filter.path = path

end Plan

end RenderGraph
