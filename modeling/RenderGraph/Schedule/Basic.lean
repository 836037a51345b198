import RenderGraph.Connection
import RenderGraph.Event
import RenderGraph.Error
import RenderGraph.Ports

/-!
# Data of a schedule

What the scheduler is given about each filter, what it decides, and the state
between two decisions. A render target is leased to the filter that writes it
until everything that reads this filter has been scheduled; then it is free for
another filter of the same format.
-/

namespace RenderGraph.Schedule

/-- What has to be known of a filter to schedule it. -/
structure Task (φ : Type) where
  /-- The path of the filter. -/
  path : String
  /-- Its input ports. -/
  inputs : Ports
  /-- Its output ports. -/
  outputs : Ports
  /-- The format of what it renders. -/
  format : φ
  /-- Its size on the device; small filters go first when several fit a free target. -/
  footprint : Nat
  deriving Repr

/-- Where a filter input or a pipeline output finds its texture. -/
inductive Binding where
  /-- The texture bound to an input of the pipeline. -/
  | input (port : Nat)
  /-- An attachment of a render target. -/
  | attachment (target index : Nat)
  deriving DecidableEq, Repr

/-- A planned render target. -/
structure Target (φ : Type) where
  /-- The format of its attachments. -/
  format : φ
  /-- The number of its attachments. -/
  attachments : Nat
  /-- The filters that render into it, in schedule order. -/
  users : List Nat
  deriving DecidableEq, Repr

/-- A planned render target during scheduling. -/
structure Lease (φ : Type) extends Target φ where
  /-- The reads of what the last user wrote that are still to come. -/
  readers : Nat
  deriving DecidableEq, Repr

/-- The state of the scheduler between two steps. -/
structure State (φ : Type) where
  /-- For each filter the number of its inputs without a texture yet, or nothing once the
  filter has become a candidate. -/
  missing : List (Option Nat)
  /-- The candidates, in the order they became ready. -/
  candidates : List Nat
  /-- The scheduled filters, in order. -/
  order : List Nat
  /-- The render target of each scheduled filter. -/
  assignments : List (Option Nat)
  /-- The sources of the inputs of each scheduled filter. -/
  bindings : List (List Binding)
  /-- The pool of render targets. -/
  leases : List (Lease φ)
  /-- What has been reported. -/
  events : List Event
  deriving Repr

/-- A complete schedule. -/
structure Solution (φ : Type) where
  /-- The filters in execution order. -/
  order : List Nat
  /-- The render target of each filter. -/
  assignments : List Nat
  /-- The sources of the inputs of each filter. -/
  bindings : List (List Binding)
  /-- The sources of the pipeline outputs. -/
  outputs : List Binding
  /-- The pool of render targets. -/
  targets : List (Target φ)
  deriving DecidableEq, Repr

end RenderGraph.Schedule
