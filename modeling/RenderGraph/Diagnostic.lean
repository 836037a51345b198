/-!
# Findings about a layout

The lines that a check of a layout reports, one per unmet requirement, and the
lines that a failed automatic wiring reports, one per port it could not feed.
-/

namespace RenderGraph

/-- A requirement on the wiring of one port that a layout does not meet. -/
inductive Diagnostic where
  /-- An element input that no connection feeds. -/
  | inputWithoutSource (owner port : String)
  /-- An element output that no connection reads. -/
  | outputNotConnected (owner port : String)
  /-- An output of the layout itself that no connection feeds. -/
  | boundaryOutputWithoutSource (owner port : String)
  /-- An input of the layout itself that no connection reads. -/
  | boundaryInputNotConnected (owner port : String)
  deriving DecidableEq, Repr

/-- The line that reports a finding. -/
def Diagnostic.text : Diagnostic → String
  | inputWithoutSource owner port => s!"{owner}::{port} (input) has no source"
  | outputNotConnected owner port => s!"{owner}::{port} (output) is not connected"
  | boundaryOutputWithoutSource owner port => s!"pipeline output {owner}::{port} has no source"
  | boundaryInputNotConnected owner port => s!"pipeline input {owner}::{port} is not connected"

/-- A port that automatic wiring looks for a source of. -/
inductive Consumer where
  /-- An input of the named element. -/
  | elementInput (element port : String)
  /-- An output of the layout itself. -/
  | boundaryOutput (port : String)
  deriving DecidableEq, Repr

/-- The name that a source of this port has to carry. -/
def Consumer.port : Consumer → String
  | elementInput _ port => port
  | boundaryOutput port => port

/-- How a report calls the port. -/
def Consumer.label : Consumer → String
  | elementInput element port => s!"input {element}::{port}"
  | boundaryOutput port => s!"pipeline output '{port}'"

/-- Why automatic wiring finds no source for a port. -/
inductive WiringProblem where
  /-- The only port of that name is an input of the layout, which cannot feed its outputs. -/
  | onlyBoundaryInput (consumer : Consumer)
  /-- No port carries the name. -/
  | noCandidate (consumer : Consumer)
  /-- Several ports carry the name. -/
  | ambiguous (count : Nat) (consumer : Consumer)
  deriving DecidableEq, Repr

/-- The line that reports a problem. -/
def WiringProblem.text : WiringProblem → String
  | onlyBoundaryInput consumer =>
    consumer.label ++ " can only be fed by the pipeline input of the same name"
  | noCandidate consumer => s!"no source named '{consumer.port}' for {consumer.label}"
  | ambiguous count consumer =>
    s!"{count} sources named '{consumer.port}' for {consumer.label}"

end RenderGraph
