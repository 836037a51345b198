import RenderGraph.Diagnostic
import RenderGraph.Text.Quoted

/-!
# Failures

A failure is a cause together with the operations during which it arose. The
cause alone decides the category: an operation that reports a failure of a step
only adds itself to the description. The wording of every failure stands here.
-/

namespace RenderGraph

/-- The category of a failure. -/
inductive Kind where
  /-- The description of the graph is malformed. -/
  | configuration
  /-- No execution plan could be found. -/
  | build
  /-- A call has the wrong arguments or names something unknown. -/
  | runtime
  /-- The device reported a failure. -/
  | device
  deriving DecidableEq, Repr

/-- How messages call a category. -/
def Kind.text : Kind → String
  | configuration => "configuration error"
  | build => "build error"
  | runtime => "runtime error"
  | device => "device error"

/-- What a name is given to. -/
inductive Named where
  /-- A port of a filter or of a layout. -/
  | port
  /-- An element of a layout. -/
  | element
  deriving DecidableEq, Repr

/-- How messages call a bearer of names. -/
def Named.text : Named → String
  | port => "port"
  | element => "element"

/-- The side of an element or of a layout that a port belongs to. -/
inductive Direction where
  /-- Ports that receive a texture. -/
  | input
  /-- Ports that provide a texture. -/
  | output
  deriving DecidableEq, Repr

/-- How messages call a side. -/
def Direction.text : Direction → String
  | input => "input"
  | output => "output"

/-- What went wrong. -/
inductive Cause where
  /-- A name is empty. -/
  | emptyName (bearer : Named)
  /-- A name contains the path separator. -/
  | separatorInName (bearer : Named) (name : String)
  /-- A list of ports has the name already. -/
  | portDeclared (name : String)
  /-- A path has an empty component. -/
  | invalidPath (path : String)
  /-- A port index is out of range. -/
  | noPort (owner : String) (direction : Direction) (index count : Nat)
  /-- No port has the name. -/
  | noPortNamed (owner : String) (direction : Direction) (name : String)
  /-- A layout has an element of that name already. -/
  | elementExists (name layout : String)
  /-- An element index is out of range. -/
  | noElement (layout : String) (index count : Nat)
  /-- No element has the name. -/
  | noElementNamed (layout name : String)
  /-- A path leads through a filter. -/
  | filterInPath (component path : String)
  /-- Both ends of a connection are the boundary of the layout. -/
  | inputToOutput (layout : String)
  /-- The destination has a source already. -/
  | alreadyConnected (destination : String)
  /-- Automatic wiring failed. -/
  | autoConnect (layout : String) (problems : List WiringProblem)
  /-- A port that was asked for its source has none. -/
  | noSource (destination : String)
  /-- A check found unmet requirements. -/
  | invalidLayout (layout : String) (diagnostics : List Diagnostic)
  /-- No connection can be spliced although some still end at a nested pipeline. -/
  | stuckMerging (paths : List String)
  /-- A spliced connection still ends at a nested pipeline. -/
  | slotLeft (slot : Nat)
  /-- No filter is ready although some are not scheduled. -/
  | stuckScheduling (paths : List String)
  /-- A filter has no output port. -/
  | noOutputPort (path : String)
  /-- An output of a filter is read by nothing. -/
  | outputNotConnected (path port : String)
  /-- An input of a scheduled filter has no source. -/
  | inputWithoutSource (port : Nat) (path : String)
  /-- A filter is scheduled although the filter it reads is not. -/
  | producerUnscheduled (path producer : String)
  /-- A filter has no render target after scheduling. -/
  | unassigned (path : String)
  /-- An output of the pipeline has no source. -/
  | outputWithoutSource (port : String)
  /-- An output of the pipeline is fed by a filter that is not scheduled. -/
  | outputOfUnscheduled (port : String)
  /-- An output of the pipeline is fed by one of its inputs. -/
  | outputFromInput (port : String)
  /-- A planned render target has no user. -/
  | targetWithoutUser (target : Nat)
  /-- A filter and its render target differ in format. -/
  | formatMismatch (path : String) (target : Nat) (format : String)
  /-- More textures are bound than the pipeline has inputs. -/
  | tooManyInputs (pipeline : String) (count : Nat)
  /-- Another pipeline provides more textures than there are free inputs. -/
  | tooManyOutputs (pipeline : String) (free : Nat) (provider : String) (provided : Nat)
  /-- Fewer textures are bound than the pipeline has inputs. -/
  | tooFewInputs (pipeline : String) (count bound : Nat)
  /-- A render target has too few attachments. -/
  | noAttachment (target attachment : Nat)
  /-- A planned output is not bound to a render target. -/
  | outputNotProduced (port : String)
  /-- An output index is out of range. -/
  | noOutput (pipeline : String) (index count : Nat)
  /-- No output has the name. -/
  | noOutputNamed (pipeline name : String)
  /-- A filter index is out of range. -/
  | noFilter (pipeline : String) (index : Nat)
  /-- No filter has the path. -/
  | noFilterAt (pipeline path : String)
  /-- A render target index is out of range. -/
  | noTarget (pipeline : String) (index : Nat)
  /-- Timings are asked for while monitoring is off. -/
  | monitoringDisabled
  /-- The device failed; the text is its own. -/
  | deviceFailure (text : String)
  /-- A failure raised outside this library. -/
  | other (kind : Kind) (text : String)
  deriving DecidableEq, Repr

namespace Cause

/-- The category of a cause. -/
def kind : Cause → Kind
  | emptyName .. | separatorInName .. | portDeclared .. | noPort .. | noPortNamed ..
  | elementExists .. | noElement .. | noElementNamed .. | filterInPath .. | inputToOutput ..
  | alreadyConnected .. | autoConnect .. | noSource .. | invalidLayout ..
  | noOutputPort .. | outputNotConnected .. | outputWithoutSource .. | outputFromInput .. =>
    .configuration
  | stuckMerging .. | slotLeft .. | stuckScheduling .. | inputWithoutSource ..
  | producerUnscheduled .. | unassigned .. | outputOfUnscheduled .. | targetWithoutUser ..
  | formatMismatch .. | noAttachment .. | outputNotProduced .. =>
    .build
  | invalidPath .. | tooManyInputs .. | tooManyOutputs .. | tooFewInputs .. | noOutput ..
  | noOutputNamed .. | noFilter .. | noFilterAt .. | noTarget .. | monitoringDisabled =>
    .runtime
  | deviceFailure .. => .device
  | other kind _ => kind

/-- The wording of a cause, without its category. -/
def message : Cause → String
  | emptyName bearer => s!"{bearer.text} name cannot be empty"
  | separatorInName bearer name => s!"{bearer.text} name '{name}' cannot contain '::'"
  | portDeclared name => s!"port '{name}' is already declared"
  | invalidPath path => s!"invalid element path '{path}'"
  | noPort owner direction index count =>
    s!"{owner} has no {direction.text} port #{index} (it has {count})"
  | noPortNamed owner direction name => s!"{owner} has no {direction.text} port named '{name}'"
  | elementExists name layout =>
    s!"an element named '{name}' already exists in pipeline layout '{layout}'"
  | noElement layout index count =>
    s!"pipeline layout '{layout}' has no element #{index} (it has {count})"
  | noElementNamed layout name => s!"pipeline layout '{layout}' has no element named '{name}'"
  | filterInPath component path =>
    s!"'{component}' in path '{path}' is a filter, not a pipeline"
  | inputToOutput layout =>
    s!"pipeline layout '{layout}': cannot connect an input directly to an output"
  | alreadyConnected destination => s!"a connection already exists to {destination}"
  | autoConnect layout problems =>
    s!"auto-connect failed in pipeline layout '{layout}':\n" ++
      "\n".intercalate (problems.map WiringProblem.text)
  | noSource destination => s!"{destination} has no source"
  | invalidLayout layout diagnostics =>
    s!"pipeline layout '{layout}' is invalid:\n" ++
      "\n".intercalate (diagnostics.map Diagnostic.text)
  | stuckMerging paths =>
    "stuck merging connections through nested pipeline(s) " ++ Text.quotedList paths ++
      "; a nested pipeline port is probably left unconnected"
  | slotLeft slot => s!"nested pipeline slot {slot} left after merging"
  | stuckScheduling paths =>
    "scheduler stuck on filters " ++ Text.quotedList paths ++
      ": likely missing connection or cycle"
  | noOutputPort path => s!"filter '{path}' has no output port"
  | outputNotConnected path port => s!"output '{path}::{port}' is not connected"
  | inputWithoutSource port path => s!"input #{port} of filter '{path}' has no source"
  | producerUnscheduled path producer =>
    s!"filter '{path}' is scheduled before its producer '{producer}'"
  | unassigned path => s!"filter '{path}' was never assigned a target"
  | outputWithoutSource port => s!"pipeline output '{port}' has no source"
  | outputOfUnscheduled port => s!"pipeline output '{port}' is fed by an unscheduled filter"
  | outputFromInput port => s!"pipeline output '{port}' is fed directly by a pipeline input"
  | targetWithoutUser target => s!"render target #{target} has no user"
  | formatMismatch path target format =>
    s!"filter '{path}' cannot render into render target #{target} of format {format}"
  | tooManyInputs pipeline count =>
    s!"too many arguments: pipeline '{pipeline}' takes {count} input(s)"
  | tooManyOutputs pipeline free provider provided =>
    s!"too many arguments: pipeline '{pipeline}' has {free} free input(s), " ++
      s!"pipeline '{provider}' provides {provided}"
  | tooFewInputs pipeline count bound =>
    s!"too few arguments: pipeline '{pipeline}' takes {count} input(s), {bound} bound"
  | noAttachment target attachment =>
    s!"render target #{target} has no attachment #{attachment}"
  | outputNotProduced port => s!"output '{port}' is not produced by a filter"
  | noOutput pipeline index count =>
    s!"pipeline '{pipeline}' has no output #{index} (it has {count})"
  | noOutputNamed pipeline name => s!"pipeline '{pipeline}' has no output named '{name}'"
  | noFilter pipeline index => s!"pipeline '{pipeline}' has no filter #{index}"
  | noFilterAt pipeline path => s!"pipeline '{pipeline}' has no filter at path '{path}'"
  | noTarget pipeline index => s!"pipeline '{pipeline}' has no render target #{index}"
  | monitoringDisabled => "performance monitoring is disabled"
  | deviceFailure text => text
  | other _ text => text

/-- A cause as it is reported: its category, then its wording. -/
def text (cause : Cause) : String :=
  cause.kind.text ++ ": " ++ cause.message

end Cause

/-- An operation that a failure interrupted. -/
inductive Context where
  /-- Declaring a port of a layout. -/
  | inLayout (layout : String)
  /-- Connecting two elements by name. -/
  | connecting (source sourcePort destination destinationPort : String)
  /-- Connecting an input of a layout by name. -/
  | connectingInput (port layout : String)
  /-- Connecting an output of a layout by name. -/
  | connectingOutput (port layout : String)
  /-- Flattening the layout of a pipeline. -/
  | flattening (pipeline : String)
  /-- Creating a filter on the device. -/
  | creatingFilter (path type : String)
  /-- Scheduling the filters of a pipeline. -/
  | scheduling (pipeline : String)
  /-- Allocating a render target. -/
  | allocatingTarget (target : Nat)
  /-- Adding an attachment to a render target. -/
  | growingTarget (target : Nat)
  /-- Reading the outputs of another pipeline. -/
  | readingOutputs (pipeline : String)
  /-- Rendering a filter. -/
  | renderingFilter (path : String)
  /-- Measuring the time of a filter. -/
  | timingFilter (path : String)
  /-- An operation described outside this library. -/
  | other (text : String)
  deriving DecidableEq, Repr

/-- The wording of an operation. -/
def Context.text : Context → String
  | inLayout layout => s!"in pipeline layout '{layout}'"
  | connecting source sourcePort destination destinationPort =>
    s!"connecting {source}::{sourcePort} to {destination}::{destinationPort}"
  | connectingInput port layout => s!"connecting input '{port}' of '{layout}'"
  | connectingOutput port layout => s!"connecting output '{port}' of '{layout}'"
  | flattening pipeline => s!"flattening pipeline '{pipeline}'"
  | creatingFilter path type => s!"creating filter '{path}' of type '{type}'"
  | scheduling pipeline => s!"scheduling pipeline '{pipeline}'"
  | allocatingTarget target => s!"allocating render target #{target}"
  | growingTarget target => s!"growing render target #{target}"
  | readingOutputs pipeline => s!"reading outputs of pipeline '{pipeline}'"
  | renderingFilter path => s!"rendering filter '{path}'"
  | timingFilter path => s!"timing filter '{path}'"
  | other text => text

/-- A failure: its cause and the operations it interrupted, innermost first. -/
structure Error where
  /-- What went wrong. -/
  cause : Cause
  /-- The interrupted operations, innermost first. -/
  contexts : List Context
  deriving DecidableEq, Repr

namespace Error

/-- A cause, outside any operation. -/
instance : Coe Cause Error where
  coe cause := ⟨cause, []⟩

/-- The category of a failure. -/
def kind (error : Error) : Kind :=
  error.cause.kind

/-- The failure as seen from the operation around it. -/
def within (context : Context) (error : Error) : Error :=
  { error with contexts := error.contexts ++ [context] }

/-- Naming the operation does not change the category. -/
@[simp]
theorem kind_within (context : Context) (error : Error) :
    (error.within context).kind = error.kind := rfl

/-- A cause below the operations it interrupted, innermost first. -/
def describe (cause : Cause) (contexts : List Context) : String :=
  contexts.foldl (fun text context => context.text ++ ": " ++ text) cause.text

/-- The whole description of a failure, outermost operation first. -/
def text (error : Error) : String :=
  describe error.cause error.contexts

/-- The failures inside the last one of a list of operations, outermost first. -/
def inner (cause : Cause) : List Context → List String
  | [] => if cause.kind = .device then [cause.message] else []
  | _ :: outer => describe cause outer.reverse :: inner cause outer

/-- The failures that this one contains, outermost first: one less operation each time, and
at the end what the device itself said. -/
def sources (error : Error) : List String :=
  inner error.cause error.contexts.reverse

end Error

/-- Adds an operation to the failure of a result. -/
def within {α : Type} (context : Context) : Except Error α → Except Error α
  | .ok value => .ok value
  | .error error => .error (error.within context)

/-- A result without a failure is left alone. -/
@[simp]
theorem within_ok {α : Type} (context : Context) (value : α) :
    within context (.ok value) = .ok value := rfl

/-- The failure of a result is extended. -/
@[simp]
theorem within_error {α : Type} (context : Context) (error : Error) :
    within context (.error error : Except Error α) = .error (error.within context) := rfl

end RenderGraph
