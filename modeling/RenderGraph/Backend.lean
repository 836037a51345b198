import RenderGraph.Action
import RenderGraph.Duration
import RenderGraph.Filter

/-!
# Backends

What a device offers to the graph: it creates filters and render targets,
renders a filter into a target, and may measure the time that takes. Filters,
targets and textures are handles; what they stand for is part of the state of
the device. Rendering changes that state and no handle, and the attachments of a
target are counted and read from one list.
-/

namespace RenderGraph

/-- Where a number is wanted, a word stands for its value. -/
instance wordToNat : Coe UInt64 Nat := ⟨UInt64.toNat⟩

/-- Where a word is wanted, a number is cut off to 64 bits. -/
instance natToWord : Coe Nat UInt64 := ⟨UInt64.ofNat⟩

/-- A kind of device. -/
structure Backend where
  /-- The state of a device. -/
  State : Type
  /-- The format of attachments; filters share a target only if their formats are equal. -/
  Format : Type
  /-- A handle to a texture. -/
  Texture : Type
  /-- What the device needs to know of a filter beyond its ports. -/
  Descriptor : Type
  /-- A filter that can be rendered, with the textures bound to its inputs. -/
  Filter : Type
  /-- A group of attachments of one format. -/
  Target : Type
  /-- What can go wrong on the device. -/
  Failure : Type
  /-- Formats can be compared. -/
  decEqFormat : DecidableEq Format
  /-- How messages spell a format. -/
  formatText : Format → String
  /-- The description of a failure. -/
  failureText : Failure → String
  /-- Creates a filter. -/
  createFilter : FilterSpec Descriptor → Action State Failure Filter
  /-- Creates a target with a number of attachments. -/
  createTarget : Format → Nat → Action State Failure Target
  /-- Adds one attachment to a target. -/
  addAttachment : Target → Action State Failure Target
  /-- Renders a filter into the first attachments of a target. -/
  render : Filter → Target → Action State Failure Unit
  /-- Arms the timer for the next render and tells whether there is one. -/
  startTimer : State → Bool × State
  /-- Waits for all renders and reads the timer if it was armed. -/
  stopTimer : Action State Failure (Option Duration)
  /-- What the clock of the host shows. -/
  clock : State → Duration
  /-- The format that a filter renders. -/
  outputFormat : Filter → Format
  /-- The memory a filter holds, in bytes. -/
  filterFootprint : Filter → UInt64
  /-- Binds a texture to an input of a filter. -/
  setInput : Nat → Texture → Filter → Filter
  /-- Unbinds all inputs of a filter. -/
  clearInputs : Filter → Filter
  /-- The format of a target. -/
  targetFormat : Target → Format
  /-- The attachments of a target. -/
  attachments : Target → List Texture
  /-- The memory a target holds, in bytes. -/
  targetFootprint : Target → UInt64
  /-- Whether a filter can render into a target. -/
  matchesFormat : Target → Filter → Bool

instance (B : Backend) : DecidableEq B.Format := B.decEqFormat

end RenderGraph
