import RenderGraph.Backend
import RenderGraph.Gpu.Descriptor

/-!
# A GPU that computes nothing

A GPU backend on a device that checks every call and runs no shader: all texels
stay zero. Filters are compute shaders, of which such a device takes only the
empty one, and render targets are groups of textures that shaders can write to.
A timer can be armed where the device has timestamps, but it never shows a time.
-/

namespace RenderGraph.Gpu

/-- A handle to a texture. -/
structure Texture where
  /-- Its texels and its size. -/
  format : Format
  deriving DecidableEq, Repr

/-- A compiled shader with the textures bound to its inputs. -/
structure Filter where
  /-- The name of the filter type. -/
  name : String
  /-- The format of every output. -/
  output : Format
  /-- The number of outputs. -/
  outputs : Nat
  /-- The textures bound to its inputs. -/
  inputs : List (Option Texture)
  deriving DecidableEq, Repr

/-- A group of textures of one format. -/
structure Target where
  /-- The format of the attachments. -/
  format : Format
  /-- The attachments. -/
  attachments : List Texture
  deriving DecidableEq, Repr

/-- The state of the device. -/
structure Device where
  /-- Whether it has timestamps. -/
  timestamps : Bool
  /-- Whether the timer is armed. -/
  timerArmed : Bool
  /-- The number of render targets. -/
  targetsCreated : Nat
  /-- How often the timer was stopped. -/
  timerStops : Nat
  /-- The clock that stands in for the timer. -/
  host : HostClock

/-- What can go wrong on the device. -/
inductive Failure where
  /-- The shader of a filter is refused. -/
  | validation (filter : String)
  /-- An input has no texture. -/
  | unboundInput (port : Nat) (filter : String)
  /-- A target has too few attachments. -/
  | missingAttachments (filter : String) (expected actual : Nat)
  /-- The texels of a texture cannot be read back. -/
  | unsupportedFormat (texel : TexelFormat)
  deriving DecidableEq, Repr

/-- The description of a failure. What validation itself says is not part of it. -/
def Failure.text : Failure → String
  | validation filter => s!"wgpu validation failed for '{filter}': "
  | unboundInput port filter => s!"input #{port} of filter '{filter}' is not bound"
  | missingAttachments filter expected actual =>
    s!"filter '{filter}' writes {expected} attachment(s) but the render target has {actual}"
  | unsupportedFormat texel => "unsupported texture format for readback: " ++ texel.label

/-- The shader that does nothing. -/
def emptyShader (entryPoint : String) : String :=
  "@compute @workgroup_size(8, 8)\nfn " ++ entryPoint ++ "() \x7b\x7d\n"

/-- Whether the device takes a shader, whatever the format of its outputs. -/
def accepts (descriptor : Descriptor) : Bool :=
  descriptor.shader = emptyShader descriptor.entryPoint

/-- The side of the square of texels that one workgroup covers. -/
def workgroupSide : Nat := 8

namespace Filter

/-- The filter that a description gives. -/
def ofSpec (spec : FilterSpec Descriptor) : Filter where
  name := spec.typeName
  output := spec.descriptor.output
  outputs := spec.outputs.size
  inputs := List.replicate spec.inputs.size none

/-- The workgroups that cover an output, across and down. -/
def workgroups (filter : Filter) : List Nat :=
  [filter.output.width.toNat, filter.output.height.toNat].map fun side =>
    (side + workgroupSide - 1) / workgroupSide

/-- The memory of the attachments that the filter writes, in bytes. -/
def footprint (filter : Filter) : UInt64 :=
  filter.output.footprint * UInt64.ofNat filter.outputs

/-- Binds a texture to an input. -/
def setInput (port : Nat) (texture : Texture) (filter : Filter) : Filter :=
  { filter with inputs := filter.inputs.set port (some texture) }

/-- Unbinds all inputs. -/
def clearInputs (filter : Filter) : Filter :=
  { filter with inputs := filter.inputs.map fun _ => none }

end Filter

namespace Target

/-- A target with a number of attachments. -/
def new (format : Format) (attachments : Nat) : Target :=
  ⟨format, List.replicate attachments ⟨format⟩⟩

/-- A target with one more attachment. -/
def grow (target : Target) : Target :=
  { target with attachments := target.attachments ++ [⟨target.format⟩] }

/-- The memory of all attachments, in bytes. -/
def footprint (target : Target) : UInt64 :=
  target.format.footprint * UInt64.ofNat target.attachments.length

end Target

/-- Checks that a filter can be rendered into a target. -/
def checkRender (filter : Filter) (target : Target) : Except Failure Unit :=
  if target.attachments.length < filter.outputs then
    .error (.missingAttachments filter.name filter.outputs target.attachments.length)
  else
    match filter.inputs.findIdx? Option.isNone with
    | some port => .error (.unboundInput port filter.name)
    | none => .ok ()

namespace Device

/-- A device without render targets, with a clock that goes on steadily. -/
def fresh (timestamps : Bool) : Device :=
  ⟨timestamps, false, 0, 0, .steady⟩

/-- How messages spell the state of a device. -/
def text (device : Device) : String :=
  s!"timestamps: {device.timestamps}, timer_armed: {device.timerArmed}, " ++
    s!"targets_created: {device.targetsCreated} \x7d"

/-- Creates a filter. -/
def createFilter (spec : FilterSpec Descriptor) : Action Device Failure Filter := fun device =>
  if accepts spec.descriptor then
    ⟨device,
      [.createdFilter spec.typeName spec.inputs.size spec.outputs.size spec.descriptor.output.text],
      .ok (.ofSpec spec)⟩
  else ⟨device, [], .error (.validation spec.typeName)⟩

/-- Creates a render target. -/
def createTarget (format : Format) (attachments : Nat) : Action Device Failure Target :=
  fun device =>
    ⟨{ device with targetsCreated := device.targetsCreated + 1 },
      [.allocatingTarget device.targetsCreated format.text attachments],
      .ok (.new format attachments)⟩

/-- Arms the timer. -/
def startTimer (device : Device) : Bool × Device :=
  (device.timestamps, { device with timerArmed := device.timestamps })

/-- Stops the timer, which shows nothing. -/
def stopTimer : Action Device Failure (Option Duration) := fun device =>
  ⟨{ device with timerArmed := false, timerStops := device.timerStops + 1 }, [], .ok none⟩

end Device

/-- What reading a texture back gives. -/
structure Readback where
  /-- Width and height. -/
  size : List Nat
  /-- The channels of the first texel. -/
  first : List Nat
  /-- Whether all texels are equal. -/
  uniform : Bool
  deriving DecidableEq, Repr

/-- Reads a texture of 32-bit floating point channels, all zero. With fewer than four channels
the texels are opaque. -/
def Texture.read (texture : Texture) : Except Failure Readback :=
  match texture.format.texel.floatChannels? with
  | none => .error (.unsupportedFormat texture.format.texel)
  | some channels =>
    .ok ⟨[texture.format.width.toNat, texture.format.height.toNat],
      [0, 0, 0, if channels = 4 then 0 else 1], true⟩

/-- The GPU as a backend. -/
@[reducible]
def backend : Backend where
  State := Device
  Format := Format
  Texture := Texture
  Descriptor := Descriptor
  Filter := Filter
  Target := Target
  Failure := Failure
  decEqFormat := inferInstance
  formatText := Format.text
  failureText := Failure.text
  createFilter := Device.createFilter
  createTarget := Device.createTarget
  addAttachment := fun target => pure target.grow
  render := fun filter target => Action.ofExcept (checkRender filter target)
  startTimer := Device.startTimer
  stopTimer := Device.stopTimer
  clock := fun device => device.host.shows device.timerStops
  outputFormat := Filter.output
  filterFootprint := Filter.footprint
  setInput := Filter.setInput
  clearInputs := Filter.clearInputs
  targetFormat := Target.format
  attachments := Target.attachments
  targetFootprint := Target.footprint
  matchesFormat := fun target filter => target.format = filter.output

end RenderGraph.Gpu
