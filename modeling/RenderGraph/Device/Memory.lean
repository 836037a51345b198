import RenderGraph.Device.Term
import RenderGraph.Workspace

/-!
# A device in memory

The simplest device: textures are numbered from one in order of creation and
hold texts. It counts what is created and what is rendered, can be told to
refuse one type of filter, and has a timer that always shows the same duration.
-/

namespace RenderGraph.Device

/-- A handle to a texture in memory. -/
structure MemoryTexture where
  /-- The number under which the texture is known. -/
  id : Nat
  /-- The cell of the device that holds its text. -/
  cell : Nat
  deriving DecidableEq, Repr

/-- The state of a device in memory. -/
structure Memory where
  /-- The number of textures that were given a number. -/
  numbered : Nat
  /-- The texts of all textures, by cell. -/
  cells : List String
  /-- What the timer shows, if there is one. -/
  timer : Option Duration
  /-- Whether the timer is armed. -/
  timerArmed : Bool
  /-- How often the timer was stopped. -/
  timerStops : Nat
  /-- The clock that stands in for the timer if there is none. -/
  host : HostClock
  /-- The type of filters that cannot be created. -/
  failCreate : Option String
  /-- The type of filters that cannot be rendered. -/
  failRender : Option String
  /-- The types of the rendered filters, in order. -/
  renders : List String
  /-- The number of targets. -/
  targetsCreated : Nat
  /-- The number of attachments added to targets. -/
  attachmentsAdded : Nat

namespace Memory

/-- A device on which nothing happened yet, with a clock that goes on steadily. -/
def fresh (timer : Option Duration) : Memory :=
  ⟨0, [], timer, false, 0, .steady, none, none, [], 0, 0⟩

/-- Makes a texture under a given number. -/
def textureWithId (id : Nat) (contents : String) (device : Memory) : MemoryTexture × Memory :=
  (⟨id, device.cells.length⟩, { device with cells := device.cells ++ [contents] })

/-- Makes a texture under the next number. -/
def texture (contents : String) (device : Memory) : MemoryTexture × Memory :=
  textureWithId (device.numbered + 1) contents { device with numbered := device.numbered + 1 }

/-- Makes a number of empty textures. -/
def textures : Nat → Memory → List MemoryTexture × Memory
  | 0, device => ([], device)
  | n + 1, device =>
    let (first, device) := texture "" device
    let (rest, device) := textures n device
    (first :: rest, device)

/-- The text of a texture. -/
def contents (device : Memory) (texture : MemoryTexture) : String :=
  device.cells[texture.cell]?.getD ""

/-- Replaces the text of a texture. -/
def write (device : Memory) (texture : MemoryTexture) (contents : String) : Memory :=
  { device with cells := device.cells.set texture.cell contents }

/-- Creates a filter. -/
def createFilter (spec : FilterSpec TermDescriptor) :
    Action Memory TermFailure (TermFilter MemoryTexture) := fun device =>
  if device.failCreate = some spec.typeName then
    ⟨device, [], .error (.create spec.typeName)⟩
  else ⟨device, [], .ok (.ofSpec spec)⟩

/-- Creates a target. -/
def createTarget (format : String) (attachments : Nat) :
    Action Memory TermFailure (TermTarget MemoryTexture) := fun device =>
  let (made, device) :=
    textures attachments { device with targetsCreated := device.targetsCreated + 1 }
  ⟨device, [], .ok ⟨format, made⟩⟩

/-- Adds an attachment to a target. -/
def addAttachment (target : TermTarget MemoryTexture) :
    Action Memory TermFailure (TermTarget MemoryTexture) := fun device =>
  let (made, device) := texture "" { device with attachmentsAdded := device.attachmentsAdded + 1 }
  ⟨device, [], .ok { target with attachments := target.attachments ++ [made] }⟩

/-- Writes texts to the first attachments of a target, each of which has to exist. -/
def writeAll (type : String) (attachments : List MemoryTexture) (output : Nat) :
    List String → Memory → Except TermFailure Unit × Memory
  | [], device => (.ok (), device)
  | text :: rest, device =>
    match attachments[output]? with
    | none => (.error (.missingAttachment output type), device)
    | some texture => writeAll type attachments (output + 1) rest (device.write texture text)

/-- Renders a filter into a target. -/
def render (filter : TermFilter MemoryTexture) (target : TermTarget MemoryTexture) :
    Action Memory TermFailure Unit := fun device =>
  if device.failRender = some filter.typeName then
    ⟨device, [], .error (.render filter.typeName)⟩
  else
    match filter.bound with
    | .error failure => ⟨device, [], .error failure⟩
    | .ok inputs =>
      let terms := filter.terms (inputs.map device.contents)
      match writeAll filter.typeName target.attachments 0 terms device with
      | (.error failure, device) => ⟨device, [], .error failure⟩
      | (.ok (), device) =>
        ⟨{ device with renders := device.renders ++ [filter.typeName] }, [], .ok ()⟩

/-- Arms the timer. -/
def startTimer (device : Memory) : Bool × Memory :=
  (device.timer.isSome, { device with timerArmed := device.timer.isSome })

/-- Stops the timer. -/
def stopTimer : Action Memory TermFailure (Option Duration) := fun device =>
  ⟨{ device with timerArmed := false, timerStops := device.timerStops + 1 }, [],
    .ok (if device.timerArmed then device.timer else none)⟩

end Memory

/-- The device in memory as a backend. -/
@[reducible]
def memory : Backend where
  State := Memory
  Format := String
  Texture := MemoryTexture
  Descriptor := TermDescriptor
  Filter := TermFilter MemoryTexture
  Target := TermTarget MemoryTexture
  Failure := TermFailure
  decEqFormat := inferInstance
  formatText := Text.quoted
  failureText := TermFailure.text
  createFilter := Memory.createFilter
  createTarget := Memory.createTarget
  addAttachment := Memory.addAttachment
  render := Memory.render
  startTimer := Memory.startTimer
  stopTimer := Memory.stopTimer
  clock := fun device => device.host.shows device.timerStops
  outputFormat := TermFilter.format
  filterFootprint := TermFilter.footprint
  setInput := TermFilter.setInput
  clearInputs := TermFilter.clearInputs
  targetFormat := TermTarget.format
  attachments := TermTarget.attachments
  targetFootprint := TermTarget.footprint
  matchesFormat := TermFilter.fits

/-- The handles to a texture that a pipeline holds: as an attachment, for its next run, and in
the inputs of its filters. -/
def handlesIn (pipeline : Pipeline memory) (texture : MemoryTexture) : Nat :=
  (pipeline.targets.map fun target => target.attachments.count texture).foldr (· + ·) 0 +
    pipeline.inputs.count texture +
    (pipeline.filters.map fun filter => filter.inputs.count (some texture)).foldr (· + ·) 0

/-- The handles to a texture that a workspace holds: one for each of its names, and those of
the pipelines. -/
def handles (workspace : Workspace memory) (texture : MemoryTexture) : Nat :=
  (workspace.textures.filter fun entry => entry.2 = texture).length +
    (workspace.pipelines.map fun entry => handlesIn entry.2 texture).foldr (· + ·) 0

end RenderGraph.Device
