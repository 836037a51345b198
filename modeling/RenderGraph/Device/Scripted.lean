import RenderGraph.Device.Term
import RenderGraph.Text.Quoted

/-!
# A scripted device

A device in memory whose failures, timer readings and irregularities are set
beforehand: the n-th target or attachment or timer reading can fail, targets can
come out in another format or with attachments missing. Textures are numbered
from zero and hold texts.
-/

namespace RenderGraph.Device

/-- What a scripted device is told to do. -/
structure Script where
  /-- What the timer shows, one stop after another and then from the start again. -/
  timer : Option (List Duration)
  /-- The type of filters that cannot be created. -/
  failCreate : Option String
  /-- The type of filters that cannot be rendered. -/
  failRender : Option String
  /-- The target that cannot be allocated, by the number of targets before it. -/
  failTarget : Option Nat
  /-- The attachment that cannot be added, by the number of attachments before it. -/
  failAttachment : Option Nat
  /-- The timer stop that fails, by the number of stops before it. -/
  failTimer : Option Nat
  /-- The format that every target comes out in. -/
  targetFormat : Option String
  /-- The number of attachments that every new target lacks. -/
  missingAttachments : Nat
  deriving DecidableEq, Repr

/-- The state of a scripted device. -/
structure Scripted where
  /-- What it is told to do. -/
  script : Script
  /-- The texts of all textures, by number. -/
  textures : List String
  /-- The types of the rendered filters, in order. -/
  renders : List String
  /-- The number of filters. -/
  filtersCreated : Nat
  /-- The number of targets. -/
  targetsCreated : Nat
  /-- The number of attachments added to targets. -/
  attachmentsAdded : Nat
  /-- How often the timer was stopped. -/
  timerStops : Nat
  /-- The clock that stands in for the timer if it shows nothing. -/
  host : HostClock
  /-- Whether the timer is armed. -/
  armed : Bool
  /-- Whether the timer was ever stopped without a reading. -/
  unmeasured : Bool

namespace Scripted

/-- A device that behaves regularly and has no timer but a clock that goes on steadily. -/
def fresh : Scripted :=
  ⟨⟨none, none, none, none, none, none, none, 0⟩, [], [], 0, 0, 0, 0, .steady, false, false⟩

/-- Makes a texture. -/
def texture (contents : String) (device : Scripted) : Nat × Scripted :=
  (device.textures.length, { device with textures := device.textures ++ [contents] })

/-- The text of a texture. -/
def contents (device : Scripted) (texture : Nat) : String :=
  device.textures[texture]?.getD ""

/-- Creates a filter. -/
def createFilter (spec : FilterSpec TermDescriptor) :
    Action Scripted TermFailure (TermFilter Nat) := fun device =>
  if device.script.failCreate = some spec.typeName then
    ⟨device, [], .error (.create spec.typeName)⟩
  else
    ⟨{ device with filtersCreated := device.filtersCreated + 1 }, [], .ok (.ofSpec spec)⟩

/-- Creates a target. -/
def createTarget (format : String) (attachments : Nat) :
    Action Scripted TermFailure (TermTarget Nat) := fun device =>
  if device.script.failTarget = some device.targetsCreated then
    ⟨device, [], .error (.target device.targetsCreated)⟩
  else
    let count := attachments - device.script.missingAttachments
    let first := device.textures.length
    ⟨{ device with
        targetsCreated := device.targetsCreated + 1
        textures := device.textures ++ List.replicate count "" }, [],
      .ok ⟨device.script.targetFormat.getD format, (List.range count).map (first + ·)⟩⟩

/-- Adds an attachment to a target. -/
def addAttachment (target : TermTarget Nat) :
    Action Scripted TermFailure (TermTarget Nat) := fun device =>
  if device.script.failAttachment = some device.attachmentsAdded then
    ⟨device, [], .error (.attachment device.attachmentsAdded)⟩
  else
    ⟨{ device with
        attachmentsAdded := device.attachmentsAdded + 1
        textures := device.textures ++ [""] }, [],
      .ok { target with attachments := target.attachments ++ [device.textures.length] }⟩

/-- Renders a filter into a target. Outputs without an attachment are left out. -/
def render (filter : TermFilter Nat) (target : TermTarget Nat) :
    Action Scripted TermFailure Unit := fun device =>
  if device.script.failRender = some filter.typeName then
    ⟨device, [], .error (.render filter.typeName)⟩
  else
    match filter.bound with
    | .error failure => ⟨device, [], .error failure⟩
    | .ok inputs =>
      let terms := filter.terms (inputs.map device.contents)
      let textures := (target.attachments.zip terms).foldl
        (fun textures (texture, text) => textures.set texture text) device.textures
      ⟨{ device with textures, renders := device.renders ++ [filter.typeName] }, [], .ok ()⟩

/-- Arms the timer. -/
def startTimer (device : Scripted) : Bool × Scripted :=
  (device.script.timer.isSome, { device with armed := device.script.timer.isSome })

/-- What the timer shows at a stop, if it was armed. -/
def reading? (device : Scripted) : Option Duration :=
  match device.armed, device.script.timer with
  | true, some readings => readings[device.timerStops % readings.length]?
  | _, _ => none

/-- Stops the timer. -/
def stopTimer : Action Scripted TermFailure (Option Duration) := fun device =>
  let stopped := { device with armed := false, timerStops := device.timerStops + 1 }
  if device.script.failTimer = some device.timerStops then
    ⟨stopped, [], .error (.timer device.timerStops)⟩
  else
    ⟨{ stopped with unmeasured := device.unmeasured || device.reading?.isNone }, [],
      .ok device.reading?⟩

end Scripted

/-- The scripted device as a backend. -/
@[reducible]
def scripted : Backend where
  State := Scripted
  Format := String
  Texture := Nat
  Descriptor := TermDescriptor
  Filter := TermFilter Nat
  Target := TermTarget Nat
  Failure := TermFailure
  decEqFormat := inferInstance
  formatText := Text.quoted
  failureText := TermFailure.text
  createFilter := Scripted.createFilter
  createTarget := Scripted.createTarget
  addAttachment := Scripted.addAttachment
  render := Scripted.render
  startTimer := Scripted.startTimer
  stopTimer := Scripted.stopTimer
  clock := fun device => device.host.shows device.timerStops
  outputFormat := TermFilter.format
  filterFootprint := TermFilter.footprint
  setInput := TermFilter.setInput
  clearInputs := TermFilter.clearInputs
  targetFormat := TermTarget.format
  attachments := TermTarget.attachments
  targetFootprint := TermTarget.footprint
  matchesFormat := TermFilter.fits

end RenderGraph.Device
