import RenderGraph.Backend

/-!
# Rendering texts

Filters of the devices in memory compute texts instead of images: a filter
writes its name applied to the texts of its inputs, and with several outputs
also the number of the output. The text of a texture is therefore the term that
produced it.
-/

namespace RenderGraph.Device

/-- What a device in memory has to know of a filter. -/
structure TermDescriptor where
  /-- The format of its outputs. -/
  format : String
  /-- The memory it is said to hold. -/
  footprint : UInt64
  deriving DecidableEq, Repr

/-- The first names of a series: a stem followed by a number from zero on. -/
def numbered (stem : String) (count : Nat) : List String :=
  (List.range count).map fun i => stem ++ toString i

/-- A filter on a device in memory. -/
structure TermFilter (τ : Type) where
  /-- The name of its type. -/
  typeName : String
  /-- A name that replaces that of the type in what the filter writes. -/
  label : Option String
  /-- The format of its outputs. -/
  format : String
  /-- The memory it is said to hold. -/
  footprint : UInt64
  /-- The textures bound to its inputs. -/
  inputs : List (Option τ)
  /-- The number of its outputs. -/
  outputs : Nat
  deriving DecidableEq, Repr

/-- A render target on a device in memory. -/
structure TermTarget (τ : Type) where
  /-- The format of its attachments. -/
  format : String
  /-- Its attachments. -/
  attachments : List τ
  deriving DecidableEq, Repr

/-- The memory that a target is said to hold, in bytes. -/
def TermTarget.footprint {τ : Type} (target : TermTarget τ) : UInt64 :=
  UInt64.ofNat target.attachments.length * 64

/-- What can go wrong on a device in memory. -/
inductive TermFailure where
  /-- Filters of the type cannot be created. -/
  | create (type : String)
  /-- A target cannot be allocated. -/
  | target (created : Nat)
  /-- An attachment cannot be added. -/
  | attachment (added : Nat)
  /-- Filters of the type cannot be rendered. -/
  | render (type : String)
  /-- An input has no texture. -/
  | unbound (port : Nat) (type : String)
  /-- A target has too few attachments for the filter. -/
  | missingAttachment (output : Nat) (type : String)
  /-- The timer cannot be read. -/
  | timer (stop : Nat)
  deriving DecidableEq, Repr

/-- The description of a failure. -/
def TermFailure.text : TermFailure → String
  | create type => s!"cannot instantiate filter type '{type}'"
  | target created => s!"cannot allocate target {created}"
  | attachment added => s!"cannot add attachment {added}"
  | render type => s!"filter '{type}' failed to render"
  | unbound port type => s!"input #{port} of filter '{type}' is not bound"
  | missingAttachment output type => s!"no attachment for output #{output} of filter '{type}'"
  | timer stop => s!"timer stop {stop} failed"

/-- What a filter writes to one of its outputs. -/
def spell (name : String) (outputs output : Nat) (arguments : List String) : String :=
  let applied := "(" ++ ",".intercalate arguments ++ ")"
  if outputs = 1 then name ++ applied else s!"{name}[{output}]" ++ applied

namespace TermFilter

variable {τ : Type}

/-- A filter renders into targets of the format of its outputs. -/
def fits (target : TermTarget τ) (filter : TermFilter τ) : Bool :=
  target.format = filter.format

/-- A filter without bound inputs. -/
def ofSpec (spec : FilterSpec TermDescriptor) : TermFilter τ where
  typeName := spec.typeName
  label := none
  format := spec.descriptor.format
  footprint := spec.descriptor.footprint
  inputs := List.replicate spec.inputs.size none
  outputs := spec.outputs.size

/-- The name that the filter writes. -/
def name (filter : TermFilter τ) : String :=
  filter.label.getD filter.typeName

/-- Binds a texture to an input. -/
def setInput (port : Nat) (texture : τ) (filter : TermFilter τ) : TermFilter τ :=
  { filter with inputs := filter.inputs.set port (some texture) }

/-- Unbinds all inputs. -/
def clearInputs (filter : TermFilter τ) : TermFilter τ :=
  { filter with inputs := filter.inputs.map fun _ => none }

/-- The bound textures from a port on, or the first port without one. -/
def boundFrom (port : Nat) : List (Option τ) → Except Nat (List τ)
  | [] => .ok []
  | none :: _ => .error port
  | some texture :: rest => (boundFrom (port + 1) rest).map (texture :: ·)

/-- The textures bound to all inputs. -/
def bound (filter : TermFilter τ) : Except TermFailure (List τ) :=
  (boundFrom 0 filter.inputs).mapError fun port => .unbound port filter.typeName

/-- The texts that a filter writes to its outputs. -/
def terms (filter : TermFilter τ) (arguments : List String) : List String :=
  (List.range filter.outputs).map fun output =>
    spell filter.name filter.outputs output arguments

end TermFilter

end RenderGraph.Device
