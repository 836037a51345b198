import RenderGraph.Gpu.Format
import RenderGraph.Json.Printer
import RenderGraph.Json.Reader

/-!
# Descriptions of compute shaders

What a GPU has to know of a filter, and its JSON form. A document may leave out
the entry point and the sampler, may have further members, and may list the
values in order without their keys; a key that matters must not be repeated.
-/

namespace RenderGraph.Gpu

/-- The shader of a filter and what it writes. -/
structure Descriptor where
  /-- The source text of the shader. -/
  shader : String
  /-- The function to run. -/
  entryPoint : String
  /-- The format of every output. -/
  output : Format
  /-- The sampler bound behind the outputs, if the shader uses one. -/
  sampler : Option Sampler
  deriving DecidableEq, Repr

/-- The entry point that is used unless another one is named. -/
def defaultEntryPoint : String := "main"

/-- The value of the only member with a key, which may be missing. A repeated key is refused. -/
def memberOr {α : Type} (key : String) (default : Option α) (read : Json → Option α)
    (members : List (String × Json)) : Option α :=
  match Json.membersNamed key members with
  | [] => default
  | [value] => read value
  | _ => none

/-- A text. -/
def readText : Json → Option String
  | .text value => some value
  | _ => none

/-- A natural number below 2^32. -/
def readWord : Json → Option UInt32
  | .natural value => if value < UInt32.size then some (UInt32.ofNat value) else none
  | _ => none

/-- The name of a texel format. -/
def readTexel (value : Json) : Option TexelFormat := do
  TexelFormat.ofName? (← readText value)

/-- The name of a sampler, or an object that gives that name the value null. -/
def readSampler : Json → Option Sampler
  | .text name => Sampler.ofName? name
  | .object [(name, .null)] => Sampler.ofName? name
  | _ => none

/-- A sampler, or null for none. -/
def readOptionalSampler : Json → Option (Option Sampler)
  | .null => some none
  | value => (readSampler value).map some

namespace Format

/-- Reads the document of a format. -/
def ofJson? : Json → Option Format
  | .object members => do
    let texel ← memberOr "format" none readTexel members
    let width ← memberOr "width" none readWord members
    let height ← memberOr "height" none readWord members
    return ⟨texel, width, height⟩
  | .array [texel, width, height] => do
    return ⟨← readTexel texel, ← readWord width, ← readWord height⟩
  | _ => none

end Format

namespace Descriptor

/-- The description of a shader that is run at the usual entry point without a sampler. -/
def plain (shader : String) (output : Format) : Descriptor :=
  ⟨shader, defaultEntryPoint, output, none⟩

/-- The same shader with a sampler. -/
def withSampler (descriptor : Descriptor) (sampler : Sampler) : Descriptor :=
  { descriptor with sampler := some sampler }

/-- The document of a description. -/
def toJson (descriptor : Descriptor) : Json :=
  .object [
    ("shader", .text descriptor.shader),
    ("entry_point", .text descriptor.entryPoint),
    ("output", descriptor.output.toJson),
    ("sampler", descriptor.sampler.elim .null fun sampler => .text sampler.name)]

/-- The text of a description. -/
def text (descriptor : Descriptor) : String :=
  descriptor.toJson.compact

/-- Reads the document of a description. -/
def ofJson? : Json → Option Descriptor
  | .object members => do
    let shader ← memberOr "shader" none readText members
    let entryPoint ← memberOr "entry_point" (some defaultEntryPoint) readText members
    let output ← memberOr "output" none Format.ofJson? members
    let sampler ← memberOr "sampler" (some none) readOptionalSampler members
    return ⟨shader, entryPoint, output, sampler⟩
  | .array (shader :: entryPoint :: output :: rest) => do
    let sampler ← match rest with
      | [] => some none
      | [sampler] => readOptionalSampler sampler
      | _ => none
    return ⟨← readText shader, ← readText entryPoint, ← Format.ofJson? output, sampler⟩
  | _ => none

/-- Reads the text of a description. -/
def ofText? (text : String) : Option Descriptor := do
  ofJson? (← Json.ofText? text)

end Descriptor

end RenderGraph.Gpu
