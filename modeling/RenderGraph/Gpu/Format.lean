import RenderGraph.Gpu.TexelFormat
import RenderGraph.Json.Value

/-!
# Texture formats

The format of a filter's outputs on a GPU. It includes the size, so only filters
of equal size share a render target.
-/

namespace RenderGraph.Gpu

/-- The texels and the size of a texture. -/
structure Format where
  /-- The format of its texels. -/
  texel : TexelFormat
  /-- Its width. -/
  width : UInt32
  /-- Its height. -/
  height : UInt32
  deriving DecidableEq, Repr

namespace Format

/-- Width, height and number of layers. -/
def extent (format : Format) : List Nat :=
  [format.width.toNat, format.height.toNat, 1]

/-- The bytes of one texture of the format. -/
def footprint (format : Format) : UInt64 :=
  format.width.toUInt64 * format.height.toUInt64 * UInt64.ofNat format.texel.texelBytes

/-- How messages spell a format. -/
def text (format : Format) : String :=
  "WgpuFormat \x7b format: " ++ format.texel.label ++
    s!", width: {format.width.toNat}, height: {format.height.toNat} \x7d"

/-- The document of a format. -/
def toJson (format : Format) : Json :=
  .object [
    ("format", .text format.texel.name),
    ("width", .natural format.width.toNat),
    ("height", .natural format.height.toNat)]

end Format

/-- How a shader reads its inputs between texels. -/
inductive Sampler where
  /-- The nearest texel. -/
  | nearest
  /-- A blend of the texels around. -/
  | linear
  deriving DecidableEq, Repr

namespace Sampler

/-- The name of a sampler in documents. -/
def name : Sampler → String
  | nearest => "nearest"
  | linear => "linear"

/-- The name of a sampler in messages, which is also that of the filter mode it selects. -/
def label : Sampler → String
  | nearest => "Nearest"
  | linear => "Linear"

/-- The sampler that is used unless another one is asked for. -/
instance : Inhabited Sampler := ⟨linear⟩

/-- The sampler with a name. -/
def ofName? (name : String) : Option Sampler :=
  [nearest, linear].find? fun sampler => sampler.name = name

end Sampler

end RenderGraph.Gpu
