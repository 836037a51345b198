/-!
# Texel formats

The formats that the texels of a GPU texture can have, with their names in
documents and in messages and the bytes of one texel or, for a compressed
format, of one block.
-/

namespace RenderGraph.Gpu

/-- The block sizes of adaptive scalable texture compression, width before height. -/
inductive AstcBlock where
  | b4x4 | b5x4 | b5x5 | b6x5 | b6x6 | b8x5 | b8x6
  | b8x8 | b10x5 | b10x6 | b10x8 | b10x10 | b12x10 | b12x12
  deriving DecidableEq, Repr

/-- What a texel of adaptive scalable texture compression holds. -/
inductive AstcChannel where
  /-- Numbers between zero and one. -/
  | unorm
  /-- Colours between zero and one with a gamma curve. -/
  | unormSrgb
  /-- Numbers of high dynamic range. -/
  | hdr
  deriving DecidableEq, Repr

/-- The format of a texel. -/
inductive TexelFormat where
  | r8Unorm | r8Snorm | r8Uint | r8Sint | r16Uint | r16Sint | r16Unorm | r16Snorm | r16Float
  | rg8Unorm | rg8Snorm | rg8Uint | rg8Sint | r32Uint | r32Sint | r32Float | rg16Uint | rg16Sint
  | rg16Unorm | rg16Snorm | rg16Float | rgba8Unorm | rgba8UnormSrgb | rgba8Snorm | rgba8Uint
  | rgba8Sint | bgra8Unorm | bgra8UnormSrgb | rgb9e5Ufloat | rgb10a2Uint | rgb10a2Unorm
  | rg11b10Ufloat | r64Uint | rg32Uint | rg32Sint | rg32Float | rgba16Uint | rgba16Sint
  | rgba16Unorm | rgba16Snorm | rgba16Float | rgba32Uint | rgba32Sint | rgba32Float | stencil8
  | depth16Unorm | depth24Plus | depth24PlusStencil8 | depth32Float | depth32FloatStencil8 | nv12
  | bc1RgbaUnorm | bc1RgbaUnormSrgb | bc2RgbaUnorm | bc2RgbaUnormSrgb | bc3RgbaUnorm
  | bc3RgbaUnormSrgb | bc4RUnorm | bc4RSnorm | bc5RgUnorm | bc5RgSnorm | bc6hRgbUfloat
  | bc6hRgbFloat | bc7RgbaUnorm | bc7RgbaUnormSrgb | etc2Rgb8Unorm | etc2Rgb8UnormSrgb
  | etc2Rgb8A1Unorm | etc2Rgb8A1UnormSrgb | etc2Rgba8Unorm | etc2Rgba8UnormSrgb | eacR11Unorm
  | eacR11Snorm | eacRg11Unorm | eacRg11Snorm
  | astc (block : AstcBlock) (channel : AstcChannel)
  deriving DecidableEq, Repr

/-- All block sizes. -/
def AstcBlock.all : List AstcBlock :=
  [.b4x4, .b5x4, .b5x5, .b6x5, .b6x6, .b8x5, .b8x6, .b8x8, .b10x5, .b10x6, .b10x8, .b10x10,
    .b12x10, .b12x12]

/-- The name of a block size. -/
def AstcBlock.name : AstcBlock → String
  | b4x4 => "4x4"
  | b5x4 => "5x4"
  | b5x5 => "5x5"
  | b6x5 => "6x5"
  | b6x6 => "6x6"
  | b8x5 => "8x5"
  | b8x6 => "8x6"
  | b8x8 => "8x8"
  | b10x5 => "10x5"
  | b10x6 => "10x6"
  | b10x8 => "10x8"
  | b10x10 => "10x10"
  | b12x10 => "12x10"
  | b12x12 => "12x12"

/-- All kinds of content. -/
def AstcChannel.all : List AstcChannel :=
  [.unorm, .unormSrgb, .hdr]

/-- The name of a kind of content in documents. -/
def AstcChannel.name : AstcChannel → String
  | unorm => "unorm"
  | unormSrgb => "unorm-srgb"
  | hdr => "hdr"

/-- The name of a kind of content in messages. -/
def AstcChannel.label : AstcChannel → String
  | unorm => "Unorm"
  | unormSrgb => "UnormSrgb"
  | hdr => "Hdr"

namespace TexelFormat

/-- The formats that are not made of a block size and a kind of content. -/
def simple : List TexelFormat :=
  [.r8Unorm, .r8Snorm, .r8Uint, .r8Sint, .r16Uint, .r16Sint, .r16Unorm, .r16Snorm, .r16Float,
    .rg8Unorm, .rg8Snorm, .rg8Uint, .rg8Sint, .r32Uint, .r32Sint, .r32Float, .rg16Uint, .rg16Sint,
    .rg16Unorm, .rg16Snorm, .rg16Float, .rgba8Unorm, .rgba8UnormSrgb, .rgba8Snorm, .rgba8Uint,
    .rgba8Sint, .bgra8Unorm, .bgra8UnormSrgb, .rgb9e5Ufloat, .rgb10a2Uint, .rgb10a2Unorm,
    .rg11b10Ufloat, .r64Uint, .rg32Uint, .rg32Sint, .rg32Float, .rgba16Uint, .rgba16Sint,
    .rgba16Unorm, .rgba16Snorm, .rgba16Float, .rgba32Uint, .rgba32Sint, .rgba32Float, .stencil8,
    .depth16Unorm, .depth24Plus, .depth24PlusStencil8, .depth32Float, .depth32FloatStencil8,
    .nv12, .bc1RgbaUnorm, .bc1RgbaUnormSrgb, .bc2RgbaUnorm, .bc2RgbaUnormSrgb, .bc3RgbaUnorm,
    .bc3RgbaUnormSrgb, .bc4RUnorm, .bc4RSnorm, .bc5RgUnorm, .bc5RgSnorm, .bc6hRgbUfloat,
    .bc6hRgbFloat, .bc7RgbaUnorm, .bc7RgbaUnormSrgb, .etc2Rgb8Unorm, .etc2Rgb8UnormSrgb,
    .etc2Rgb8A1Unorm, .etc2Rgb8A1UnormSrgb, .etc2Rgba8Unorm, .etc2Rgba8UnormSrgb, .eacR11Unorm,
    .eacR11Snorm, .eacRg11Unorm, .eacRg11Snorm]

/-- All formats. -/
def all : List TexelFormat :=
  simple ++ AstcBlock.all.flatMap fun block => AstcChannel.all.map (astc block)

/-- The name of a format in documents. -/
def name : TexelFormat → String
  | r8Unorm => "r8unorm"
  | r8Snorm => "r8snorm"
  | r8Uint => "r8uint"
  | r8Sint => "r8sint"
  | r16Uint => "r16uint"
  | r16Sint => "r16sint"
  | r16Unorm => "r16unorm"
  | r16Snorm => "r16snorm"
  | r16Float => "r16float"
  | rg8Unorm => "rg8unorm"
  | rg8Snorm => "rg8snorm"
  | rg8Uint => "rg8uint"
  | rg8Sint => "rg8sint"
  | r32Uint => "r32uint"
  | r32Sint => "r32sint"
  | r32Float => "r32float"
  | rg16Uint => "rg16uint"
  | rg16Sint => "rg16sint"
  | rg16Unorm => "rg16unorm"
  | rg16Snorm => "rg16snorm"
  | rg16Float => "rg16float"
  | rgba8Unorm => "rgba8unorm"
  | rgba8UnormSrgb => "rgba8unorm-srgb"
  | rgba8Snorm => "rgba8snorm"
  | rgba8Uint => "rgba8uint"
  | rgba8Sint => "rgba8sint"
  | bgra8Unorm => "bgra8unorm"
  | bgra8UnormSrgb => "bgra8unorm-srgb"
  | rgb9e5Ufloat => "rgb9e5ufloat"
  | rgb10a2Uint => "rgb10a2uint"
  | rgb10a2Unorm => "rgb10a2unorm"
  | rg11b10Ufloat => "rg11b10ufloat"
  | r64Uint => "r64uint"
  | rg32Uint => "rg32uint"
  | rg32Sint => "rg32sint"
  | rg32Float => "rg32float"
  | rgba16Uint => "rgba16uint"
  | rgba16Sint => "rgba16sint"
  | rgba16Unorm => "rgba16unorm"
  | rgba16Snorm => "rgba16snorm"
  | rgba16Float => "rgba16float"
  | rgba32Uint => "rgba32uint"
  | rgba32Sint => "rgba32sint"
  | rgba32Float => "rgba32float"
  | stencil8 => "stencil8"
  | depth16Unorm => "depth16unorm"
  | depth24Plus => "depth24plus"
  | depth24PlusStencil8 => "depth24plus-stencil8"
  | depth32Float => "depth32float"
  | depth32FloatStencil8 => "depth32float-stencil8"
  | nv12 => "nv12"
  | bc1RgbaUnorm => "bc1-rgba-unorm"
  | bc1RgbaUnormSrgb => "bc1-rgba-unorm-srgb"
  | bc2RgbaUnorm => "bc2-rgba-unorm"
  | bc2RgbaUnormSrgb => "bc2-rgba-unorm-srgb"
  | bc3RgbaUnorm => "bc3-rgba-unorm"
  | bc3RgbaUnormSrgb => "bc3-rgba-unorm-srgb"
  | bc4RUnorm => "bc4-r-unorm"
  | bc4RSnorm => "bc4-r-snorm"
  | bc5RgUnorm => "bc5-rg-unorm"
  | bc5RgSnorm => "bc5-rg-snorm"
  | bc6hRgbUfloat => "bc6h-rgb-ufloat"
  | bc6hRgbFloat => "bc6h-rgb-float"
  | bc7RgbaUnorm => "bc7-rgba-unorm"
  | bc7RgbaUnormSrgb => "bc7-rgba-unorm-srgb"
  | etc2Rgb8Unorm => "etc2-rgb8unorm"
  | etc2Rgb8UnormSrgb => "etc2-rgb8unorm-srgb"
  | etc2Rgb8A1Unorm => "etc2-rgb8a1unorm"
  | etc2Rgb8A1UnormSrgb => "etc2-rgb8a1unorm-srgb"
  | etc2Rgba8Unorm => "etc2-rgba8unorm"
  | etc2Rgba8UnormSrgb => "etc2-rgba8unorm-srgb"
  | eacR11Unorm => "eac-r11unorm"
  | eacR11Snorm => "eac-r11snorm"
  | eacRg11Unorm => "eac-rg11unorm"
  | eacRg11Snorm => "eac-rg11snorm"
  | astc block channel => "astc-" ++ block.name ++ "-" ++ channel.name

/-- The name of a format in messages. -/
def label : TexelFormat → String
  | r8Unorm => "R8Unorm"
  | r8Snorm => "R8Snorm"
  | r8Uint => "R8Uint"
  | r8Sint => "R8Sint"
  | r16Uint => "R16Uint"
  | r16Sint => "R16Sint"
  | r16Unorm => "R16Unorm"
  | r16Snorm => "R16Snorm"
  | r16Float => "R16Float"
  | rg8Unorm => "Rg8Unorm"
  | rg8Snorm => "Rg8Snorm"
  | rg8Uint => "Rg8Uint"
  | rg8Sint => "Rg8Sint"
  | r32Uint => "R32Uint"
  | r32Sint => "R32Sint"
  | r32Float => "R32Float"
  | rg16Uint => "Rg16Uint"
  | rg16Sint => "Rg16Sint"
  | rg16Unorm => "Rg16Unorm"
  | rg16Snorm => "Rg16Snorm"
  | rg16Float => "Rg16Float"
  | rgba8Unorm => "Rgba8Unorm"
  | rgba8UnormSrgb => "Rgba8UnormSrgb"
  | rgba8Snorm => "Rgba8Snorm"
  | rgba8Uint => "Rgba8Uint"
  | rgba8Sint => "Rgba8Sint"
  | bgra8Unorm => "Bgra8Unorm"
  | bgra8UnormSrgb => "Bgra8UnormSrgb"
  | rgb9e5Ufloat => "Rgb9e5Ufloat"
  | rgb10a2Uint => "Rgb10a2Uint"
  | rgb10a2Unorm => "Rgb10a2Unorm"
  | rg11b10Ufloat => "Rg11b10Ufloat"
  | r64Uint => "R64Uint"
  | rg32Uint => "Rg32Uint"
  | rg32Sint => "Rg32Sint"
  | rg32Float => "Rg32Float"
  | rgba16Uint => "Rgba16Uint"
  | rgba16Sint => "Rgba16Sint"
  | rgba16Unorm => "Rgba16Unorm"
  | rgba16Snorm => "Rgba16Snorm"
  | rgba16Float => "Rgba16Float"
  | rgba32Uint => "Rgba32Uint"
  | rgba32Sint => "Rgba32Sint"
  | rgba32Float => "Rgba32Float"
  | stencil8 => "Stencil8"
  | depth16Unorm => "Depth16Unorm"
  | depth24Plus => "Depth24Plus"
  | depth24PlusStencil8 => "Depth24PlusStencil8"
  | depth32Float => "Depth32Float"
  | depth32FloatStencil8 => "Depth32FloatStencil8"
  | nv12 => "NV12"
  | bc1RgbaUnorm => "Bc1RgbaUnorm"
  | bc1RgbaUnormSrgb => "Bc1RgbaUnormSrgb"
  | bc2RgbaUnorm => "Bc2RgbaUnorm"
  | bc2RgbaUnormSrgb => "Bc2RgbaUnormSrgb"
  | bc3RgbaUnorm => "Bc3RgbaUnorm"
  | bc3RgbaUnormSrgb => "Bc3RgbaUnormSrgb"
  | bc4RUnorm => "Bc4RUnorm"
  | bc4RSnorm => "Bc4RSnorm"
  | bc5RgUnorm => "Bc5RgUnorm"
  | bc5RgSnorm => "Bc5RgSnorm"
  | bc6hRgbUfloat => "Bc6hRgbUfloat"
  | bc6hRgbFloat => "Bc6hRgbFloat"
  | bc7RgbaUnorm => "Bc7RgbaUnorm"
  | bc7RgbaUnormSrgb => "Bc7RgbaUnormSrgb"
  | etc2Rgb8Unorm => "Etc2Rgb8Unorm"
  | etc2Rgb8UnormSrgb => "Etc2Rgb8UnormSrgb"
  | etc2Rgb8A1Unorm => "Etc2Rgb8A1Unorm"
  | etc2Rgb8A1UnormSrgb => "Etc2Rgb8A1UnormSrgb"
  | etc2Rgba8Unorm => "Etc2Rgba8Unorm"
  | etc2Rgba8UnormSrgb => "Etc2Rgba8UnormSrgb"
  | eacR11Unorm => "EacR11Unorm"
  | eacR11Snorm => "EacR11Snorm"
  | eacRg11Unorm => "EacRg11Unorm"
  | eacRg11Snorm => "EacRg11Snorm"
  | astc block channel =>
    "Astc \x7b block: B" ++ block.name ++ ", channel: " ++ channel.label ++ " \x7d"

/-- The format with a name. -/
def ofName? (name : String) : Option TexelFormat :=
  all.find? fun format => format.name = name

/-- The bytes of a texel, or of a block of a compressed format. Formats with several planes or
of unspecified size have none. -/
def texelBytes : TexelFormat → Nat
  | r8Unorm | r8Snorm | r8Uint | r8Sint | stencil8 => 1
  | r16Uint | r16Sint | r16Unorm | r16Snorm | r16Float | rg8Unorm | rg8Snorm | rg8Uint | rg8Sint
  | depth16Unorm => 2
  | r32Uint | r32Sint | r32Float | rg16Uint | rg16Sint | rg16Unorm | rg16Snorm | rg16Float
  | rgba8Unorm | rgba8UnormSrgb | rgba8Snorm | rgba8Uint | rgba8Sint | bgra8Unorm | bgra8UnormSrgb
  | rgb9e5Ufloat | rgb10a2Uint | rgb10a2Unorm | rg11b10Ufloat | depth32Float => 4
  | r64Uint | rg32Uint | rg32Sint | rg32Float | rgba16Uint | rgba16Sint | rgba16Unorm
  | rgba16Snorm | rgba16Float | bc1RgbaUnorm | bc1RgbaUnormSrgb | bc4RUnorm | bc4RSnorm
  | etc2Rgb8Unorm | etc2Rgb8UnormSrgb | etc2Rgb8A1Unorm | etc2Rgb8A1UnormSrgb | eacR11Unorm
  | eacR11Snorm => 8
  | rgba32Uint | rgba32Sint | rgba32Float | bc2RgbaUnorm | bc2RgbaUnormSrgb | bc3RgbaUnorm
  | bc3RgbaUnormSrgb | bc5RgUnorm | bc5RgSnorm | bc6hRgbUfloat | bc6hRgbFloat | bc7RgbaUnorm
  | bc7RgbaUnormSrgb | etc2Rgba8Unorm | etc2Rgba8UnormSrgb | eacRg11Unorm | eacRg11Snorm => 16
  | depth24Plus | depth24PlusStencil8 | depth32FloatStencil8 | nv12 => 0
  | astc _ _ => 16

/-- The number of 32-bit floating point channels of a format that consists of such. -/
def floatChannels? : TexelFormat → Option Nat
  | r32Float => some 1
  | rg32Float => some 2
  | rgba32Float => some 4
  | _ => none

end TexelFormat

end RenderGraph.Gpu
