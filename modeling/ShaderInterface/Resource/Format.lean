/-
Sampler types and texel formats of storage textures.
-/

namespace ShaderInterface

inductive SamplerType where
  | filtering
  | comparison
deriving DecidableEq, Repr

/-- the WGSL type of a sampler -/
def SamplerType.wgsl : SamplerType → String
  | .filtering => "sampler"
  | .comparison => "sampler_comparison"

inductive TexelFormat where
  | rgba8unorm
  | bgra8unorm
  | rgba8uint
  | rgba16float
  | rgba32float
  | r32float
  | r32uint
deriving DecidableEq, Repr

/-- the WGSL name of a format -/
def TexelFormat.wgsl : TexelFormat → String
  | .rgba8unorm => "rgba8unorm"
  | .bgra8unorm => "bgra8unorm"
  | .rgba8uint => "rgba8uint"
  | .rgba16float => "rgba16float"
  | .rgba32float => "rgba32float"
  | .r32float => "r32float"
  | .r32uint => "r32uint"

end ShaderInterface
