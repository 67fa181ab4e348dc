/-
Declared resources other than uniforms: buffers, samplers and textures.

A resource is internal when the system declares it for its own passes, and otherwise the user's. Most resources are
visible to a set of stages. A binding texture is not: the compute stage writes it and the fragment stage reads it, in
every pass or, when it is pinned, in one pass each.
-/
import ShaderInterface.Resource.Format
import ShaderInterface.Resource.Kind
import ShaderInterface.Resource.Stage
import ShaderInterface.Source.TypeExpr
import ShaderInterface.Uniform.Value

namespace ShaderInterface

/-- the passes that write and read a pinned binding texture -/
structure Pinning where
  writer : Nat
  reader : Nat
deriving DecidableEq, Repr

/-- what a resource is, by kind -/
inductive ResourceDetails where
  /-- a buffer; one with a payload is mapped, and its payload may be replaced -/
  | storage (type : TypeExpr) (visibility : StageSet) (readable : Bool) (payload : Option Bytes)
  /-- the layer storage: `count` layers of `width * height` texels -/
  | layers (count width height : Nat) (visibility : StageSet)
  | sampler (type : SamplerType) (visibility : StageSet)
  | storageTexture (format : TexelFormat) (visibility : StageSet)
  | texture (visibility : StageSet)
  /-- a depth texture, with the pass that renders into it -/
  | depthTexture (writer : Option Nat) (visibility : StageSet)
  | textureArray (visibility : StageSet)
  | externalTexture (visibility : StageSet)
  /-- a binding texture under the name of its write side, with the name of its read side -/
  | bindingTexture (readName : String) (format : TexelFormat) (pinned : Option Pinning)
deriving DecidableEq, Repr

structure Resource where
  name : String
  internal : Bool
  details : ResourceDetails
deriving DecidableEq, Repr

/-- the type of a layer storage: layers of texels of four floats; a texel count that is no size is clamped -/
def layersType (count width height : Nat) : TypeExpr :=
  .array (.array (.named "vec4f") (.fixed (Size.clamp (width * height)))) (.fixed count)

namespace ResourceDetails

def kind : ResourceDetails → ResourceKind
  | .storage .. => .storage
  | .layers .. => .layers
  | .sampler .. => .sampler
  | .storageTexture .. => .storageTexture
  | .texture .. => .texture
  | .depthTexture .. => .depthTexture
  | .textureArray .. => .textureArray
  | .externalTexture .. => .externalTexture
  | .bindingTexture .. => .bindingTexture

/-- the stages that see the resource, where that is a matter of visibility -/
def visibility? : ResourceDetails → Option StageSet
  | .storage _ visibility _ _ => some visibility
  | .layers _ _ _ visibility => some visibility
  | .sampler _ visibility => some visibility
  | .storageTexture _ visibility => some visibility
  | .texture visibility => some visibility
  | .depthTexture _ visibility => some visibility
  | .textureArray visibility => some visibility
  | .externalTexture visibility => some visibility
  | .bindingTexture .. => none

/-- the contents of a mapped storage -/
def payload? : ResourceDetails → Option Bytes
  | .storage _ _ _ payload => payload
  | _ => none

/-- the details with other contents, if they are those of a storage -/
def withPayload (payload : Bytes) : ResourceDetails → ResourceDetails
  | .storage type visibility readable _ => .storage type visibility readable (some payload)
  | details => details

end ResourceDetails

def Resource.kind (r : Resource) : ResourceKind := r.details.kind

/-- the resource is of that kind and name, which together identify it -/
def Resource.is (r : Resource) (kind : ResourceKind) (name : String) : Bool := r.kind = kind ∧ r.name = name

end ShaderInterface
