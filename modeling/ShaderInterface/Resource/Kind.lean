/-
Resource kinds, in the order in which a stage binds them.
-/

namespace ShaderInterface

inductive ResourceKind where
  | storage
  | layers
  | sampler
  | storageTexture
  | texture
  | depthTexture
  | textureArray
  | externalTexture
  | bindingTexture
deriving DecidableEq, Repr

namespace ResourceKind

/-- every kind, in binding order -/
def all : List ResourceKind :=
  [.storage, .layers, .sampler, .storageTexture, .texture, .depthTexture, .textureArray, .externalTexture,
    .bindingTexture]

/-- what a message calls a resource of the kind -/
def label : ResourceKind → String
  | .storage => "storage"
  | .layers => "layers"
  | .sampler => "sampler"
  | .storageTexture => "storage texture"
  | .texture => "texture"
  | .depthTexture => "depth texture"
  | .textureArray => "texture array"
  | .externalTexture => "external texture"
  | .bindingTexture => "binding texture"

end ResourceKind
end ShaderInterface
