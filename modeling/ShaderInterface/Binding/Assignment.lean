/-
Binding slots: which resource a slot of a stage holds, and how.
-/
import ShaderInterface.Resource.Format
import ShaderInterface.Resource.Stage
import ShaderInterface.Source.Token

namespace ShaderInterface

/-- the variable and WGSL type of a generated uniform block -/
structure BlockName where
  var : String
  struct : String
deriving DecidableEq, Repr

/-- the uniform block of the user's group or of the internal group -/
def BlockName.uniforms (internal : Bool) : BlockName :=
  if internal then ⟨"internal_params", "InternalParams"⟩ else ⟨"params", "Params"⟩

/-- the mesh-uniform block of a pass -/
def BlockName.mesh : BlockName := ⟨"mesh", "Mesh"⟩

/-- the shader variable of the layer storage -/
def layersName : String := "layers"

/-- a resource as a slot holds it, with what a backend has to know of it -/
inductive BoundResource where
  | uniforms (internal : Bool)
  | meshUniforms
  | storage (name : String) (readable : Bool)
  | layers
  | sampler (name : String) (type : SamplerType)
  | storageTexture (name : String) (format : TexelFormat)
  | texture (name : String)
  | depthTexture (name : String)
  | textureArray (name : String)
  | externalTexture (name : String)
  /-- a binding texture in the stage that writes it -/
  | bindingTextureWrite (name : String) (format : TexelFormat)
  /-- a binding texture in the stage that reads it -/
  | bindingTextureRead (name : String)
deriving DecidableEq, Repr

namespace BoundResource

/-- the shader variable -/
def name : BoundResource → String
  | .uniforms internal => (BlockName.uniforms internal).var
  | .meshUniforms => BlockName.mesh.var
  | .layers => layersName
  | .storage name _ => name
  | .sampler name _ => name
  | .storageTexture name _ => name
  | .texture name => name
  | .depthTexture name => name
  | .textureArray name => name
  | .externalTexture name => name
  | .bindingTextureWrite name _ => name
  | .bindingTextureRead name => name

/-- what a message calls a resource of this kind -/
def label : BoundResource → String
  | .uniforms _ => "uniforms"
  | .meshUniforms => "mesh uniforms"
  | .storage _ _ => "storage"
  | .layers => "layers"
  | .sampler _ _ => "sampler"
  | .storageTexture _ _ => "storage texture"
  | .texture _ => "texture"
  | .depthTexture _ => "depth texture"
  | .textureArray _ => "texture array"
  | .externalTexture _ => "external texture"
  | .bindingTextureWrite _ _ => "binding texture (write)"
  | .bindingTextureRead _ => "binding texture (read)"

end BoundResource

/-- one binding slot of one stage -/
structure Assignment where
  resource : BoundResource
  stage : Stage
  group : Nat
  binding : Nat
  access : Access
deriving DecidableEq, Repr

/-- how a message shows a slot -/
def Assignment.text (a : Assignment) : String :=
  a.resource.label ++ " " ++ quoted a.resource.name ++ " (" ++ a.access.name ++ ")"

end ShaderInterface
