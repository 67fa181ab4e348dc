/-
Binding synthesis: which slots a stage of a pass has in a group, and the WGSL that declares them.

The order is fixed: the uniform block of the group, the mesh-uniform block in the pass's own group, then the resources
by kind and order of declaration. A resource is bound in the group of its owner and in the stages that see it, with
three exceptions: storage textures are not bound in the vertex stage, a depth texture is not bound in the pass that
renders into it, and a binding texture is bound for writing in compute and for reading in fragment. Slots are numbered
from 0 without gaps, so the declarations and the assignments agree index for index.
-/
import ShaderInterface.Resource.Registry

namespace ShaderInterface

/-- the group of the user's resources -/
def userGroup : Nat := 0

/-- the group of internal resources -/
def internalGroup : Nat := 1

/-- what a pass contributes to its bindings -/
structure PassContext where
  index : Nat
  internal : Bool
deriving DecidableEq, Repr

/-- the group that holds the mesh uniforms of the pass -/
def PassContext.ownGroup (pass : PassContext) : Nat := if pass.internal then internalGroup else userGroup

/-- the groups that the pass binds; an internal pass sees the user's resources too -/
def PassContext.groups (pass : PassContext) : List Nat :=
  if pass.internal then [userGroup, internalGroup] else [userGroup]

/-- a binding that has no number yet -/
structure Candidate where
  resource : BoundResource
  access : Access
  /-- its WGSL declaration, without attributes -/
  declaration : String
deriving DecidableEq, Repr

/-! ## Declarations -/

/-- declares a generated uniform block -/
def blockDeclaration (block : BlockName) : String := "var<uniform> " ++ block.var ++ ": " ++ block.struct ++ ";"

/-- declares a storage buffer -/
def storageDeclaration (name : String) (access : Access) (type : TypeExpr) : String :=
  "var<storage, " ++ access.name ++ "> " ++ name ++ ": " ++ type.text ++ ";"

/-- declares a sampler or texture -/
def handleDeclaration (name type : String) : String := "var " ++ name ++ ": " ++ type ++ ";"

/-- the WGSL type of a storage texture -/
def storageTextureType (format : TexelFormat) : String := "texture_storage_2d<" ++ format.wgsl ++ ", write>"

/-! ## Candidates -/

/-- a sampler or texture that a stage only reads -/
def readHandle (resource : BoundResource) (type : String) : Candidate :=
  ⟨resource, .read, handleDeclaration resource.name type⟩

/-- a texture that a stage writes as storage -/
def writtenTexture (resource : BoundResource) (format : TexelFormat) : Candidate :=
  ⟨resource, .readWrite, handleDeclaration resource.name (storageTextureType format)⟩

/-- a storage buffer in a stage, with the access that the stage has -/
def buffer? (resource : BoundResource) (type : TypeExpr) (visibility : StageSet) (stage : Stage) :
    Option Candidate :=
  (visibility.access? stage).map fun access => ⟨resource, access, storageDeclaration resource.name access type⟩

/-- the candidate if the condition holds -/
def bindIf (condition : Bool) (candidate : Candidate) : Option Candidate :=
  if condition then some candidate else none

/-- a side of a binding texture is bound in every pass, or in the pass it is pinned to -/
def boundIn (pinned : Option Pinning) (side : Pinning → Nat) (pass : PassContext) : Bool :=
  pinned.all fun p => side p = pass.index

/-- the binding that a resource has in a stage of a pass, if any -/
def Resource.candidate? (r : Resource) (pass : PassContext) (stage : Stage) : Option Candidate :=
  match r.details with
  | .storage type visibility readable _ => buffer? (.storage r.name readable) type visibility stage
  | .layers count width height visibility => buffer? .layers (layersType count width height) visibility stage
  | .sampler type visibility => bindIf (visibility.includes stage) (readHandle (.sampler r.name type) type.wgsl)
  | .storageTexture format visibility =>
    bindIf (stage ≠ .vertex && visibility.includes stage) (writtenTexture (.storageTexture r.name format) format)
  | .texture visibility => bindIf (visibility.includes stage) (readHandle (.texture r.name) "texture_2d<f32>")
  | .depthTexture writer visibility =>
    bindIf (visibility.includes stage && writer ≠ some pass.index)
      (readHandle (.depthTexture r.name) "texture_depth_2d")
  | .textureArray visibility =>
    bindIf (visibility.includes stage) (readHandle (.textureArray r.name) "texture_2d_array<f32>")
  | .externalTexture visibility =>
    bindIf (visibility.includes stage) (readHandle (.externalTexture r.name) "texture_external")
  | .bindingTexture readName format pinned =>
    match stage with
    | .vertex => none
    | .compute =>
      bindIf (boundIn pinned (·.writer) pass) (writtenTexture (.bindingTextureWrite r.name format) format)
    | .fragment =>
      bindIf (boundIn pinned (·.reader) pass) (readHandle (.bindingTextureRead readName) "texture_2d<f32>")

/-- the uniform block of a group, if the group has uniforms -/
def uniformCandidate? (registry : Registry) (internal : Bool) : Option Candidate :=
  bindIf (!(registry.groupUniforms internal).isEmpty)
    ⟨.uniforms internal, .read, blockDeclaration (BlockName.uniforms internal)⟩

/-- the mesh-uniform block, in the own group of a pass that has mesh uniforms -/
def meshCandidate? (registry : Registry) (pass : PassContext) (group : Nat) : Option Candidate :=
  bindIf (group = pass.ownGroup && !(registry.passUniforms pass.index).isEmpty)
    ⟨.meshUniforms, .read, blockDeclaration BlockName.mesh⟩

/-- the bindings of a group in a stage of a pass, in order -/
def candidates (registry : Registry) (pass : PassContext) (stage : Stage) (group : Nat) : List Candidate :=
  let internal : Bool := group = internalGroup
  (uniformCandidate? registry internal).toList ++ (meshCandidate? registry pass group).toList
    ++ (registry.inBindingOrder.filter (·.internal = internal)).filterMap (·.candidate? pass stage)

/-! ## Numbered bindings -/

/-- the bindings of one group in one stage -/
structure GroupBindings where
  group : Nat
  /-- their WGSL declarations, one on a line -/
  text : String
  assignments : List Assignment
deriving DecidableEq, Repr

/-- the attributes that put a variable into a slot -/
def slotAttributes (group binding : Nat) : String :=
  "@group(" ++ toString group ++ ") @binding(" ++ toString binding ++ ") "

/-- the line that declares a candidate in its slot -/
def declarationLine (group : Nat) (numbered : Candidate × Nat) : String :=
  slotAttributes group numbered.2 ++ numbered.1.declaration ++ "\n"

/-- the slot of a candidate -/
def assign (stage : Stage) (group : Nat) (numbered : Candidate × Nat) : Assignment :=
  ⟨numbered.1.resource, stage, group, numbered.2, numbered.1.access⟩

/-- the bindings of a group in a stage of a pass -/
def synthesize (registry : Registry) (pass : PassContext) (stage : Stage) (group : Nat) : GroupBindings :=
  let numbered := (candidates registry pass stage group).zipIdx
  ⟨group, String.join (numbered.map (declarationLine group)), numbered.map (assign stage group)⟩

end ShaderInterface
