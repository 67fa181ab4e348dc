/-
Render passes and pipelines, as declared.

A pass has up to three shader stages. It needs at least one, and vertex and fragment come together. A pipeline is a
registry and its passes; it can be compiled only if every pass is complete and some compute stage can write the binding
textures, if there are any.
-/
import ShaderInterface.Resource.Registry

namespace ShaderInterface

/-- the source of one stage, as its author wrote it -/
structure Shader where
  label : String
  code : String
deriving DecidableEq, Repr

structure RenderPass where
  name : String
  /-- added by the system, and bound to internal resources as well -/
  internal : Bool := false
  compute : Option Shader := none
  vertex : Option Shader := none
  fragment : Option Shader := none
deriving DecidableEq, Repr

namespace RenderPass

def shader? (pass : RenderPass) : Stage → Option Shader
  | .compute => pass.compute
  | .vertex => pass.vertex
  | .fragment => pass.fragment

/-- the stages that the pass has, in the order in which they are compiled -/
def stages (pass : RenderPass) : List (Stage × Shader) :=
  Stage.all.filterMap fun stage => (pass.shader? stage).map (stage, ·)

/-- the pass, at this index, has stages, and vertex and fragment both or neither -/
def check (pass : RenderPass) (index : Nat) : Except Error Unit :=
  if pass.vertex.isSome ≠ pass.fragment.isSome then .error (.incompletePair index)
  else if pass.vertex.isNone ∧ pass.compute.isNone then .error (.emptyPass index)
  else .ok ()

end RenderPass

structure Pipeline where
  registry : Registry := .empty
  passes : List RenderPass := []
deriving DecidableEq

namespace Pipeline

/-- check passes that are numbered from `index` on -/
def checkPasses : Nat → List RenderPass → Except Error Unit
  | _, [] => .ok ()
  | index, pass :: rest => do
    pass.check index
    checkPasses (index + 1) rest

/-- some pass can write the binding textures, if there are any -/
def checkBindingTextures (pipeline : Pipeline) : Except Error Unit :=
  if pipeline.passes.any (·.compute.isSome) then .ok ()
  else
    match (pipeline.registry.ofKind .bindingTexture).head? with
    | some texture => .error (.bindingTextureWithoutCompute texture.name)
    | none => .ok ()

/-- the pipeline may be compiled -/
def validate (pipeline : Pipeline) : Except Error Unit := do
  if Size.limit ≤ pipeline.passes.length then .error (.tooManyPasses pipeline.passes.length)
  checkPasses 0 pipeline.passes
  pipeline.checkBindingTextures

end Pipeline
end ShaderInterface
