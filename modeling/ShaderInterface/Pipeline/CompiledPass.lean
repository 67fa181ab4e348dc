/-
Compiling one render pass: the layouts of the structs that its stages declare and of the generated blocks, the bindings
and the final text of each stage, and the size of every buffer that the pass binds.

The stages share their structs, so a struct declared in two of them must have the same members in both. A storage is as
large as its type or its contents, whichever is larger.
-/
import ShaderInterface.Layout.LayoutTable
import ShaderInterface.Pipeline.Generated
import ShaderInterface.Pipeline.RenderPass
import ShaderInterface.Source.StructDecl.Grammar

namespace ShaderInterface

structure CompiledStage where
  stage : Stage
  label : String
  /-- binding declarations, generated source, and the code of the stage -/
  text : String
  /-- the bindings of each group of the pass -/
  bindings : List GroupBindings
deriving DecidableEq, Repr

structure CompiledPass where
  context : PassContext
  name : String
  stages : List CompiledStage
  layouts : LayoutTable
  /-- the byte size of each buffer that a stage binds -/
  sizes : Table BoundResource Nat
deriving DecidableEq

/-- the slots of a stage in every group -/
def CompiledStage.assignments (stage : CompiledStage) : List Assignment := stage.bindings.flatMap (·.assignments)

namespace CompiledPass

def stage? (pass : CompiledPass) (stage : Stage) : Option CompiledStage := pass.stages.find? (·.stage = stage)

/-- the slots of a stage, none if the pass lacks it -/
def assignments (pass : CompiledPass) (stage : Stage) : List Assignment :=
  ((pass.stage? stage).map (·.assignments)).getD []

/-- the byte size of a buffer; samplers and textures have none -/
def bufferSize? (pass : CompiledPass) (resource : BoundResource) : Option Nat := pass.sizes.get? resource

end CompiledPass

/-! ## Structs -/

/-- the declarations with one more, which must agree with an earlier one of its name -/
def mergeDecl (decls : List StructDecl) (new : StructDecl) : Except Error (List StructDecl) :=
  match decls.find? (·.name = new.name) with
  | some old => if old = new then .ok decls else .error (.conflictingStruct new.name)
  | none => .ok (decls ++ [new])

/-- the declarations with those of a source -/
def mergeSource (decls : List StructDecl) (source : String) : Except Error (List StructDecl) := do
  let new ← StructDecl.parseAll source
  new.foldlM mergeDecl decls

/-- the structs of a pass: those of its stages and then the generated ones -/
def passDecls (registry : Registry) (pass : RenderPass) (context : PassContext) :
    Except Error (List StructDecl) :=
  (pass.stages.map (·.2.code) ++ [generatedText registry context]).foldlM mergeSource []

/-! ## Buffers -/

/-- the size of a generated block, which is that of its struct -/
def blockSize (layouts : LayoutTable) (block : BlockName) : Except Error Nat :=
  match layouts.get? block.struct with
  | some layout => .ok layout.byteSize
  | none => .error (.unknownResource block.struct)

/-- the size of a buffer of that type with those contents -/
def storageSize (layouts : LayoutTable) (type : TypeExpr) (payload : Option Bytes) : Except Error Nat := do
  let extent ← layouts.describe type
  match Size.fits? (payload.getD []).length with
  | some length => .ok (max extent.size length)
  | none => .error (.typeTooLarge type)

/-- the size of a declared storage -/
def declaredSize (registry : Registry) (layouts : LayoutTable) (kind : ResourceKind) (name : String) :
    Except Error Nat :=
  match (registry.find? kind name).map Resource.details with
  | some (.storage type _ _ payload) => storageSize layouts type payload
  | some (.layers count width height _) => storageSize layouts (layersType count width height) none
  | _ => .error (.unknownResource name)

/-- the size of what a slot holds, if it is a buffer -/
def bufferSize (registry : Registry) (layouts : LayoutTable) : BoundResource → Except Error (Option Nat)
  | .uniforms internal => (blockSize layouts (BlockName.uniforms internal)).map some
  | .meshUniforms => (blockSize layouts BlockName.mesh).map some
  | .storage name _ => (declaredSize registry layouts .storage name).map some
  | .layers => (declaredSize registry layouts .layers layersName).map some
  | _ => .ok none

/-- the sizes with that of one more slot, unless its buffer is sized already -/
def recordSize (registry : Registry) (layouts : LayoutTable) (sizes : Table BoundResource Nat) (a : Assignment) :
    Except Error (Table BoundResource Nat) :=
  match sizes.get? a.resource with
  | some _ => .ok sizes
  | none => do
    match ← bufferSize registry layouts a.resource with
    | some size => .ok (sizes.insert a.resource size)
    | none => .ok sizes

/-! ## The pass -/

/-- the bindings and the text of a stage -/
def compileStage (registry : Registry) (context : PassContext) (source : Stage × Shader) : CompiledStage :=
  let bindings := context.groups.map (synthesize registry context source.1)
  let declarations := String.join (bindings.map (·.text))
  let text := declarations ++ "\n" ++ generatedText registry context ++ "\n" ++ source.2.code
  ⟨source.1, source.2.label, text, bindings⟩

/-- the pass at an index, compiled -/
def compilePass (registry : Registry) (pass : RenderPass) (index : Nat) : Except Error CompiledPass := do
  let context : PassContext := ⟨index, pass.internal⟩
  let decls ← passDecls registry pass context
  let layouts ← LayoutTable.ofDecls registry.integerConstants decls
  let stages := pass.stages.map (compileStage registry context)
  let sizes ← (stages.flatMap (·.assignments)).foldlM (recordSize registry layouts) .empty
  .ok ⟨context, pass.name, stages, layouts, sizes⟩

end ShaderInterface
