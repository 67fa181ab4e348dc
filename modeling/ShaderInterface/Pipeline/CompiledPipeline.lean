/-
Compiling a pipeline, and what a compiled pipeline answers while values change.

Compilation fails as a whole if any pass fails. Passes share the storages, so each storage must have one size in all of
them. After compilation, uniform values and storage contents may change; a query takes the registry as it is then.
-/
import ShaderInterface.Binding.LayoutEntry
import ShaderInterface.Binding.Refresh
import ShaderInterface.Pipeline.CompiledPass
import ShaderInterface.Uniform.Packing

namespace ShaderInterface

structure CompiledPipeline where
  passes : List CompiledPass
  /-- the byte size of each storage that a pass binds, by name -/
  storageSizes : Table String Nat
deriving DecidableEq

/-! ## Compilation -/

/-- the resource is a storage, the layer storage included -/
def BoundResource.isStorage : BoundResource → Bool
  | .storage _ _ | .layers => true
  | _ => false

/-- the storage sizes with one more, which must agree with an earlier one of its name -/
def mergeStorageSize (sizes : Table String Nat) (entry : BoundResource × Nat) : Except Error (Table String Nat) :=
  if entry.1.isStorage then
    match sizes.get? entry.1.name with
    | some first =>
      if first = entry.2 then .ok sizes else .error (.storageSizeMismatch entry.1.name first entry.2)
    | none => .ok (sizes.insert entry.1.name entry.2)
  else .ok sizes

/-- compile passes that are numbered from `index` on, given the storage sizes of those before -/
def compilePasses (registry : Registry) :
    Nat → Table String Nat → List RenderPass → Except Error (List CompiledPass × Table String Nat)
  | _, sizes, [] => .ok ([], sizes)
  | index, sizes, pass :: rest => do
    let compiled ← compilePass registry pass index
    let sizes ← compiled.sizes.entries.foldlM mergeStorageSize sizes
    let (others, sizes) ← compilePasses registry (index + 1) sizes rest
    .ok (compiled :: others, sizes)

/-- the pipeline, compiled -/
def Pipeline.compile (pipeline : Pipeline) : Except Error CompiledPipeline := do
  pipeline.validate
  let (passes, sizes) ← compilePasses pipeline.registry 0 .empty pipeline.passes
  .ok ⟨passes, sizes⟩

/-! ## Queries -/

namespace CompiledPipeline

def pass? (compiled : CompiledPipeline) (index : Nat) : Option CompiledPass := compiled.passes[index]?

/-- the pass at an index, which must exist -/
def getPass (compiled : CompiledPipeline) (index : Nat) : Except Error CompiledPass :=
  match compiled.pass? index with
  | some pass => .ok pass
  | none => .error (.unknownPass index)

/-- the size of a storage that some pass binds -/
def storageSize? (compiled : CompiledPipeline) (name : String) : Option Nat := compiled.storageSizes.get? name

/-- the layout of the user's or the internal uniform block, from the first pass that has one -/
def uniformLayout? (compiled : CompiledPipeline) (internal : Bool) : Option StructLayout :=
  compiled.passes.findSome? fun pass => pass.layouts.get? (BlockName.uniforms internal).struct

/-- the current values of uniforms, in the layout of their block; no bytes without uniforms -/
def packBlock (layout : Option StructLayout) (block : BlockName) (uniforms : List Uniform) : Except Error Bytes :=
  if uniforms.isEmpty then .ok []
  else
    match layout with
    | some layout => layout.pack (uniforms.map fun u => (u.name, u.value))
    | none => .error (.unknownResource block.struct)

/-- the buffer of the user's or the internal uniform block -/
def packUniforms (compiled : CompiledPipeline) (registry : Registry) (internal : Bool) : Except Error Bytes :=
  packBlock (compiled.uniformLayout? internal) (BlockName.uniforms internal) (registry.groupUniforms internal)

/-- the buffer of the mesh uniforms of a pass -/
def packMeshUniforms (compiled : CompiledPipeline) (registry : Registry) (index : Nat) : Except Error Bytes := do
  let pass ← compiled.getPass index
  packBlock (pass.layouts.get? BlockName.mesh.struct) BlockName.mesh (registry.passUniforms index)

/-- the bindings of a group synthesized again, if they fill the same slots as before -/
def refreshGroup (registry : Registry) (context : PassContext) (stage : Stage) (old : GroupBindings) :
    Except Error GroupBindings := do
  let new := synthesize registry context stage old.group
  verifyRefresh old.assignments new.assignments
  .ok new

/-- the bindings of a stage synthesized again, if they fill the same slots as when the pipeline was compiled -/
def refreshBindings (compiled : CompiledPipeline) (registry : Registry) (index : Nat) (stage : Stage) :
    Except Error (List GroupBindings) := do
  let pass ← compiled.getPass index
  match pass.stage? stage with
  | some compiledStage => compiledStage.bindings.mapM (refreshGroup registry pass.context stage)
  | none => .error (.unknownStage stage index)

/-- the layout entries of a group in a stage, none if the pass lacks the stage -/
def layoutEntries (compiled : CompiledPipeline) (index : Nat) (stage : Stage) (group : Nat) :
    Except Error (List LayoutEntry) := do
  let pass ← compiled.getPass index
  let slots := (pass.assignments stage).filter (·.group = group)
  .ok (slots.map fun a => a.layoutEntry (pass.bufferSize? a.resource))

end CompiledPipeline
end ShaderInterface
