/-
Bind-group layout entries: what a graphics backend is told about a slot.

Uniform blocks are uniform buffers, storages are storage buffers that are read-only where the stage only reads.
Storage textures, and binding textures where they are written, are write-only. Frames of an external texture arrive in
an ordinary 2D texture.
-/
import ShaderInterface.Binding.Assignment

namespace ShaderInterface

inductive BufferUse where
  | uniform
  | storageRead
  | storageReadWrite
deriving DecidableEq, Repr

inductive SampleType where
  | floatFilterable
  | depth
deriving DecidableEq, Repr

inductive ViewDimension where
  | d2
  | d2Array
deriving DecidableEq, Repr

inductive EntryType where
  /-- a buffer, with its size unless that is 0 or unknown -/
  | buffer (use : BufferUse) (minSize : Option Nat)
  | sampler (type : SamplerType)
  | texture (sample : SampleType) (view : ViewDimension)
  /-- a write-only 2D texture -/
  | storageTexture (format : TexelFormat)
deriving DecidableEq, Repr

structure LayoutEntry where
  binding : Nat
  visibility : StageSet
  type : EntryType
deriving DecidableEq, Repr

/-- the use of a storage buffer by a stage with that access -/
def BufferUse.ofAccess : Access → BufferUse
  | .read => .storageRead
  | .readWrite => .storageReadWrite

/-- what a slot holds, for a backend; `size` is the size of its buffer -/
def Assignment.entryType (a : Assignment) (size : Option Nat) : EntryType :=
  let minSize := size.filter (· ≠ 0)
  match a.resource with
  | .uniforms _ | .meshUniforms => .buffer .uniform minSize
  | .storage _ _ | .layers => .buffer (.ofAccess a.access) minSize
  | .sampler _ type => .sampler type
  | .storageTexture _ format | .bindingTextureWrite _ format => .storageTexture format
  | .texture _ | .bindingTextureRead _ | .externalTexture _ => .texture .floatFilterable .d2
  | .depthTexture _ => .texture .depth .d2
  | .textureArray _ => .texture .floatFilterable .d2Array

/-- the entry of a slot, visible to the stage of the slot only -/
def Assignment.layoutEntry (a : Assignment) (size : Option Nat) : LayoutEntry :=
  ⟨a.binding, ⟨a.stage.bit⟩, a.entryType size⟩

end ShaderInterface
