/-
What a slot declares, read three ways: as WGSL text, as a layout entry, and as the candidate it comes from.

A `ShaderVariable` is what its declaration says beyond the name: the address space and the type. A slot has one by its
resource and access (`Assignment.shaderVariable`), and nothing else decides its declaration and its layout entry.

- `text_inj`: the text of a declaration determines the variable.
- `candidate_declaration`: the declaration that synthesis prints for a slot is that of its variable.
- `entryType_eq`: the layout entry of a slot is that of its variable.
-/
import ShaderInterface.Binding.LayoutEntry
import ShaderInterface.Binding.Synthesis
import ShaderInterface.Proofs.Resource.Identity

namespace ShaderInterface

/-! ## Variables -/

/-- a type that WGSL does not keep in memory -/
inductive HandleType where
  | sampler (type : SamplerType)
  | storageTexture (format : TexelFormat)
  | texture2d
  | textureDepth2d
  | texture2dArray
  | textureExternal
deriving DecidableEq

/-- the address space and type of a shader variable -/
inductive ShaderVariable where
  | uniform (type : String)
  | storage (access : Access) (type : String)
  | handle (type : HandleType)
deriving DecidableEq

def HandleType.wgsl : HandleType → String
  | .sampler type => type.wgsl
  | .storageTexture format => storageTextureType format
  | .texture2d => "texture_2d<f32>"
  | .textureDepth2d => "texture_depth_2d"
  | .texture2dArray => "texture_2d_array<f32>"
  | .textureExternal => "texture_external"

/-- what a backend binds to a handle; frames of an external texture arrive in a 2D texture -/
def HandleType.entryType : HandleType → EntryType
  | .sampler type => .sampler type
  | .storageTexture format => .storageTexture format
  | .texture2d | .textureExternal => .texture .floatFilterable .d2
  | .textureDepth2d => .texture .depth .d2
  | .texture2dArray => .texture .floatFilterable .d2Array

/-- the types that an entry can be bound to -/
def EntryType.handles : EntryType → List HandleType
  | .buffer _ _ => []
  | .sampler type => [.sampler type]
  | .storageTexture format => [.storageTexture format]
  | .texture .floatFilterable .d2 => [.texture2d, .textureExternal]
  | .texture .floatFilterable .d2Array => [.texture2dArray]
  | .texture .depth .d2 => [.textureDepth2d]
  | .texture .depth .d2Array => []

namespace ShaderVariable

/-- how the declaration starts -/
def opening : ShaderVariable → String
  | .uniform _ => "var<uniform> "
  | .storage .read _ => "var<storage, read> "
  | .storage .readWrite _ => "var<storage, read_write> "
  | .handle _ => "var "

def type : ShaderVariable → String
  | .uniform type => type
  | .storage _ type => type
  | .handle type => type.wgsl

/-- the declaration of the variable under a name -/
def text (name : String) (v : ShaderVariable) : String := v.opening ++ name ++ ": " ++ v.type ++ ";"

def entryType (minSize : Option Nat) : ShaderVariable → EntryType
  | .uniform _ => .buffer .uniform minSize
  | .storage access _ => .buffer (.ofAccess access) minSize
  | .handle type => type.entryType

end ShaderVariable

/-- the type under which a storage of that kind and name was declared -/
def Registry.storedType (registry : Registry) (kind : ResourceKind) (name : String) : String :=
  match (registry.find? kind name).map Resource.details with
  | some (.storage type _ _ _) => type.text
  | some (.layers count width height _) => (layersType count width height).text
  | _ => ""

/-- the variable that a slot of that resource and access binds -/
def BoundResource.shaderVariable (registry : Registry) (access : Access) : BoundResource → ShaderVariable
  | .uniforms internal => .uniform (BlockName.uniforms internal).struct
  | .meshUniforms => .uniform BlockName.mesh.struct
  | .storage name _ => .storage access (registry.storedType .storage name)
  | .layers => .storage access (registry.storedType .layers layersName)
  | .sampler _ type => .handle (.sampler type)
  | .storageTexture _ format => .handle (.storageTexture format)
  | .texture _ => .handle .texture2d
  | .depthTexture _ => .handle .textureDepth2d
  | .textureArray _ => .handle .texture2dArray
  | .externalTexture _ => .handle .textureExternal
  | .bindingTextureWrite _ format => .handle (.storageTexture format)
  | .bindingTextureRead _ => .handle .texture2d

def Assignment.shaderVariable (registry : Registry) (a : Assignment) : ShaderVariable :=
  a.resource.shaderVariable registry a.access

/-- the WGSL declaration of the variable that a slot names -/
def Assignment.declaration (registry : Registry) (a : Assignment) : String :=
  (a.shaderVariable registry).text a.resource.name

/-! ## The text determines the variable -/

/-- the types of handles -/
def HandleType.all : List HandleType :=
  [.sampler .filtering, .sampler .comparison, .storageTexture .rgba8unorm, .storageTexture .bgra8unorm,
    .storageTexture .rgba8uint, .storageTexture .rgba16float, .storageTexture .rgba32float, .storageTexture .r32float,
    .storageTexture .r32uint, .texture2d, .textureDepth2d, .texture2dArray, .textureExternal]

theorem HandleType.mem_all (type : HandleType) : type ∈ all := by
  cases type with
  | sampler type => cases type <;> decide
  | storageTexture format => cases format <;> decide
  | texture2d => decide
  | textureDepth2d => decide
  | texture2dArray => decide
  | textureExternal => decide

theorem HandleType.wgsl_inj {type type' : HandleType} (h : type.wgsl = type'.wgsl) : type = type' := by
  have hall : ∀ t ∈ all, ∀ t' ∈ all, t.wgsl = t'.wgsl → t = t' := by decide +kernel
  exact hall type type.mem_all type' type'.mem_all h

namespace ShaderVariable

/-- the ways in which a declaration starts -/
def openings : List String := ["var<uniform> ", "var<storage, read> ", "var<storage, read_write> ", "var "]

theorem opening_mem (v : ShaderVariable) : v.opening ∈ openings := by
  cases v with
  | uniform type => simp [opening, openings]
  | storage access type => cases access <;> simp [opening, openings]
  | handle type => simp [opening, openings]

/-- no declaration starts like one of another address space -/
theorem opening_inj {v w : ShaderVariable} {rest rest' : String} (h : v.opening ++ rest = w.opening ++ rest') :
    v.opening = w.opening := by
  have hstart : ∀ s ∈ openings, ∀ t ∈ openings, s.toList <+: t.toList → s = t := by decide +kernel
  have hlist : v.opening.toList ++ rest.toList = w.opening.toList ++ rest'.toList := by
    rw [← String.toList_append, ← String.toList_append, h]
  have hv : v.opening.toList <+: v.opening.toList ++ rest.toList := List.prefix_append _ _
  have hw : w.opening.toList <+: v.opening.toList ++ rest.toList := hlist ▸ List.prefix_append _ _
  rcases List.prefix_or_prefix_of_prefix hv hw with hvw | hwv
  · exact hstart _ v.opening_mem _ w.opening_mem hvw
  · exact (hstart _ w.opening_mem _ v.opening_mem hwv).symm

/-- **The text of a declaration determines the variable**, given its name. -/
theorem text_inj {name : String} {v w : ShaderVariable} : v.text name = w.text name ↔ v = w := by
  refine ⟨?_, fun h => h ▸ rfl⟩
  intro h
  simp only [text, String.append_assoc] at h
  have hopening := opening_inj h
  rw [hopening, String.append_right_inj, String.append_right_inj, String.append_right_inj, String.append_left_inj] at h
  cases v with
  | uniform type =>
    cases w with
    | uniform type' => exact congrArg uniform h
    | storage access type' => cases access <;> simp [opening] at hopening
    | handle type' => simp [opening] at hopening
  | storage access type =>
    cases w with
    | uniform type' => cases access <;> simp [opening] at hopening
    | storage access' type' =>
      have haccess : access = access' := by
        cases access <;> cases access' <;> simp [opening] at hopening ⊢
      rw [haccess, show type = type' from h]
    | handle type' => cases access <;> simp [opening] at hopening
  | handle type =>
    cases w with
    | uniform type' => simp [opening] at hopening
    | storage access type' => cases access <;> simp [opening] at hopening
    | handle type' => exact congrArg handle (HandleType.wgsl_inj h)

end ShaderVariable
/-! ## Candidates -/

theorem bindIf_eq_some {condition : Bool} {candidate c : Candidate} :
    bindIf condition candidate = some c ↔ condition = true ∧ candidate = c := by
  cases condition <;> simp [bindIf]

theorem storageDeclaration_eq (name : String) (access : Access) (type : TypeExpr) :
    storageDeclaration name access type = (ShaderVariable.storage access type.text).text name := by
  cases access <;> rfl

theorem buffer_eq_some {resource : BoundResource} {type : TypeExpr} {visibility : StageSet} {stage : Stage}
    {c : Candidate} (h : buffer? resource type visibility stage = some c) :
    c.resource = resource ∧ c.declaration = (ShaderVariable.storage c.access type.text).text resource.name := by
  obtain ⟨access, -, rfl⟩ := Option.map_eq_some_iff.1 h
  exact ⟨rfl, storageDeclaration_eq _ _ _⟩

/-- the candidate declares the variable of its slot -/
def Candidate.Declares (registry : Registry) (c : Candidate) : Prop :=
  c.declaration = (c.resource.shaderVariable registry c.access).text c.resource.name

theorem declares_of_bindIf {registry : Registry} {condition : Bool} {candidate c : Candidate}
    (hc : bindIf condition candidate = some c) (h : candidate.Declares registry) : c.Declares registry :=
  (bindIf_eq_some.1 hc).2 ▸ h

theorem candidate_declares {registry : Registry} (hreg : registry.Identified) {r : Resource}
    (hr : r ∈ registry.resources) {pass : PassContext} {stage : Stage} {c : Candidate}
    (hc : r.candidate? pass stage = some c) : c.Declares registry := by
  have hfind := hreg.find?_of_mem hr
  have hlayers := hreg.layers r hr
  obtain ⟨name, internal, details⟩ := r
  cases details with
  | storage type visibility readable payload =>
    obtain ⟨hres, hdecl⟩ := buffer_eq_some hc
    have htype : registry.storedType .storage name = type.text := by
      rw [Registry.storedType, show registry.find? .storage name = _ from hfind]
      rfl
    rw [Candidate.Declares, hdecl, hres, BoundResource.shaderVariable, htype]
  | layers count width height visibility =>
    obtain ⟨hres, hdecl⟩ := buffer_eq_some hc
    have htype : registry.storedType .layers layersName = (layersType count width height).text := by
      rw [Registry.storedType, ← hlayers rfl, show registry.find? .layers name = _ from hfind]
      rfl
    rw [Candidate.Declares, hdecl, hres, BoundResource.shaderVariable, htype]
  | sampler type visibility => exact declares_of_bindIf hc rfl
  | storageTexture format visibility => exact declares_of_bindIf hc rfl
  | texture visibility => exact declares_of_bindIf hc rfl
  | depthTexture writer visibility => exact declares_of_bindIf hc rfl
  | textureArray visibility => exact declares_of_bindIf hc rfl
  | externalTexture visibility => exact declares_of_bindIf hc rfl
  | bindingTexture readName format pinned =>
    cases stage with
    | vertex => simp [Resource.candidate?] at hc
    | compute => exact declares_of_bindIf hc rfl
    | fragment => exact declares_of_bindIf hc rfl

/-- **Synthesis prints the variables of its slots**: each candidate of a group declares that of its slot. -/
theorem candidates_declare {registry : Registry} (hreg : registry.Identified) {pass : PassContext} {stage : Stage}
    {group : Nat} {c : Candidate} (hc : c ∈ candidates registry pass stage group) : c.Declares registry := by
  rcases List.mem_append.1 hc with hblock | hresource
  · rcases List.mem_append.1 hblock with huniform | hmesh
    · exact declares_of_bindIf (Option.mem_toList.1 huniform) rfl
    · exact declares_of_bindIf (Option.mem_toList.1 hmesh) rfl
  · obtain ⟨r, hr, hc⟩ := List.mem_filterMap.1 hresource
    obtain ⟨kind, -, hkind⟩ := List.mem_flatMap.1 (List.mem_filter.1 hr).1
    exact candidate_declares hreg (List.mem_filter.1 hkind).1 hc

/-! ## Layout entries -/

/-- **The layout entry of a slot is that of its variable.** -/
theorem Assignment.entryType_eq (registry : Registry) (a : Assignment) (size : Option Nat) :
    a.entryType size = (a.shaderVariable registry).entryType (size.filter (· ≠ 0)) := by
  obtain ⟨resource, stage, group, binding, access⟩ := a
  cases resource <;> rfl

theorem HandleType.entryType_eq_iff {type : HandleType} {e : EntryType} : type.entryType = e ↔ type ∈ e.handles := by
  cases e with
  | buffer use size => cases type <;> simp [entryType, EntryType.handles]
  | sampler s => cases type <;> simp [entryType, EntryType.handles]
  | storageTexture format => cases type <;> simp [entryType, EntryType.handles]
  | texture sample view => cases sample <;> cases view <;> cases type <;> simp [entryType, EntryType.handles]

namespace ShaderVariable

variable {v : ShaderVariable} {size : Option Nat}

theorem entryType_uniform : (∃ n, v.entryType size = .buffer .uniform n) ↔ ∃ type, v = .uniform type := by
  cases v with
  | uniform type => simp [entryType]
  | storage access type => cases access <;> simp [entryType, BufferUse.ofAccess]
  | handle type => cases type <;> simp [entryType, HandleType.entryType]

theorem entryType_storage {access : Access} :
    (∃ n, v.entryType size = .buffer (.ofAccess access) n) ↔ ∃ type, v = .storage access type := by
  cases v with
  | uniform type => cases access <;> simp [entryType, BufferUse.ofAccess]
  | storage access' type => cases access <;> cases access' <;> simp [entryType, BufferUse.ofAccess]
  | handle type => cases type <;> simp [entryType, HandleType.entryType]

theorem minSize_of_entryType {use : BufferUse} {minSize : Option Nat} (h : v.entryType size = .buffer use minSize) :
    minSize = size := by
  cases v with
  | uniform type => exact (EntryType.buffer.inj h).2.symm
  | storage access type => exact (EntryType.buffer.inj h).2.symm
  | handle type => cases type <;> simp [entryType, HandleType.entryType] at h

/-- an entry that is no buffer is that of a handle -/
theorem entryType_handle {e : EntryType} (he : ∀ use n, e ≠ .buffer use n) :
    v.entryType size = e ↔ ∃ type ∈ e.handles, v = .handle type := by
  cases v with
  | uniform type => simpa [entryType] using (he .uniform size).symm
  | storage access type => simpa [entryType] using (he (.ofAccess access) size).symm
  | handle type => simp [entryType, HandleType.entryType_eq_iff]

end ShaderVariable
end ShaderInterface
