/-
The registry of everything that a pipeline declares, and the declarations that extend it.

What a second declaration of a name does depends on its kind. A uniform takes the new value and keeps its first type,
with a warning if the types differ; the user's and the internal uniforms share their names, and a mesh uniform is
known by its pass and name. A storage or a constant is refused. Any other resource stays as it was, with a warning. A
declaration that is refused changes nothing.
-/
import ShaderInterface.Resource.Basic
import ShaderInterface.Source.TypeExpr.Grammar
import ShaderInterface.Table

namespace ShaderInterface

/-- a uniform; its type is text, which the generated block repeats -/
structure Uniform where
  name : String
  type : String
  value : UniformValue
  internal : Bool
deriving DecidableEq

/-- a constant; type and value are text -/
structure Constant where
  name : String
  type : String
  value : String
deriving DecidableEq, Repr

structure Registry where
  uniforms : List Uniform := []
  /-- mesh uniforms by pass -/
  meshUniforms : Table Nat (List Uniform) := .empty
  resources : List Resource := []
  constants : List Constant := []
  warnings : List Warning := []
deriving DecidableEq

/-- what every declaration of a resource may set -/
structure DeclareOptions where
  internal : Bool := false
  visibility : StageSet := .all
deriving DecidableEq, Repr

inductive Declaration where
  | uniform (internal : Bool) (name : String) (value : UniformValue) (type : String)
  | meshUniform (pass : Nat) (name : String) (value : UniformValue) (type : String)
  | storage (name type : String) (readable : Bool) (payload : Option Bytes) (options : DeclareOptions)
  /-- new contents for a mapped storage -/
  | payload (name : String) (bytes : Bytes)
  | layers (count width height : Nat) (options : DeclareOptions)
  | sampler (name : String) (type : SamplerType) (options : DeclareOptions)
  | storageTexture (name : String) (format : TexelFormat) (options : DeclareOptions)
  | texture (name : String) (options : DeclareOptions)
  | depthTexture (name : String) (writer : Option Nat) (options : DeclareOptions)
  | textureArray (name : String) (options : DeclareOptions)
  | externalTexture (name : String) (options : DeclareOptions)
  /-- a binding texture, to be pinned on both sides or on neither -/
  | bindingTexture (name readName : String) (format : TexelFormat) (writer reader : Option Nat)
      (internal : Bool)
  | constant (name type value : String)
deriving DecidableEq

/-! ## Uniforms -/

/-- the uniforms with `u` declared: the first of its name takes its value, or it comes last -/
def upsert (u : Uniform) : List Uniform → List Uniform
  | [] => [u]
  | v :: rest => if v.name = u.name then { v with value := u.value } :: rest else v :: upsert u rest

/-- the warning when `u` is declared among uniforms that hold its name under another type -/
def typeChange? (u : Uniform) (uniforms : List Uniform) : Option Warning :=
  match uniforms.find? (·.name = u.name) with
  | some kept => if kept.type = u.type then none else some (.uniformTypeChanged u.name kept.type u.type)
  | none => none

namespace Registry

def empty : Registry := {}

/-- the uniforms of one group, in order of declaration -/
def groupUniforms (r : Registry) (internal : Bool) : List Uniform := r.uniforms.filter (·.internal = internal)

/-- the mesh uniforms of a pass, in order of declaration -/
def passUniforms (r : Registry) (pass : Nat) : List Uniform := (r.meshUniforms.get? pass).getD []

/-! ## Lookups -/

def find? (r : Registry) (kind : ResourceKind) (name : String) : Option Resource :=
  r.resources.find? (·.is kind name)

/-- the resources of one kind, in order of declaration -/
def ofKind (r : Registry) (kind : ResourceKind) : List Resource := r.resources.filter (·.kind = kind)

/-- the resources by kind, then in order of declaration -/
def inBindingOrder (r : Registry) : List Resource := ResourceKind.all.flatMap r.ofKind

/-- the constants whose value is an integer literal -/
def integerConstants (r : Registry) : Table String Nat :=
  Table.ofList (r.constants.filterMap fun c => (Numeral.constantValue? c.value.toList).map (c.name, ·))

/-! ## Declarations -/

/-- the registry with a uniform declared -/
def declareUniform (r : Registry) (u : Uniform) : Registry :=
  { r with uniforms := upsert u r.uniforms, warnings := r.warnings ++ (typeChange? u r.uniforms).toList }

/-- the registry with a mesh uniform of a pass declared -/
def declareMeshUniform (r : Registry) (pass : Nat) (u : Uniform) : Registry :=
  { r with
    meshUniforms := r.meshUniforms.insert pass (upsert u (r.passUniforms pass))
    warnings := r.warnings ++ (typeChange? u (r.passUniforms pass)).toList }

/-- the registry with a resource declared, unless one of its kind and name stands already -/
def declareResource (r : Registry) (new : Resource) : Registry :=
  match r.find? new.kind new.name with
  | some _ => { r with warnings := r.warnings ++ [.duplicateDeclaration new.kind new.name] }
  | none => { r with resources := r.resources ++ [new] }

/-- the registry with a storage declared -/
def declareStorage (r : Registry) (name type : String) (readable : Bool) (payload : Option Bytes)
    (options : DeclareOptions) : Except Error Registry :=
  match r.find? .storage name with
  | some _ => .error (.duplicateStorage name)
  | none => do
    let type ← TypeExpr.parse type
    .ok { r with
      resources := r.resources ++ [⟨name, options.internal, .storage type options.visibility readable payload⟩] }

/-- the registry with the contents of a mapped storage replaced -/
def replacePayload (r : Registry) (name : String) (payload : Bytes) : Except Error Registry :=
  match r.find? .storage name with
  | none => .error (.unknownResource name)
  | some storage =>
    if storage.details.payload?.isSome then
      .ok { r with
        resources := r.resources.map fun s =>
          if s.is .storage name then { s with details := s.details.withPayload payload } else s }
    else .error (.storageNotMapped name)

/-- the registry with a binding texture declared -/
def declareBindingTexture (r : Registry) (name readName : String) (format : TexelFormat)
    (writer reader : Option Nat) (internal : Bool) : Except Error Registry :=
  match writer, reader with
  | some writer, some reader =>
    .ok (r.declareResource ⟨name, internal, .bindingTexture readName format (some ⟨writer, reader⟩)⟩)
  | none, none => .ok (r.declareResource ⟨name, internal, .bindingTexture readName format none⟩)
  | _, _ => .error (.halfPinnedTexture name)

/-- the registry with a constant declared -/
def declareConstant (r : Registry) (c : Constant) : Except Error Registry :=
  if r.constants.any (·.name = c.name) then .error (.duplicateConstant c.name)
  else .ok { r with constants := r.constants ++ [c] }

/-- carry out one declaration -/
def declare (r : Registry) : Declaration → Except Error Registry
  | .uniform internal name value type => .ok (r.declareUniform ⟨name, type, value, internal⟩)
  | .meshUniform pass name value type => .ok (r.declareMeshUniform pass ⟨name, type, value, false⟩)
  | .storage name type readable payload o => r.declareStorage name type readable payload o
  | .payload name bytes => r.replacePayload name bytes
  | .layers count width height o =>
    .ok (r.declareResource ⟨layersName, o.internal, .layers count width height o.visibility⟩)
  | .sampler name type o => .ok (r.declareResource ⟨name, o.internal, .sampler type o.visibility⟩)
  | .storageTexture name format o =>
    .ok (r.declareResource ⟨name, o.internal, .storageTexture format o.visibility⟩)
  | .texture name o => .ok (r.declareResource ⟨name, o.internal, .texture o.visibility⟩)
  | .depthTexture name writer o => .ok (r.declareResource ⟨name, o.internal, .depthTexture writer o.visibility⟩)
  | .textureArray name o => .ok (r.declareResource ⟨name, o.internal, .textureArray o.visibility⟩)
  | .externalTexture name o => .ok (r.declareResource ⟨name, o.internal, .externalTexture o.visibility⟩)
  | .bindingTexture name readName format writer reader internal =>
    r.declareBindingTexture name readName format writer reader internal
  | .constant name type value => r.declareConstant ⟨name, type, value⟩

/-- the registry after one declaration, which is unchanged when the declaration is refused -/
def step (r : Registry) (d : Declaration) : Registry :=
  match r.declare d with
  | .ok r => r
  | .error _ => r

/-- the registry after a history of declarations -/
def run (history : List Declaration) : Registry := history.foldl step empty

end Registry
end ShaderInterface
