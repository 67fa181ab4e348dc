/-
What one declaration does to the registry.

A declaration that is accepted declares a uniform in one of the lists, keeps a resource and warns, appends a resource
whose kind and name are new, replaces the contents of a mapped storage, or appends a constant. `Effect` has a case for
each, with what must have held before; `effect_of_declare` says that there is no other. What declarations keep is read
off the effects, case by case, and never off the operations.
-/
import ShaderInterface.Binding.Assignment
import ShaderInterface.Proofs.Outcome
import ShaderInterface.Resource.Registry

namespace ShaderInterface

open Outcome

/-! ## Resources -/

/-- what identifies a resource -/
def Resource.key (r : Resource) : ResourceKind × String := (r.kind, r.name)

/-- the resource with new contents, if it is the storage of that name -/
def Resource.setPayload (name : String) (bytes : Bytes) (r : Resource) : Resource :=
  if r.is .storage name then { r with details := r.details.withPayload bytes } else r

/-- the type of a storage has been parsed -/
def Resource.Typed (r : Resource) : Prop :=
  ∀ type visibility readable payload, r.details = .storage type visibility readable payload →
    ∃ text, TypeExpr.parse text = .ok type

/-- what identifies the resource that a declaration declares, if it declares one -/
def Declaration.key? : Declaration → Option (ResourceKind × String)
  | .uniform .. | .meshUniform .. | .payload .. | .constant .. => none
  | .storage name .. => some (.storage, name)
  | .layers .. => some (.layers, layersName)
  | .sampler name .. => some (.sampler, name)
  | .storageTexture name .. => some (.storageTexture, name)
  | .texture name _ => some (.texture, name)
  | .depthTexture name .. => some (.depthTexture, name)
  | .textureArray name _ => some (.textureArray, name)
  | .externalTexture name _ => some (.externalTexture, name)
  | .bindingTexture name .. => some (.bindingTexture, name)

theorem Resource.is_iff {r : Resource} {kind : ResourceKind} {name : String} :
    r.is kind name = true ↔ r.key = (kind, name) := by
  simp [Resource.is, Resource.key]

theorem Resource.typed_of_kind {r : Resource} (h : r.kind ≠ .storage) : r.Typed := by
  intro type visibility readable payload hdetails
  rw [Resource.kind, hdetails] at h
  exact absurd rfl h

namespace Registry

variable {r after : Registry} {d : Declaration}

theorem find?_eq_none {kind : ResourceKind} {name : String} :
    r.find? kind name = none ↔ (kind, name) ∉ r.resources.map Resource.key := by
  rw [find?, List.find?_eq_none]
  simp only [Resource.is_iff, List.mem_map, not_exists, not_and]

theorem key_mem_of_find? {kind : ResourceKind} {name : String} {s : Resource} (h : r.find? kind name = some s) :
    (kind, name) ∈ r.resources.map Resource.key := by
  have his := List.find?_some h
  exact List.mem_map.2 ⟨s, List.mem_of_find?_eq_some h, Resource.is_iff.1 his⟩

/-! ## Effects -/

/-- what an accepted declaration makes of the registry -/
inductive Effect (r : Registry) : Declaration → Registry → Prop where
  | uniform (internal : Bool) (name : String) (value : UniformValue) (type : String) :
    Effect r (.uniform internal name value type) (r.declareUniform ⟨name, type, value, internal⟩)
  | meshUniform (pass : Nat) (name : String) (value : UniformValue) (type : String) :
    Effect r (.meshUniform pass name value type) (r.declareMeshUniform pass ⟨name, type, value, false⟩)
  /-- a resource of the kind and name stands already -/
  | keep {d : Declaration} (new : Resource) (key : d.key? = some new.key)
    (known : new.key ∈ r.resources.map Resource.key) :
    Effect r d { r with warnings := r.warnings ++ [.duplicateDeclaration new.kind new.name] }
  | append {d : Declaration} (new : Resource) (key : d.key? = some new.key)
    (fresh : new.key ∉ r.resources.map Resource.key) (named : new.kind = .layers → new.name = layersName)
    (typed : new.Typed) : Effect r d { r with resources := r.resources ++ [new] }
  | payload {name : String} (bytes : Bytes) {storage : Resource} (found : r.find? .storage name = some storage)
    (mapped : storage.details.payload?.isSome = true) :
    Effect r (.payload name bytes) { r with resources := r.resources.map (·.setPayload name bytes) }
  | constant (c : Constant) (fresh : c.name ∉ r.constants.map (·.name)) :
    Effect r (.constant c.name c.type c.value) { r with constants := r.constants ++ [c] }

theorem effect_declareResource (r : Registry) {new : Resource} (key : d.key? = some new.key)
    (other : new.kind ≠ .storage) (named : new.kind = .layers → new.name = layersName) :
    Effect r d (r.declareResource new) := by
  unfold declareResource
  cases hfind : r.find? new.kind new.name with
  | some old => exact .keep new key (key_mem_of_find? hfind)
  | none => exact .append new key (find?_eq_none.1 hfind) named (Resource.typed_of_kind other)

theorem effect_declareStorage {name type : String} {readable : Bool} {payload : Option Bytes}
    {options : DeclareOptions} (h : r.declareStorage name type readable payload options = .ok after) :
    Effect r (.storage name type readable payload options) after := by
  unfold declareStorage at h
  cases hfind : r.find? .storage name with
  | some old => simp [hfind] at h
  | none =>
    rw [hfind] at h
    obtain ⟨parsed, hparsed, h⟩ := bind_eq_ok.1 h
    obtain rfl := Except.ok.inj h
    refine .append _ rfl (find?_eq_none.1 hfind) nofun ?_
    intro type visibility readable payload hdetails
    obtain ⟨rfl, -⟩ := ResourceDetails.storage.inj hdetails
    exact ⟨_, hparsed⟩

theorem effect_replacePayload {name : String} {bytes : Bytes} (h : r.replacePayload name bytes = .ok after) :
    Effect r (.payload name bytes) after := by
  unfold replacePayload at h
  cases hfind : r.find? .storage name with
  | none => simp [hfind] at h
  | some storage =>
    simp only [hfind] at h
    split at h
    · next hmapped =>
      obtain rfl := Except.ok.inj h
      exact .payload bytes hfind hmapped
    · simp at h

theorem effect_declareBindingTexture {name readName : String} {format : TexelFormat} {writer reader : Option Nat}
    {internal : Bool} (h : r.declareBindingTexture name readName format writer reader internal = .ok after) :
    Effect r (.bindingTexture name readName format writer reader internal) after := by
  unfold declareBindingTexture at h
  split at h
  · obtain rfl := Except.ok.inj h
    exact effect_declareResource r rfl nofun nofun
  · obtain rfl := Except.ok.inj h
    exact effect_declareResource r rfl nofun nofun
  · simp at h

theorem effect_declareConstant {c : Constant} (h : r.declareConstant c = .ok after) :
    Effect r (.constant c.name c.type c.value) after := by
  unfold declareConstant at h
  by_cases hknown : r.constants.any (·.name = c.name) = true
  · simp [hknown] at h
  · rw [if_neg hknown] at h
    obtain rfl := Except.ok.inj h
    refine .constant c ?_
    simpa using hknown

/-- **Every accepted declaration has its effect.** -/
theorem effect_of_declare (h : r.declare d = .ok after) : Effect r d after := by
  -- the kinds that `declareResource` takes; of these only the layer storage is named by the system
  have hresource : ∀ {new : Resource}, Except.ok (r.declareResource new) = (Except.ok after : Except Error Registry) →
      d.key? = some new.key → new.kind ≠ .storage → (new.kind = .layers → new.name = layersName) →
      Effect r d after := by
    intro new h key other named
    obtain rfl := Except.ok.inj h
    exact effect_declareResource r key other named
  cases d with
  | uniform => obtain rfl := Except.ok.inj h; exact .uniform ..
  | meshUniform => obtain rfl := Except.ok.inj h; exact .meshUniform ..
  | storage => exact effect_declareStorage h
  | payload => exact effect_replacePayload h
  | layers => exact hresource h rfl nofun fun _ => rfl
  | sampler => exact hresource h rfl nofun nofun
  | storageTexture => exact hresource h rfl nofun nofun
  | texture => exact hresource h rfl nofun nofun
  | depthTexture => exact hresource h rfl nofun nofun
  | textureArray => exact hresource h rfl nofun nofun
  | externalTexture => exact hresource h rfl nofun nofun
  | bindingTexture => exact effect_declareBindingTexture h
  | constant => exact effect_declareConstant h

/-- **One step** changes nothing, if the declaration is refused, or has an effect. -/
theorem step_cases (r : Registry) (d : Declaration) :
    (∃ e, r.declare d = .error e ∧ r.step d = r) ∨ (r.declare d = .ok (r.step d) ∧ Effect r d (r.step d)) := by
  unfold step
  cases hd : r.declare d with
  | error e => exact .inl ⟨e, rfl, rfl⟩
  | ok after => exact .inr ⟨rfl, effect_of_declare hd⟩

/-! ## Every declaration -/

theorem run_induct {P : Registry → Prop} (hempty : P empty) (hstep : ∀ r d, P r → P (r.step d))
    (history : List Declaration) : P (run history) := by
  suffices h : ∀ r, P r → P (history.foldl step r) from h empty hempty
  induction history with
  | nil => exact fun r hr => hr
  | cons d history ih => exact fun r hr => ih (r.step d) (hstep r d hr)

end Registry
end ShaderInterface
