/-
The lists of uniforms while declarations come in.

A declaration of a uniform sets the value of the first of its name or appends it; any other declaration leaves the lists
as they are (`step_uniforms`). So the names in a list stay distinct (`distinctUniforms_run`), and declarations of names
that are there already change values only (`sameUniforms_run`), whatever type or group they mention.
-/
import ShaderInterface.Proofs.Resource.Identity
import ShaderInterface.Proofs.Table

namespace ShaderInterface

/-! ## One list -/

/-- a uniform but for its value -/
def Uniform.shape (u : Uniform) : String × String × Bool := (u.name, u.type, u.internal)

section Upsert

variable {u : Uniform} {uniforms : List Uniform}

/-- a new name comes last -/
theorem upsert_of_notMem (h : u.name ∉ uniforms.map (·.name)) : upsert u uniforms = uniforms ++ [u] := by
  induction uniforms with
  | nil => rfl
  | cons v rest ih =>
    rw [List.map_cons, List.mem_cons, not_or] at h
    rw [upsert, if_neg (Ne.symm h.1), ih h.2]
    rfl

/-- a name that is there keeps everything but its value -/
theorem upsert_shape (h : u.name ∈ uniforms.map (·.name)) :
    (upsert u uniforms).map Uniform.shape = uniforms.map Uniform.shape := by
  induction uniforms with
  | nil => simp at h
  | cons v rest ih =>
    rw [upsert]
    split
    · rfl
    · next hne =>
      rw [List.map_cons, List.map_cons, ih ((List.mem_cons.1 h).resolve_left (Ne.symm hne))]

theorem map_name_of_shape {others : List Uniform} (h : uniforms.map Uniform.shape = others.map Uniform.shape) :
    uniforms.map (·.name) = others.map (·.name) := by
  have hnames := congrArg (List.map Prod.fst) h
  rwa [List.map_map, List.map_map] at hnames

theorem nodup_upsert (h : (uniforms.map (·.name)).Nodup) : ((upsert u uniforms).map (·.name)).Nodup := by
  by_cases hmem : u.name ∈ uniforms.map (·.name)
  · rwa [map_name_of_shape (upsert_shape hmem)]
  · rw [upsert_of_notMem hmem, List.map_append, List.map_singleton, ← List.concat_eq_append]
    exact h.concat hmem

/-- where names are distinct, an update of a name that is there reaches one uniform -/
theorem of_mem_upsert {v : Uniform} (hn : (uniforms.map (·.name)).Nodup) (hknown : u.name ∈ uniforms.map (·.name))
    (hv : v ∈ upsert u uniforms) :
    (v ∈ uniforms ∧ v.name ≠ u.name) ∨ ∃ w ∈ uniforms, w.name = u.name ∧ v = { w with value := u.value } := by
  induction uniforms with
  | nil => simp at hknown
  | cons w rest ih =>
    obtain ⟨hw, hrest⟩ := List.nodup_cons.1 hn
    rw [upsert] at hv
    split at hv
    · next hname =>
      rcases List.mem_cons.1 hv with rfl | hv
      · exact .inr ⟨w, List.mem_cons_self, hname, rfl⟩
      · refine .inl ⟨List.mem_cons_of_mem w hv, fun hvu => hw ?_⟩
        exact List.mem_map.2 ⟨v, hv, hvu.trans hname.symm⟩
    · next hne =>
      rcases List.mem_cons.1 hv with rfl | hv
      · exact .inl ⟨List.mem_cons_self, hne⟩
      · rcases ih hrest ((List.mem_cons.1 hknown).resolve_left (Ne.symm hne)) hv with ⟨hv, hvu⟩ | ⟨w', hw', h⟩
        · exact .inl ⟨List.mem_cons_of_mem w hv, hvu⟩
        · exact .inr ⟨w', List.mem_cons_of_mem w hw', h⟩

end Upsert

namespace Registry

variable {r after : Registry}

/-! ## One declaration -/

/-- what a declaration may make of the uniforms -/
inductive UniformStep (r after : Registry) : Prop where
  | same (uniforms : after.uniforms = r.uniforms) (meshes : after.meshUniforms = r.meshUniforms)
  | uniform (u : Uniform) (uniforms : after.uniforms = upsert u r.uniforms)
      (meshes : after.meshUniforms = r.meshUniforms)
  | mesh (pass : Nat) (u : Uniform) (uniforms : after.uniforms = r.uniforms)
      (meshes : after.meshUniforms = r.meshUniforms.insert pass (upsert u (r.passUniforms pass)))

/-- **What one declaration does to the uniforms**: nothing, or a value set or a uniform appended in one list. -/
theorem step_uniforms (r : Registry) (d : Declaration) : UniformStep r (r.step d) := by
  obtain ⟨_, -, hsame⟩ | ⟨-, heffect⟩ := step_cases r d
  · exact hsame.symm ▸ .same rfl rfl
  · generalize r.step d = after at heffect
    cases heffect with
    | uniform internal name value type => exact .uniform ⟨name, type, value, internal⟩ rfl rfl
    | meshUniform pass name value type => exact .mesh pass ⟨name, type, value, false⟩ rfl rfl
    | _ => exact .same rfl rfl

theorem passUniforms_of_eq (h : after.meshUniforms = r.meshUniforms) (index : Nat) :
    after.passUniforms index = r.passUniforms index := by
  rw [passUniforms, h, passUniforms]

theorem passUniforms_of_insert {pass : Nat} {uniforms : List Uniform}
    (h : after.meshUniforms = r.meshUniforms.insert pass uniforms) (index : Nat) :
    after.passUniforms index = if index = pass then uniforms else r.passUniforms index := by
  rw [passUniforms, h, Table.get?_insert, passUniforms]
  split <;> rfl

/-! ## Distinct names -/

/-- no two uniforms share a name, and no two mesh uniforms of a pass -/
structure DistinctUniforms (r : Registry) : Prop where
  uniforms : (r.uniforms.map (·.name)).Nodup
  meshes : ∀ index, ((r.passUniforms index).map (·.name)).Nodup

theorem distinctUniforms_step (r : Registry) (d : Declaration) (h : r.DistinctUniforms) :
    (r.step d).DistinctUniforms := by
  cases step_uniforms r d with
  | same uniforms meshes =>
    refine ⟨uniforms ▸ h.uniforms, fun index => ?_⟩
    rw [passUniforms_of_eq meshes]
    exact h.meshes index
  | uniform u uniforms meshes =>
    refine ⟨uniforms ▸ nodup_upsert h.uniforms, fun index => ?_⟩
    rw [passUniforms_of_eq meshes]
    exact h.meshes index
  | mesh pass u uniforms meshes =>
    refine ⟨uniforms ▸ h.uniforms, fun index => ?_⟩
    rw [passUniforms_of_insert meshes]
    split
    · exact nodup_upsert (h.meshes pass)
    · exact h.meshes index

/-- **Names identify uniforms** of any registry that declarations have made. -/
theorem distinctUniforms_run (history : List Declaration) : (run history).DistinctUniforms :=
  run_induct ⟨List.nodup_nil, fun _ => List.nodup_nil⟩ distinctUniforms_step history

theorem DistinctUniforms.group (h : r.DistinctUniforms) (internal : Bool) :
    ((r.groupUniforms internal).map (·.name)).Nodup :=
  (List.filter_sublist.map _).nodup h.uniforms

/-! ## Redeclarations -/

/-- the declaration is that of a uniform, or of a mesh uniform of a pass, which stands under its name already -/
inductive Redeclares (r : Registry) : Declaration → Prop where
  | uniform {name : String} (known : name ∈ r.uniforms.map (·.name)) (internal : Bool) (value : UniformValue)
      (type : String) : Redeclares r (.uniform internal name value type)
  | meshUniform {pass : Nat} {name : String} (known : name ∈ (r.passUniforms pass).map (·.name)) (value : UniformValue)
      (type : String) : Redeclares r (.meshUniform pass name value type)

/-- the two have the same uniforms in the same order, up to values -/
structure SameUniforms (r after : Registry) : Prop where
  uniforms : after.uniforms.map Uniform.shape = r.uniforms.map Uniform.shape
  meshes : ∀ index, (after.passUniforms index).map Uniform.shape = (r.passUniforms index).map Uniform.shape

theorem SameUniforms.refl (r : Registry) : r.SameUniforms r := ⟨rfl, fun _ => rfl⟩

theorem SameUniforms.trans {last : Registry} (h : r.SameUniforms after) (h' : after.SameUniforms last) :
    r.SameUniforms last := ⟨h'.uniforms.trans h.uniforms, fun index => (h'.meshes index).trans (h.meshes index)⟩

theorem SameUniforms.redeclares (h : r.SameUniforms after) {d : Declaration} (hd : r.Redeclares d) :
    after.Redeclares d := by
  cases hd with
  | uniform known => exact .uniform (map_name_of_shape h.uniforms ▸ known) _ _ _
  | meshUniform known => exact .meshUniform (map_name_of_shape (h.meshes _) ▸ known) _ _

theorem sameUniforms_step {d : Declaration} (hd : r.Redeclares d) : r.SameUniforms (r.step d) := by
  cases hd with
  | uniform known => exact ⟨upsert_shape known, fun _ => rfl⟩
  | @meshUniform pass name known value type =>
    refine ⟨rfl, fun index => ?_⟩
    have hinsert : (r.step (.meshUniform pass name value type)).meshUniforms =
        r.meshUniforms.insert pass (upsert ⟨name, type, value, false⟩ (r.passUniforms pass)) := rfl
    rw [passUniforms_of_insert hinsert]
    split
    · next heq => rw [heq, upsert_shape known]
    · rfl

/-- **Redeclarations change values only.** -/
theorem sameUniforms_run {updates : List Declaration} (h : ∀ d ∈ updates, r.Redeclares d) :
    r.SameUniforms (updates.foldl step r) := by
  induction updates generalizing r with
  | nil => exact .refl r
  | cons d rest ih =>
    obtain ⟨hd, hrest⟩ := List.forall_mem_cons.1 h
    have hstep := sameUniforms_step hd
    exact hstep.trans (ih fun e he => hstep.redeclares (hrest e he))

theorem SameUniforms.group (h : r.SameUniforms after) (internal : Bool) :
    (after.groupUniforms internal).map Uniform.shape = (r.groupUniforms internal).map Uniform.shape := by
  have hfilter : ∀ uniforms : List Uniform, (uniforms.filter (·.internal = internal)).map Uniform.shape =
      (uniforms.map Uniform.shape).filter fun s => s.2.2 = internal := by
    intro uniforms
    rw [List.filter_map]
    rfl
  rw [groupUniforms, groupUniforms, hfilter, hfilter, h.uniforms]

end Registry
end ShaderInterface
