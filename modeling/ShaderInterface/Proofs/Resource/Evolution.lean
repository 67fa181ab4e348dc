/-
How the registry evolves under declarations.

A declaration that is refused leaves everything as it was, also where calls change the registry in place and might have
written before they fail. One that is accepted appends at most one element to each list, or replaces the contents of a
storage that had contents before; of a uniform that stands already it changes the value only. Nothing is removed or
moved, and within each list the names, for resources kind and name, stay distinct.

- `evolves_of_effect`: what each effect makes of the five lists.
- `distinct_run`: names identify what they name in every registry that declarations have made.
- `registry_evolves`: the two together, for a call after any history of calls.
-/
import ShaderInterface.Proofs.Resource.InPlace

namespace ShaderInterface

/-- the later list is the earlier one, with at most one element more at the end -/
def Grows {α : Type} (before after : List α) : Prop := ∃ new : Option α, after = before ++ new.toList

theorem Grows.refl {α : Type} (l : List α) : Grows l l := ⟨none, (List.append_nil l).symm⟩

theorem Grows.snoc {α : Type} (l : List α) (a : α) : Grows l (l ++ [a]) := ⟨some a, rfl⟩

theorem upsert_grows (u : Uniform) (uniforms : List Uniform) :
    Grows (uniforms.map Uniform.shape) ((upsert u uniforms).map Uniform.shape) := by
  by_cases h : u.name ∈ uniforms.map (·.name)
  · rw [upsert_shape h]
    exact .refl _
  · rw [upsert_of_notMem h, List.map_append]
    exact .snoc _ _

namespace Registry

variable {r after : Registry} {d : Declaration}

/-! ## One declaration -/

/-- what a declaration may make of a list of resources: nothing, other contents in one mapped storage, or one more -/
inductive ResourcesEvolve (before : List Resource) : List Resource → Prop where
  | same : ResourcesEvolve before before
  | payload {i : Nat} {name : String} {internal readable : Bool} {type : TypeExpr} {visibility : StageSet}
      (old new : Bytes) (stands : before[i]? = some ⟨name, internal, .storage type visibility readable (some old)⟩) :
    ResourcesEvolve before (before.set i ⟨name, internal, .storage type visibility readable (some new)⟩)
  | append (new : Resource) (fresh : new.key ∉ before.map Resource.key) : ResourcesEvolve before (before ++ [new])

/-- what an accepted declaration may make of the registry -/
structure Evolves (r : Registry) (d : Declaration) (after : Registry) : Prop where
  resources : ResourcesEvolve r.resources after.resources
  uniforms : Grows (r.uniforms.map Uniform.shape) (after.uniforms.map Uniform.shape)
  meshes : ∀ pass, Grows ((r.passUniforms pass).map Uniform.shape) ((after.passUniforms pass).map Uniform.shape)
  /-- the mesh uniforms of a pass that the declaration does not name keep their values too -/
  otherMeshes : ∀ pass, (∀ name value type, d ≠ .meshUniform pass name value type) →
    after.passUniforms pass = r.passUniforms pass
  constants : Grows r.constants after.constants
  warnings : Grows r.warnings after.warnings

/-- a declaration that is no uniform's leaves both kinds of uniforms alone -/
theorem evolves_of_uniforms (resources : ResourcesEvolve r.resources after.resources)
    (uniforms : after.uniforms = r.uniforms) (meshes : after.meshUniforms = r.meshUniforms)
    (constants : Grows r.constants after.constants) (warnings : Grows r.warnings after.warnings) :
    Evolves r d after := by
  have hmeshes := passUniforms_of_eq meshes
  refine ⟨resources, uniforms ▸ .refl _, fun pass => ?_, fun pass _ => hmeshes pass, constants, warnings⟩
  rw [hmeshes]
  exact .refl _

/-- **What an effect makes of the lists.** -/
theorem evolves_of_effect (hid : r.Identified) (h : Effect r d after) : Evolves r d after := by
  cases h with
  | uniform internal name value type =>
    exact ⟨.same, upsert_grows _ _, fun _ => .refl _, fun _ _ => rfl, .refl _, ⟨_, rfl⟩⟩
  | meshUniform pass name value type =>
    let u : Uniform := ⟨name, type, value, false⟩
    have hpass : ∀ index, (r.declareMeshUniform pass u).passUniforms index =
        if index = pass then upsert u (r.passUniforms pass) else r.passUniforms index := passUniforms_of_insert rfl
    refine ⟨.same, .refl _, fun index => ?_, fun index hother => ?_, .refl _, ⟨_, rfl⟩⟩
    · rw [hpass]
      split
      · next heq => exact heq ▸ upsert_grows _ _
      · exact .refl _
    · rw [hpass, if_neg]
      rintro rfl
      exact hother name value type rfl
  | keep new key known => exact evolves_of_uniforms .same rfl rfl (.refl _) (.snoc _ _)
  | append new key fresh named typed => exact evolves_of_uniforms (.append new fresh) rfl rfl (.refl _) (.refl _)
  | @payload name bytes storage found mapped =>
    refine evolves_of_uniforms ?_ rfl rfl (.refl _) (.refl _)
    have his := List.find?_some found
    obtain ⟨i, hi⟩ := List.mem_iff_getElem?.1 (List.mem_of_find?_eq_some found)
    have hset := Store.map_setPayload hid.keys hi his bytes
    rw [Resource.setPayload, if_pos his] at hset
    -- a resource with contents is a storage
    obtain ⟨own, internal, details⟩ := storage
    cases details with
    | storage type visibility readable payload =>
      obtain ⟨old, hold⟩ := Option.isSome_iff_exists.1 mapped
      obtain rfl : payload = some old := hold
      exact hset ▸ .payload old bytes hi
    | _ => simp [ResourceDetails.payload?] at mapped
  | constant c fresh => exact evolves_of_uniforms .same rfl rfl (.snoc _ _) (.refl _)

/-! ## Distinct names -/

/-- names identify uniforms, mesh uniforms of a pass, and constants; kind and name identify resources -/
structure Distinct (r : Registry) : Prop where
  resources : (r.resources.map Resource.key).Nodup
  uniforms : (r.uniforms.map (·.name)).Nodup
  meshes : ∀ pass, ((r.passUniforms pass).map (·.name)).Nodup
  constants : (r.constants.map (·.name)).Nodup

theorem nodup_constants_step (r : Registry) (d : Declaration) (h : (r.constants.map (·.name)).Nodup) :
    ((r.step d).constants.map (·.name)).Nodup := by
  obtain ⟨_, -, hsame⟩ | ⟨-, heffect⟩ := step_cases r d
  · exact hsame.symm ▸ h
  · generalize r.step d = after at heffect
    cases heffect with
    | constant c fresh =>
      rw [List.map_append, List.map_singleton, ← List.concat_eq_append]
      exact h.concat fresh
    | _ => exact h

/-- **Names stay distinct**, whatever is declared and refused. -/
theorem distinct_run (history : List Declaration) : (run history).Distinct :=
  ⟨(identified_run history).keys, (distinctUniforms_run history).uniforms, (distinctUniforms_run history).meshes,
    run_induct List.nodup_nil nodup_constants_step history⟩

end Registry

/-- **Evolution of the registry.** After any history of calls names are distinct, and the store that the calls have
changed in place represents the registry. One more call either fails, and then the store is exactly as before, or
succeeds, and then the store represents the next registry, which has evolved from the one before. -/
theorem registry_evolves (history : List Declaration) (d : Declaration) :
    (Registry.run history).Distinct ∧ (Store.run history).Represents (Registry.run history) ∧
      ((∃ e, (Registry.run history).declare d = .error e ∧ (Registry.run history).step d = Registry.run history ∧
          (Store.call d).run (Store.run history) = .error e (Store.run history)) ∨
        ∃ after store, (Registry.run history).declare d = .ok after ∧ (Registry.run history).step d = after ∧
          (Store.call d).run (Store.run history) = .ok () store ∧ store.Represents after ∧
          Registry.Evolves (Registry.run history) d after) := by
  have hid := Registry.identified_run history
  have hrepresents := Store.represents_run history
  refine ⟨Registry.distinct_run history, hrepresents, ?_⟩
  have hfollows := Store.call_follows hrepresents hid d
  obtain ⟨e, herror, hsame⟩ | ⟨hok, heffect⟩ := Registry.step_cases (Registry.run history) d
  · rw [herror] at hfollows
    generalize hresult : (Store.call d).run (Store.run history) = result at hfollows
    cases hfollows
    exact .inl ⟨e, herror, hsame, rfl⟩
  · rw [hok] at hfollows
    generalize hresult : (Store.call d).run (Store.run history) = result at hfollows
    cases hfollows with
    | succeeds represents =>
      exact .inr ⟨_, _, hok, rfl, rfl, represents, Registry.evolves_of_effect hid heffect⟩

end ShaderInterface
