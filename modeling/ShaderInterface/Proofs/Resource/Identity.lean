/-
Kind and name identify a resource.

One declaration leaves the resources as they are, replaces contents, or appends a resource whose kind and name are new
(`step_resources`). So in a registry that declarations have made, no two resources share both, and the layer storage
has its own name (`identified_run`); a lookup by the kind and name of a resource finds that resource (`find?_of_mem`).
The type of a storage has been parsed from a text (`typed_run`).
-/
import ShaderInterface.Proofs.Keyed
import ShaderInterface.Proofs.Resource.Effects

namespace ShaderInterface

theorem ResourceDetails.kind_withPayload (bytes : Bytes) (details : ResourceDetails) :
    (details.withPayload bytes).kind = details.kind := by
  cases details <;> rfl

theorem Resource.key_setPayload (name : String) (bytes : Bytes) (r : Resource) :
    (r.setPayload name bytes).key = r.key := by
  unfold Resource.setPayload
  split
  · simp [Resource.key, Resource.kind, ResourceDetails.kind_withPayload]
  · rfl

theorem Resource.typed_setPayload (name : String) (bytes : Bytes) {r : Resource} (h : r.Typed) :
    (r.setPayload name bytes).Typed := by
  unfold Resource.setPayload
  split
  · intro type visibility readable payload hdetails
    obtain ⟨name, internal, details⟩ := r
    cases details with
    | storage =>
      obtain ⟨rfl, -⟩ := ResourceDetails.storage.inj hdetails
      exact h _ _ _ _ rfl
    | _ => simp [ResourceDetails.withPayload] at hdetails
  · exact h

namespace Registry

variable {r after : Registry}

/-! ## One declaration -/

/-- what a declaration may make of the resources -/
inductive ResourceStep (r : Registry) : List Resource → Prop where
  | same : ResourceStep r r.resources
  | payload (name : String) (bytes : Bytes) : ResourceStep r (r.resources.map (·.setPayload name bytes))
  | append (new : Resource) (fresh : new.key ∉ r.resources.map Resource.key)
      (named : new.kind = .layers → new.name = layersName) (typed : new.Typed) : ResourceStep r (r.resources ++ [new])

/-- **What one declaration does to the resources**: nothing, new contents, or one more of a new kind and name. -/
theorem step_resources (r : Registry) (d : Declaration) : ResourceStep r (r.step d).resources := by
  obtain ⟨_, -, hsame⟩ | ⟨-, heffect⟩ := step_cases r d
  · exact hsame.symm ▸ .same
  · generalize r.step d = after at heffect
    cases heffect with
    | append new key fresh named typed => exact .append new fresh named typed
    | payload bytes found mapped => exact .payload _ bytes
    | _ => exact .same

/-! ## Every declaration -/

/-- kind and name identify the resources -/
structure Identified (r : Registry) : Prop where
  keys : (r.resources.map Resource.key).Nodup
  layers : ∀ s ∈ r.resources, s.kind = .layers → s.name = layersName

theorem identified_step (r : Registry) (d : Declaration) (h : r.Identified) : (r.step d).Identified := by
  have hstep := step_resources r d
  generalize hres : (r.step d).resources = resources at hstep
  cases hstep with
  | same => exact ⟨by rw [hres]; exact h.keys, by rw [hres]; exact h.layers⟩
  | payload name bytes =>
    have hkeys : ∀ s : Resource, (s.setPayload name bytes).key = s.key := Resource.key_setPayload name bytes
    constructor
    · rw [hres, List.map_map, show Resource.key ∘ (·.setPayload name bytes) = Resource.key from funext hkeys]
      exact h.keys
    · rw [hres, List.forall_mem_map]
      intro s hs hkind
      obtain ⟨hk, hn⟩ := Prod.mk.inj (hkeys s)
      exact hn.trans (h.layers s hs (hk.symm.trans hkind))
  | append new fresh named typed =>
    constructor
    · rw [hres, List.map_append, List.map_singleton, ← List.concat_eq_append]
      exact h.keys.concat fresh
    · rw [hres]
      intro s hs
      rcases List.mem_append.1 hs with hs | hs
      · exact h.layers s hs
      · rw [List.mem_singleton.1 hs]
        exact named

/-- **Kind and name identify a resource** of any registry that declarations have made. -/
theorem identified_run (history : List Declaration) : (run history).Identified :=
  run_induct ⟨List.nodup_nil, by simp [empty]⟩ identified_step history

theorem typed_step (r : Registry) (d : Declaration) (h : ∀ s ∈ r.resources, s.Typed) :
    ∀ s ∈ (r.step d).resources, s.Typed := by
  have hstep := step_resources r d
  generalize (r.step d).resources = resources at hstep
  cases hstep with
  | same => exact h
  | payload name bytes => exact List.forall_mem_map.2 fun s hs => Resource.typed_setPayload name bytes (h s hs)
  | append new fresh named typed => exact List.forall_mem_append.2 ⟨h, List.forall_mem_singleton.2 typed⟩

/-- **The types of storages have been parsed**, in any registry that declarations have made. -/
theorem typed_run (history : List Declaration) : ∀ s ∈ (run history).resources, s.Typed :=
  run_induct (by simp [empty]) typed_step history

/-- a lookup by the kind and name of a resource finds it -/
theorem Identified.find?_of_mem (h : r.Identified) {s : Resource} (hs : s ∈ r.resources) :
    r.find? s.kind s.name = some s := by
  have hpred : (fun t : Resource => t.is s.kind s.name) = fun t => decide (t.key = s.key) := by
    funext t
    rw [Bool.eq_iff_iff, Resource.is_iff, decide_eq_true_iff]
    rfl
  rw [find?, hpred]
  exact find?_of_nodup_map h.keys hs

end Registry
end ShaderInterface
