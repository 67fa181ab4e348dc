/-
The user's uniforms and the internal ones.

Both stand in one list and are told apart by a flag, but a declaration looks for its name only. It reaches the group
that holds the name, whichever group it was meant for; if neither does, it reaches its own.

- `groupUniforms_declareUniform`: what a declaration makes of each group.
- `declareUniform_groups`: the other group keeps its uniforms, and the declared value stands in its own group, exactly
  when the other group does not hold the name.
- `exposure_taken_by_user`: an internal declaration that sets a value of the user's and declares nothing.
-/
import ShaderInterface.Proofs.Resource.UniformLists

namespace ShaderInterface

/-- the group that a declaration reaches: that of the first uniform of the name, else its own -/
def targetGroup (u : Uniform) (uniforms : List Uniform) : Bool :=
  ((uniforms.find? (·.name = u.name)).map (·.internal)).getD u.internal

section Lists

variable {u : Uniform} {uniforms : List Uniform}

theorem targetGroup_cons_of_ne {v : Uniform} (h : v.name ≠ u.name) :
    targetGroup u (v :: uniforms) = targetGroup u uniforms := by
  rw [targetGroup, List.find?_cons_of_neg (by simpa using h), targetGroup]

/-- an update reaches one part of the list, and that as it would alone -/
theorem filter_upsert (u : Uniform) (uniforms : List Uniform) (group : Bool) :
    (upsert u uniforms).filter (·.internal = group) =
      if group = targetGroup u uniforms then upsert u (uniforms.filter (·.internal = group))
      else uniforms.filter (·.internal = group) := by
  induction uniforms with
  | nil =>
    by_cases hg : u.internal = group
    · simp [upsert, targetGroup, hg]
    · simp [upsert, targetGroup, hg, Ne.symm hg]
  | cons v rest ih =>
    by_cases hname : v.name = u.name
    · have htarget : targetGroup u (v :: rest) = v.internal := by simp [targetGroup, hname]
      rw [upsert, if_pos hname, htarget]
      by_cases hg : v.internal = group
      · simp [hg, upsert, hname]
      · simp [hg, Ne.symm hg]
    · rw [upsert, if_neg hname, targetGroup_cons_of_ne hname]
      by_cases hg : v.internal = group
      · rw [List.filter_cons_of_pos (by simpa using hg), List.filter_cons_of_pos (by simpa using hg), ih, upsert,
          if_neg hname]
        split <;> rfl
      · rw [List.filter_cons_of_neg (by simpa using hg), List.filter_cons_of_neg (by simpa using hg), ih]

/-- afterwards the name has the value -/
theorem exists_mem_upsert (u : Uniform) (uniforms : List Uniform) :
    ∃ v ∈ upsert u uniforms, v.name = u.name ∧ v.value = u.value := by
  induction uniforms with
  | nil => exact ⟨u, List.mem_singleton.2 rfl, rfl, rfl⟩
  | cons v rest ih =>
    rw [upsert]
    split
    · next hname => exact ⟨_, List.mem_cons_self, hname, rfl⟩
    · obtain ⟨w, hw, hwu⟩ := ih
      exact ⟨w, List.mem_cons_of_mem v hw, hwu⟩

end Lists

namespace Registry

variable {r : Registry} {u : Uniform}

/-- **What a declaration makes of a group**: the group it reaches is updated, the other stays. -/
theorem groupUniforms_declareUniform (r : Registry) (u : Uniform) (group : Bool) :
    (r.declareUniform u).groupUniforms group =
      if group = targetGroup u r.uniforms then upsert u (r.groupUniforms group) else r.groupUniforms group :=
  filter_upsert u r.uniforms group

/-- a group with the name is the one that is reached, if names are distinct -/
theorem targetGroup_of_mem (hdistinct : (r.uniforms.map (·.name)).Nodup) {group : Bool}
    (h : u.name ∈ (r.groupUniforms group).map (·.name)) : targetGroup u r.uniforms = group := by
  obtain ⟨v, hv, hname⟩ := List.mem_map.1 h
  obtain ⟨hmem, hgroup⟩ := List.mem_filter.1 hv
  have hfind := find?_of_nodup_map hdistinct hmem
  rw [targetGroup, ← hname, hfind]
  simpa using hgroup

/-- a group without the name is not reached, unless the declaration is meant for it -/
theorem targetGroup_ne_of_notMem {group : Bool} (h : u.name ∉ (r.groupUniforms group).map (·.name))
    (hother : u.internal ≠ group) : targetGroup u r.uniforms ≠ group := by
  rw [targetGroup]
  cases hfind : r.uniforms.find? (·.name = u.name) with
  | none => exact hother
  | some v =>
    rintro rfl
    have hname : v.name = u.name := by simpa using List.find?_some hfind
    exact h (List.mem_map.2 ⟨v, List.mem_filter.2 ⟨List.mem_of_find?_eq_some hfind, by simp⟩, hname⟩)

end Registry

/-- **Groups of uniforms.** A declaration meant for one group leaves the other group as it was, and its value stands in
its own group afterwards, if the other group does not hold the name. If it does, then the value is set there, and its
own group stays as it was, without the name. -/
theorem declareUniform_groups (history : List Declaration) (internal : Bool) (name type : String)
    (value : UniformValue) :
    let r := Registry.run history
    let after := r.step (.uniform internal name value type)
    (name ∉ (r.groupUniforms (!internal)).map (·.name) →
      after.groupUniforms (!internal) = r.groupUniforms (!internal) ∧
        ∃ v ∈ after.groupUniforms internal, v.name = name ∧ v.value = value) ∧
      (name ∈ (r.groupUniforms (!internal)).map (·.name) →
        after.groupUniforms internal = r.groupUniforms internal ∧
          name ∉ (r.groupUniforms internal).map (·.name) ∧
          ∃ v ∈ after.groupUniforms (!internal), v.name = name ∧ v.value = value) := by
  intro r after
  let u : Uniform := ⟨name, type, value, internal⟩
  have hdistinct : (r.uniforms.map (·.name)).Nodup := (Registry.distinctUniforms_run history).uniforms
  have hgroup : ∀ group, after.groupUniforms group =
      if group = targetGroup u r.uniforms then upsert u (r.groupUniforms group) else r.groupUniforms group :=
    r.groupUniforms_declareUniform u
  constructor
  · intro hother
    have htarget : targetGroup u r.uniforms = internal := by
      have hne := Registry.targetGroup_ne_of_notMem (u := u) hother (by simp [u])
      simpa using hne
    rw [hgroup, hgroup, htarget, if_neg (by simp), if_pos rfl]
    exact ⟨rfl, exists_mem_upsert u _⟩
  · intro hother
    have htarget : targetGroup u r.uniforms = !internal := Registry.targetGroup_of_mem hdistinct hother
    rw [hgroup, hgroup, htarget, if_neg (by simp), if_pos rfl]
    refine ⟨rfl, fun hown => ?_, exists_mem_upsert u _⟩
    have hsame := (Registry.targetGroup_of_mem (u := u) hdistinct hown).symm.trans htarget
    simp at hsame

/-! ## One name, two groups -/

/-- a uniform of the user's -/
def exposureDecls : List Declaration := [.uniform false "exposure" (.f32 [0]) "f32"]

theorem exposure_declareUniform_groups :
    let r := Registry.run exposureDecls
    let after (name : String) := r.step (.uniform true name (.f32 [1]) "f32")
    ("bias" ∉ (r.groupUniforms false).map (·.name) ∧
        (after "bias").groupUniforms false = r.groupUniforms false ∧
        ∃ v ∈ (after "bias").groupUniforms true, v.name = "bias" ∧ v.value = .f32 [1]) ∧
      "exposure" ∈ (r.groupUniforms false).map (·.name) ∧
        (after "exposure").groupUniforms true = r.groupUniforms true ∧
        "exposure" ∉ (r.groupUniforms true).map (·.name) ∧
        ∃ v ∈ (after "exposure").groupUniforms false, v.name = "exposure" ∧ v.value = .f32 [1] :=
  ⟨⟨by decide, (declareUniform_groups exposureDecls true "bias" "f32" (.f32 [1])).1 (by decide)⟩, by decide,
    (declareUniform_groups exposureDecls true "exposure" "f32" (.f32 [1])).2 (by decide)⟩

/-- the internal declaration sets the value of the user's uniform of that name, and no internal one comes of it -/
theorem exposure_taken_by_user :
    let r := Registry.run exposureDecls
    let after := r.step (.uniform true "exposure" (.f32 [1]) "f32")
    r.groupUniforms false = [⟨"exposure", "f32", .f32 [0], false⟩] ∧
      after.groupUniforms false = [⟨"exposure", "f32", .f32 [1], false⟩] ∧ after.groupUniforms true = [] := by decide

end ShaderInterface
