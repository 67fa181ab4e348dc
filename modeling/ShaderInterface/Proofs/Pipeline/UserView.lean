/-
What a user pass sees of the registry.

A user pass binds the user's group alone. It sees the user's uniforms, its own mesh uniforms, the constants and the
user's resources in their order; and where it looks a storage up again by name, among all resources, it finds the one
that it binds, since kind and name identify it. Registries that agree in all of this compile the pass alike, whatever
internal uniforms and resources stand between, and whatever else was declared for other passes.

- `SameUserView`: the two registries look the same to the user pass at an index.
- `generatedText_eq`, `synthesize_eq`, `bufferSize_eq`: the steps of compilation look no further.
- `compilePass_userView`: two histories with the same view compile a user pass to the same outcome.
-/
import ShaderInterface.Proofs.Pipeline.StorageSizes

namespace ShaderInterface

open Outcome

/-- the two registries look the same to the user pass at that index -/
structure Registry.SameUserView (index : Nat) (r other : Registry) : Prop where
  uniforms : other.groupUniforms false = r.groupUniforms false
  meshes : other.passUniforms index = r.passUniforms index
  /-- the user's resources, in order -/
  resources : other.resources.filter (·.internal = false) = r.resources.filter (·.internal = false)
  constants : other.constants = r.constants

namespace Registry.SameUserView

variable {index : Nat} {r other : Registry}

/-! ## Structs -/

theorem integerConstants_eq (h : SameUserView index r other) : other.integerConstants = r.integerConstants := by
  rw [integerConstants, h.constants, integerConstants]

/-- the generated source of a user pass has no internal block -/
theorem generatedText_eq (h : SameUserView index r other) :
    generatedText other ⟨index, false⟩ = generatedText r ⟨index, false⟩ := by
  simp only [generatedText, h.uniforms, h.meshes, h.constants, Bool.false_eq_true, if_false]

theorem passDecls_eq (h : SameUserView index r other) (pass : RenderPass) :
    passDecls other pass ⟨index, false⟩ = passDecls r pass ⟨index, false⟩ := by
  rw [passDecls, h.generatedText_eq, passDecls]

/-! ## Bindings -/

/-- the user's resources in binding order, picked from the user's resources alone -/
theorem filter_inBindingOrder (registry : Registry) :
    registry.inBindingOrder.filter (·.internal = false) =
      ResourceKind.all.flatMap fun kind => (registry.resources.filter (·.internal = false)).filter (·.kind = kind) := by
  rw [inBindingOrder, List.filter_flatMap]
  apply List.flatMap_congr
  intro kind _
  rw [ofKind, List.filter_comm]

/-- **Bindings of the user's group** do not depend on what is internal. -/
theorem synthesize_eq (h : SameUserView index r other) (stage : Stage) :
    synthesize other ⟨index, false⟩ stage userGroup = synthesize r ⟨index, false⟩ stage userGroup := by
  have howner : decide (userGroup = internalGroup) = false := rfl
  have hblocks : blockCandidates other ⟨index, false⟩ userGroup = blockCandidates r ⟨index, false⟩ userGroup := by
    simp only [blockCandidates, howner, uniformCandidate?, meshCandidate?, h.uniforms, h.meshes]
  have hresources : groupCandidates ⟨index, false⟩ stage userGroup other.inBindingOrder =
      groupCandidates ⟨index, false⟩ stage userGroup r.inBindingOrder := by
    rw [groupCandidates, groupCandidates, howner, filter_inBindingOrder, h.resources, filter_inBindingOrder]
  unfold synthesize
  rw [candidates_eq, hblocks, hresources, ← candidates_eq]

/-- a user pass has the user's group alone -/
theorem compileStage_eq (h : SameUserView index r other) (source : Stage × Shader) :
    compileStage other ⟨index, false⟩ source = compileStage r ⟨index, false⟩ source := by
  have hgroups : (PassContext.mk index false).groups = [userGroup] := rfl
  simp only [compileStage, hgroups, List.map_cons, List.map_nil, h.synthesize_eq, h.generatedText_eq]

/-! ## Buffers -/

/-- a resource of the user is found by its kind and name in both -/
theorem find?_eq (h : SameUserView index r other) (hr : r.Identified) (hother : other.Identified) {s : Resource}
    (hs : s ∈ r.resources) (huser : s.internal = false) : other.find? s.kind s.name = r.find? s.kind s.name := by
  have hmem : s ∈ other.resources.filter (·.internal = false) := by
    rw [h.resources]
    exact List.mem_filter.2 ⟨hs, decide_eq_true huser⟩
  rw [hother.find?_of_mem (List.mem_filter.1 hmem).1, hr.find?_of_mem hs]

/-- **The size of what the user's group holds** is looked up by name, and does not depend on what is internal. -/
theorem bufferSize_eq (h : SameUserView index r other) (hr : r.Identified) (hother : other.Identified)
    (layouts : LayoutTable) {stage : Stage} {a : Assignment}
    (ha : a ∈ (synthesize r ⟨index, false⟩ stage userGroup).assignments) :
    bufferSize other layouts a.resource = bufferSize r layouts a.resource := by
  cases hkey : a.resource.storageKey? with
  | none => exact bufferSize_of_other other hkey
  | some key =>
    obtain ⟨internal, -, -, hblock⟩ | ⟨-, -, hmesh⟩ | ⟨s, hs, huser, hslot⟩ :=
      specifiedSlots_cases (mem_synthesize_resource.1 (List.mem_map_of_mem ha))
    · simp [hblock, BoundResource.storageKey?] at hkey
    · simp [hmesh, BoundResource.storageKey?] at hkey
    · obtain rfl : s.key = key := Resource.key_of_slot (hr.layers s hs) (hslot ▸ hkey)
      have hfind : other.find? s.key.1 s.key.2 = r.find? s.key.1 s.key.2 := h.find?_eq hr hother hs huser
      rw [bufferSize_of_storage hkey, bufferSize_of_storage hkey, declaredSize, hfind, declaredSize]

/-- the sizes of what the stages bind are recorded alike -/
theorem recordSize_eq (h : SameUserView index r other) (hr : r.Identified) (hother : other.Identified)
    (layouts : LayoutTable) (sizes : Table BoundResource Nat) {source : Stage × Shader} {a : Assignment}
    (ha : a ∈ (compileStage r ⟨index, false⟩ source).assignments) :
    recordSize other layouts sizes a = recordSize r layouts sizes a := by
  have hslot : a ∈ (synthesize r ⟨index, false⟩ source.1 userGroup).assignments := by
    simpa [compileStage, CompiledStage.assignments, PassContext.groups] using ha
  simp only [recordSize, h.bufferSize_eq hr hother layouts hslot]

end Registry.SameUserView

/-! ## The pass -/

/-- **User passes cannot observe what is internal.** Two histories leave registries with the same user's uniforms, mesh
uniforms of the pass, constants and resources of the user. What is internal may differ, and where it stands among the
others, and so may the warnings and the mesh uniforms of other passes. Then a user pass compiles to the same outcome:
the same error, or the same texts, bindings, layouts and sizes. -/
theorem compilePass_userView {history history' : List Declaration} {index : Nat}
    (h : (Registry.run history).SameUserView index (Registry.run history')) {pass : RenderPass}
    (huser : pass.internal = false) :
    compilePass (Registry.run history') pass index = compilePass (Registry.run history) pass index := by
  have hstages : pass.stages.map (compileStage (Registry.run history') ⟨index, false⟩) =
      pass.stages.map (compileStage (Registry.run history) ⟨index, false⟩) :=
    List.map_congr_left fun source _ => h.compileStage_eq source
  simp only [compilePass, huser, h.passDecls_eq, h.integerConstants_eq, hstages]
  refine bind_congr fun decls => bind_congr fun layouts => ?_
  rw [foldlM_congr]
  intro sizes a ha
  obtain ⟨cs, hcs, ha⟩ := List.mem_flatMap.1 ha
  obtain ⟨source, -, rfl⟩ := List.mem_map.1 hcs
  exact h.recordSize_eq (Registry.identified_run history) (Registry.identified_run history') layouts sizes ha

/-- what a user declares -/
def userDecls : List Declaration :=
  [.uniform false "time" (.f32 [0]) "f32", .storage "cells" "array<vec4f, SIZE>" false none {},
    .sampler "linear" .filtering {}, .constant "SIZE" "u32" "4"]

/-- the same, among what the system and another pass declare, and with a declaration that is repeated -/
def sharedDecls : List Declaration :=
  [.uniform true "exposure" (.f32 [0]) "f32", .storage "levels" "array<u32, 9>" false none ⟨true, .all⟩,
    .uniform false "time" (.f32 [0]) "f32", .texture "linear" ⟨true, .all⟩,
    .storage "cells" "array<vec4f, SIZE>" false none {}, .layers 2 4 4 ⟨true, .all⟩, .sampler "linear" .filtering {},
    .sampler "linear" .comparison {}, .meshUniform 1 "tint" (.f32 [0]) "f32", .constant "SIZE" "u32" "4"]

def userPass : RenderPass :=
  ⟨"draw", false, none, some ⟨"draw.vert", ""⟩, some ⟨"draw.frag", "struct Light { at: vec3f, sky: array<f32, SIZE> }"⟩⟩

theorem shared_sameUserView : (Registry.run userDecls).SameUserView 0 (Registry.run sharedDecls) :=
  ⟨by decide +kernel, by decide +kernel, by decide +kernel, by decide +kernel⟩

theorem shared_compilePass_userView :
    (Registry.run userDecls).SameUserView 0 (Registry.run sharedDecls) ∧ userPass.internal = false ∧
      ∃ compiled, compilePass (Registry.run userDecls) userPass 0 = .ok compiled ∧
        compilePass (Registry.run sharedDecls) userPass 0 = .ok compiled := by
  obtain ⟨compiled, h⟩ : ∃ compiled, compilePass (Registry.run userDecls) userPass 0 = .ok compiled :=
    isOk_iff.1 (by decide +kernel)
  exact ⟨shared_sameUserView, rfl, compiled, h, (compilePass_userView shared_sameUserView rfl).trans h⟩

end ShaderInterface
