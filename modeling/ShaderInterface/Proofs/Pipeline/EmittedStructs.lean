/-
A compiled shader contains the structs that were laid out.

The layouts of a pass come from the code of its stages and the generated source, parsed one by one and merged. The text
of a stage is one source: the bindings, the generated source, and the stage's own code. Parsed as a whole it declares
the generated blocks and then the stage's own structs, in this order and nothing else, and each of them has its layout.

- `parseAll_stageText`: what the text of a stage declares.
- `emitted_structs`: the same of every stage of every pass, with the layouts.
-/
import ShaderInterface.Proofs.Pipeline.GeneratedSource
import ShaderInterface.Proofs.Pipeline.MergedStructs

namespace ShaderInterface

open Token

namespace Registry

/-- the uniforms of both groups and of every mesh -/
def allUniforms (registry : Registry) : List Uniform :=
  registry.uniforms ++ registry.meshUniforms.entries.flatMap (·.2)

/-- names are identifiers, types of uniforms are types, and the texts of constants declare nothing -/
structure WellSpelled (registry : Registry) : Prop where
  uniforms : ∀ u ∈ registry.allUniforms, u.WellSpelled
  resources : ∀ r ∈ registry.resources, r.WellNamed
  constants : ∀ c ∈ registry.constants, c.WellSpelled

instance (registry : Registry) : Decidable registry.WellSpelled :=
  decidable_of_iff ((∀ u ∈ registry.allUniforms, u.WellSpelled) ∧ (∀ r ∈ registry.resources, r.WellNamed) ∧
      ∀ c ∈ registry.constants, c.WellSpelled)
    ⟨fun h => ⟨h.1, h.2.1, h.2.2⟩, fun h => ⟨h.uniforms, h.resources, h.constants⟩⟩

variable {registry : Registry}

theorem wellSpelled_uniforms (hu : ∀ u ∈ registry.allUniforms, u.WellSpelled) :
    ∀ u ∈ registry.uniforms, u.WellSpelled := (List.forall_mem_append.1 hu).1

theorem wellSpelled_mesh (hu : ∀ u ∈ registry.allUniforms, u.WellSpelled) (index : Nat) :
    ∀ u ∈ registry.passUniforms index, u.WellSpelled := by
  intro u h
  rw [passUniforms] at h
  cases hget : registry.meshUniforms.get? index with
  | none => simp [hget] at h
  | some uniforms =>
    rw [hget, Option.getD_some] at h
    obtain ⟨front, back, hentries, -⟩ := List.lookup_eq_some_iff.1 hget
    refine hu u (List.mem_append_right _ (List.mem_flatMap.2 ⟨(index, uniforms), ?_, h⟩))
    rw [hentries]
    exact List.mem_append_right _ List.mem_cons_self

end Registry

/-- the members of the blocks of a pass: one for each uniform of the user, of the internal group, and of the mesh -/
structure BlockMembers (registry : Registry) (index : Nat) (users internals meshes : List Member) : Prop where
  users : MembersOf (registry.groupUniforms false) users
  internals : MembersOf (registry.groupUniforms true) internals
  meshes : MembersOf (registry.passUniforms index) meshes

section Stage

variable {registry : Registry} {context : PassContext} {users internals meshes : List Member}

theorem exists_blockMembers (hu : ∀ u ∈ registry.allUniforms, u.WellSpelled) (index : Nat) :
    ∃ users internals meshes, BlockMembers registry index users internals meshes := by
  have hgroup := Registry.wellSpelled_group (Registry.wellSpelled_uniforms hu)
  obtain ⟨users, husers⟩ := exists_membersOf (hgroup false)
  obtain ⟨internals, hinternals⟩ := exists_membersOf (hgroup true)
  obtain ⟨meshes, hmeshes⟩ := exists_membersOf (Registry.wellSpelled_mesh hu index)
  exact ⟨users, internals, meshes, husers, hinternals, hmeshes⟩

/-- the generated source in front of a source adds its blocks to what that declares -/
theorem declares_generated_of_wellSpelled (hspelled : registry.WellSpelled)
    (hm : BlockMembers registry context.index users internals meshes) {rest : List Char} {own : List StructDecl}
    (hrest : Declares (scanChars rest) own) :
    Declares (scanChars ((generatedText registry context).toList ++ rest))
      (generatedDecls context users internals meshes ++ own) :=
  declares_generated (Registry.wellSpelled_uniforms hspelled.uniforms)
    (Registry.wellSpelled_mesh hspelled.uniforms context.index) hspelled.constants hm.users hm.internals hm.meshes hrest

theorem parseAll_generatedText (hspelled : registry.WellSpelled)
    (hm : BlockMembers registry context.index users internals meshes) :
    StructDecl.parseAll (generatedText registry context) = .ok (generatedDecls context users internals meshes) := by
  have hnothing : Declares (scanChars []) [] := .nil
  have hdeclares := declares_generated_of_wellSpelled hspelled hm hnothing
  rw [List.append_nil, List.append_nil] at hdeclares
  exact parseAll_eq_ok.2 hdeclares

/-- **The text of a stage declares the generated blocks and then the structs of its own code.** -/
theorem parseAll_stageText (hspelled : registry.WellSpelled) (hreg : registry.Identified)
    (htyped : ∀ r ∈ registry.resources, r.Typed) (hm : BlockMembers registry context.index users internals meshes)
    (stage : Stage) {shader : Shader} {own : List StructDecl} (hown : StructDecl.parseAll shader.code = .ok own) :
    StructDecl.parseAll (compileStage registry context (stage, shader)).text =
      .ok (generatedDecls context users internals meshes ++ own) := by
  have hnewline : InertText "\n".toList := inertText_of_feedAll rfl (by decide)
  have hbindings : InertText (String.join
      ((context.groups.map (synthesize registry context stage)).map (·.text))).toList := by
    apply inertText_join
    intro text htext
    obtain ⟨bindings, hbindings, rfl⟩ := List.mem_map.1 htext
    obtain ⟨group, -, rfl⟩ := List.mem_map.1 hbindings
    exact inertText_synthesize hreg htyped hspelled.resources context stage group
  have hcode : Declares (scanChars ("\n".toList ++ shader.code.toList)) own :=
    hnewline.declares (parseAll_eq_ok.1 hown)
  have hgenerated := declares_generated_of_wellSpelled hspelled hm hcode
  have hstage := hbindings.declares (hnewline.declares hgenerated)
  apply parseAll_eq_ok.2
  rw [Token.scan_eq]
  simpa only [compileStage, String.toList_append, List.append_assoc] using hstage

end Stage

/-! ## The pipeline -/

/-- **The shader contains exactly the structs that were laid out.** In a compiled pipeline with well-spelled
declarations, the text of every stage declares the block of each non-empty group of uniforms, with a member for each
uniform, and then the structs of the stage's own code. The pass has a layout of each, with the same members in the same
order. -/
theorem emitted_structs {history : List Declaration} {passes : List RenderPass} {compiled : CompiledPipeline}
    (h : Pipeline.compile ⟨Registry.run history, passes⟩ = .ok compiled)
    (hspelled : (Registry.run history).WellSpelled) :
    compiled.passes.length = passes.length ∧
      ∀ index source, passes[index]? = some source → ∃ pass, compiled.pass? index = some pass ∧
        pass.stages.map (·.stage) = source.stages.map Prod.fst ∧
        ∃ users internals meshes, BlockMembers (Registry.run history) index users internals meshes ∧
          ∀ stage shader, (stage, shader) ∈ source.stages →
            ∃ cs own, pass.stage? stage = some cs ∧ StructDecl.parseAll shader.code = .ok own ∧
              StructDecl.parseAll cs.text =
                .ok (generatedDecls ⟨index, source.internal⟩ users internals meshes ++ own) ∧
              ∀ d ∈ generatedDecls ⟨index, source.internal⟩ users internals meshes ++ own,
                ∃ layout, pass.layouts.get? d.name = some layout ∧ layout.members = d.members := by
  obtain ⟨hlength, heach⟩ := compile_passes h
  refine ⟨hlength, ?_⟩
  intro index source hsource
  obtain ⟨pass, hpass, hof⟩ := heach index source hsource
  obtain ⟨users, internals, meshes, hm⟩ := exists_blockMembers hspelled.uniforms index
  refine ⟨pass, hpass, hof.stage_names, users, internals, meshes, hm, ?_⟩
  intro stage shader hshader
  have hcompiled : compileStage (Registry.run history) ⟨index, source.internal⟩ (stage, shader) ∈ pass.stages := by
    rw [hof.stages, hof.context]
    exact List.mem_map_of_mem hshader
  obtain ⟨own, hown, hownLayouts⟩ := hof.laysOut.laidOut_stage hshader
  obtain ⟨generated, hgenerated, hgeneratedLayouts⟩ := hof.laysOut.laidOut_generated
  have hm' : BlockMembers (Registry.run history) (PassContext.mk index source.internal).index users internals meshes :=
    hm
  rw [hof.context, parseAll_generatedText hspelled hm'] at hgenerated
  obtain rfl := Except.ok.inj hgenerated
  refine ⟨_, own, hof.stage?_of_mem hcompiled, hown, ?_, ?_⟩
  · exact parseAll_stageText hspelled (Registry.identified_run history) (Registry.typed_run history) hm' stage hown
  · intro d hd
    rcases List.mem_append.1 hd with hd | hd
    · exact (hgeneratedLayouts d hd).exists_layout
    · exact (hownLayouts d hd).exists_layout

/-! ## A pass with every block -/

/-- uniforms of every kind; the user's names a struct of the shader -/
def swarmDecls : List Declaration :=
  [.uniform false "sun" (.f32 [0, 0, 0, 0]) "Light", .uniform true "gain" (.f32 [0]) "f32",
    .meshUniform 0 "tint" (.f32 [0, 0]) "vec2f", .constant "N" "u32" "4u",
    .storage "heap" "array<Light, N>" true none {}, .bindingTexture "out" "back" .rgba16float none none false]

def swarmShader : Shader := ⟨"draw.wgsl", "struct Light { rgb: vec3f, on: f32 } // no struct"⟩

def swarmPasses : List RenderPass := [⟨"draw", true, some swarmShader, none, none⟩]

theorem swarm_wellSpelled : (Registry.run swarmDecls).WellSpelled := by decide +kernel

theorem swarm_compiles : ∃ compiled, Pipeline.compile ⟨Registry.run swarmDecls, swarmPasses⟩ = .ok compiled := by
  apply Outcome.isOk_iff.1
  decide +kernel

theorem swarm_emitted_structs :
    (Registry.run swarmDecls).WellSpelled ∧
      ∃ compiled, Pipeline.compile ⟨Registry.run swarmDecls, swarmPasses⟩ = .ok compiled ∧
      ∃ pass, compiled.pass? 0 = some pass ∧
        ∃ users internals meshes, BlockMembers (Registry.run swarmDecls) 0 users internals meshes ∧
          ∃ cs own, pass.stage? .compute = some cs ∧ StructDecl.parseAll swarmShader.code = .ok own ∧
            StructDecl.parseAll cs.text = .ok (generatedDecls ⟨0, true⟩ users internals meshes ++ own) := by
  obtain ⟨compiled, h⟩ := swarm_compiles
  obtain ⟨-, heach⟩ := emitted_structs h swarm_wellSpelled
  obtain ⟨pass, hpass, -, users, internals, meshes, hm, hstages⟩ := heach 0 _ rfl
  obtain ⟨cs, own, hstage, hown, htext, -⟩ := hstages .compute swarmShader (by decide)
  exact ⟨swarm_wellSpelled, compiled, h, pass, hpass, users, internals, meshes, hm, cs, own, hstage, hown, htext⟩

end ShaderInterface
