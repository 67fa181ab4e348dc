/-
Uniform values from their declarations to the bytes of the packed buffer.

Between the two lie the order of the registry, the text of the generated block, the parser, the merge with the structs
of the shaders, the layout and the search for a member by name. A compiled block has one member for each uniform, under
its name and with its type, and the names are distinct, so each value finds the member that was made for it. Values may
be declared anew after compilation; neither names nor types nor the order of the uniforms change by that.

- `packsBlock`: the values of uniforms in a layout that has their members.
- `packed_blocks`: the packed buffers of the user's block and of the mesh blocks, after any updates.
-/
import ShaderInterface.Proofs.Pipeline.BlockSizes

namespace ShaderInterface

open Outcome

/-- packing the current values of uniforms in the layout of their block: there is a member for each of them, packing
succeeds exactly if each value suits its member, and then the buffer has the size of the block, holds each value at its
member, and is zero outside the members -/
structure PacksBlock (layout : StructLayout) (uniforms : List Uniform) (packed : Except Error Bytes) : Prop where
  members : MembersOf uniforms layout.members
  place : ∀ u ∈ uniforms, ∃ p, layout.find? u.name = some p ∧ p ∈ layout.placements ∧ p.member.name = u.name ∧
    TypeExpr.parse u.type = .ok p.member.type
  succeeds : (∃ bytes, packed = .ok bytes) ↔ ∀ u ∈ uniforms, ∀ p, layout.find? u.name = some p → u.value.Suits p
  length : ∀ bytes, packed = .ok bytes → bytes.length = layout.byteSize
  value : ∀ bytes, packed = .ok bytes → ∀ u ∈ uniforms, ∀ p, layout.find? u.name = some p →
    (bytes.drop p.offset).take p.size = u.value.encode
  zero : ∀ bytes, packed = .ok bytes → ∀ i < layout.byteSize,
    (∀ p ∈ layout.placements, i < p.offset ∨ p.offset + p.size ≤ i) → bytes[i]? = some 0

section Block

variable {layout : StructLayout} {uniforms : List Uniform}

/-- the member of a uniform is the one that a search for its name finds -/
theorem find?_of_membersOf (hm : MembersOf uniforms layout.members) (hn : (uniforms.map (·.name)).Nodup) {u : Uniform}
    (hu : u ∈ uniforms) : ∃ p, layout.find? u.name = some p ∧ p ∈ layout.placements ∧ p.member.name = u.name ∧
      TypeExpr.parse u.type = .ok p.member.type := by
  have hnames : layout.names = uniforms.map (·.name) := by
    rw [← hm.names, StructLayout.members, List.map_map]
    rfl
  rw [← hnames] at hn
  obtain ⟨m, hmem, hname, htype⟩ := hm.exists_member hu
  obtain ⟨p, hp, rfl⟩ := List.mem_map.1 hmem
  exact ⟨p, hname ▸ StructLayout.find?_of_mem hn hp, hp, hname, htype⟩

/-- **Values are packed at their own members**, if the layout has a member for each uniform and names are distinct. -/
theorem packsBlock (hplaced : layout.Placed) (hm : MembersOf uniforms layout.members)
    (hn : (uniforms.map (·.name)).Nodup) :
    PacksBlock layout uniforms (layout.pack (uniforms.map fun u => (u.name, u.value))) := by
  have hnames : ((uniforms.map fun u => (u.name, u.value)).map Prod.fst).Nodup := by
    rwa [List.map_map]
  have hentry : ∀ {u}, u ∈ uniforms → (u.name, u.value) ∈ uniforms.map fun u => (u.name, u.value) := fun hu =>
    List.mem_map_of_mem hu
  have hsuits : (∃ bytes, layout.pack (uniforms.map fun u => (u.name, u.value)) = .ok bytes) ↔
      ∀ u ∈ uniforms, ∀ p, layout.find? u.name = some p → u.value.Suits p := by
    rw [StructLayout.pack_succeeds_iff, List.forall_mem_map]
    refine forall₂_congr fun u hu => ?_
    obtain ⟨p, hp, -⟩ := find?_of_membersOf hm hn hu
    rw [StructLayout.slotFor_succeeds_iff hplaced hp]
    simp [hp]
  refine ⟨hm, fun u hu => find?_of_membersOf hm hn hu, hsuits, ?_, ?_, ?_⟩
  · exact fun bytes hbytes => (StructLayout.holds_pack hplaced hnames hbytes).length
  · intro bytes hbytes u hu p hp
    -- the value has been packed, so it has a place, and that is the member found by its name
    obtain ⟨q, hq⟩ := (StructLayout.slotFor_succeeds_iff hplaced hp).2 (hsuits.1 ⟨bytes, hbytes⟩ u hu p hp)
    obtain rfl := Option.some.inj ((StructLayout.slotFor_eq_ok.1 hq).1.symm.trans hp)
    exact (StructLayout.holds_pack hplaced hnames hbytes).slice hplaced (hentry hu) hq
  · exact fun bytes hbytes => (StructLayout.holds_pack hplaced hnames hbytes).zero

/-- the same of uniforms whose values have changed since their block was compiled -/
theorem packsBlock_of_shape (hplaced : layout.Placed) (hm : MembersOf uniforms layout.members) (hne : uniforms ≠ [])
    {now : List Uniform} (hshape : now.map Uniform.shape = uniforms.map Uniform.shape)
    (hn : (now.map (·.name)).Nodup) (block : BlockName) :
    PacksBlock layout now (CompiledPipeline.packBlock (some layout) block now) := by
  have hnow : now ≠ [] := by
    rintro rfl
    exact hne (List.map_eq_nil_iff.1 hshape.symm)
  rw [CompiledPipeline.packBlock_some block hnow]
  exact packsBlock hplaced (hm.congr hshape) hn

end Block

/-! ## The pipeline -/

/-- **Packed uniforms.** Let a pipeline compile whose uniforms are well spelled, and let any of them be declared anew
after that. If there is a pass and a user's uniform, then the user's values are packed in the layout of the user's
block; and the values of the mesh uniforms of a pass are packed in the pass's layout of the mesh block. -/
theorem packed_blocks {history updates : List Declaration} {passes : List RenderPass} {compiled : CompiledPipeline}
    (h : Pipeline.compile ⟨Registry.run history, passes⟩ = .ok compiled)
    (hu : ∀ u ∈ (Registry.run history).allUniforms, u.WellSpelled)
    (hupdates : ∀ d ∈ updates, (Registry.run history).Redeclares d) :
    (passes ≠ [] → (Registry.run history).groupUniforms false ≠ [] →
      ∃ layout, compiled.uniformLayout? false = some layout ∧
        PacksBlock layout ((Registry.run (history ++ updates)).groupUniforms false)
          (compiled.packUniforms (Registry.run (history ++ updates)) false)) ∧
      ∀ index pass, compiled.pass? index = some pass → (Registry.run history).passUniforms index ≠ [] →
        ∃ layout, pass.layouts.get? BlockName.mesh.struct = some layout ∧
          PacksBlock layout ((Registry.run (history ++ updates)).passUniforms index)
            (compiled.packMeshUniforms (Registry.run (history ++ updates)) index) := by
  -- the updates change values only, so the members of the compiled blocks are still those of the uniforms
  have hrun : Registry.run (history ++ updates) = updates.foldl Registry.step (Registry.run history) :=
    List.foldl_append
  have hsame : (Registry.run history).SameUniforms (Registry.run (history ++ updates)) := by
    rw [hrun]
    exact Registry.sameUniforms_run hupdates
  have hdistinct := Registry.distinctUniforms_run (history ++ updates)
  constructor
  · intro hpasses hne
    obtain ⟨source, rest, rfl⟩ := List.exists_cons_of_ne_nil hpasses
    obtain ⟨first, hfirst, hof⟩ := (compile_passes h).2 0 source rfl
    obtain ⟨layout, hget, hmembers⟩ := hof.layout_block (Registry.wellSpelled_uniforms hu) hne rfl
    have hlayout := CompiledPipeline.uniformLayout?_of_first hfirst hget
    refine ⟨layout, hlayout, ?_⟩
    rw [CompiledPipeline.packUniforms, hlayout]
    exact packsBlock_of_shape (hof.placed hget) hmembers hne (hsame.group false) (hdistinct.group false) _
  · intro index pass hpass hne
    obtain ⟨source, -, hof⟩ := source_of_pass h hpass
    obtain ⟨layout, hget, hmembers⟩ := hof.layout_mesh hu hne
    refine ⟨layout, hget, ?_⟩
    have hpacked : compiled.packMeshUniforms (Registry.run (history ++ updates)) index =
        CompiledPipeline.packBlock (some layout) BlockName.mesh
          ((Registry.run (history ++ updates)).passUniforms index) := by
      rw [CompiledPipeline.packMeshUniforms, CompiledPipeline.getPass, hpass, ← hget]
      rfl
    rw [hpacked]
    exact packsBlock_of_shape (hof.placed hget) hmembers hne (hsame.meshes index) (hdistinct.meshes index) _

/-- new values for a uniform and a mesh uniform of the swarm -/
def swarmUpdates : List Declaration :=
  [.uniform false "sun" (.f32 [1, 2, 3, 4]) "Light", .meshUniform 0 "tint" (.f32 [5, 6]) "vec2f"]

theorem swarm_redeclares : ∀ d ∈ swarmUpdates, (Registry.run swarmDecls).Redeclares d := by
  rw [swarmUpdates, List.forall_mem_cons, List.forall_mem_singleton]
  exact ⟨.uniform (by decide +kernel) _ _ _, .meshUniform (by decide +kernel) _ _⟩

theorem swarm_packed_blocks :
    (∀ u ∈ (Registry.run swarmDecls).allUniforms, u.WellSpelled) ∧
      (∀ d ∈ swarmUpdates, (Registry.run swarmDecls).Redeclares d) ∧
      ∃ compiled, Pipeline.compile ⟨Registry.run swarmDecls, swarmPasses⟩ = .ok compiled ∧
        (∃ layout, compiled.uniformLayout? false = some layout ∧
          PacksBlock layout ((Registry.run (swarmDecls ++ swarmUpdates)).groupUniforms false)
            (compiled.packUniforms (Registry.run (swarmDecls ++ swarmUpdates)) false)) ∧
        compiled.packUniforms (Registry.run (swarmDecls ++ swarmUpdates)) false =
          .ok [1, 0, 0, 0, 2, 0, 0, 0, 3, 0, 0, 0, 4, 0, 0, 0] ∧
        (∃ pass, compiled.pass? 0 = some pass ∧ ∃ layout, pass.layouts.get? BlockName.mesh.struct = some layout ∧
          PacksBlock layout ((Registry.run (swarmDecls ++ swarmUpdates)).passUniforms 0)
            (compiled.packMeshUniforms (Registry.run (swarmDecls ++ swarmUpdates)) 0)) ∧
        compiled.packMeshUniforms (Registry.run (swarmDecls ++ swarmUpdates)) 0 =
          .ok [5, 0, 0, 0, 6, 0, 0, 0, 0, 0, 0, 0, 0, 0, 0, 0] := by
  obtain ⟨compiled, h, husers, hmeshes⟩ := exists_of_any (p := fun compiled : CompiledPipeline =>
    compiled.packUniforms (Registry.run (swarmDecls ++ swarmUpdates)) false =
        .ok [1, 0, 0, 0, 2, 0, 0, 0, 3, 0, 0, 0, 4, 0, 0, 0] ∧
      compiled.packMeshUniforms (Registry.run (swarmDecls ++ swarmUpdates)) 0 =
        .ok [5, 0, 0, 0, 6, 0, 0, 0, 0, 0, 0, 0, 0, 0, 0, 0])
    (x := Pipeline.compile ⟨Registry.run swarmDecls, swarmPasses⟩) (by decide +kernel)
  obtain ⟨huser, hmesh⟩ := packed_blocks h swarm_wellSpelled.uniforms swarm_redeclares
  obtain ⟨pass, hpass, -⟩ := (compile_passes h).2 0 _ rfl
  exact ⟨swarm_wellSpelled.uniforms, swarm_redeclares, compiled, h, huser (by decide) (by decide +kernel), husers,
    ⟨pass, hpass, hmesh 0 pass hpass (by decide +kernel)⟩, hmeshes⟩

end ShaderInterface
