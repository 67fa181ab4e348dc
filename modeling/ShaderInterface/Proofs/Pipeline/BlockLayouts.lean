/-
The layouts of the uniform blocks in a compiled pipeline.

A pass binds the block of a group exactly if the group has uniforms and the pass generates the block, and then it has
a layout of the block and records the size of that. If the uniforms are well spelled, the layout places a member for
each of them. `uniformLayout?` answers with the first layout of the block's name, whoever declared the struct: a user
pass has no internal block, so a struct of that name in its own code is not compared with the generated one, and if the
pass comes before every internal pass, it is the one that is found.

- `binds_uniforms_iff`: which blocks a pass binds.
- `layout_block`, `layout_mesh`: the layouts of generated blocks.
- `uniformLayout_generated`: the layout of a bound block is the generated one unless another struct stands before it.
-/
import ShaderInterface.Proofs.Pipeline.EmittedStructs
import ShaderInterface.Proofs.Pipeline.SlotAgreement

namespace ShaderInterface

open Outcome

/-! ## What a pass binds -/

namespace CompiledPass

/-- some stage of the pass has a slot for the resource -/
def Binds (pass : CompiledPass) (resource : BoundResource) : Prop :=
  resource ∈ (pass.stages.flatMap (·.assignments)).map (·.resource)

instance (pass : CompiledPass) (resource : BoundResource) : Decidable (pass.Binds resource) := by
  unfold Binds
  infer_instance

/-- the generated source of the pass has the block of that group, if the group has uniforms -/
def generates (pass : CompiledPass) (internal : Bool) : Bool := !internal || pass.context.internal

end CompiledPass

theorem Resource.slot_ne_uniforms (r : Resource) (stage : Stage) (internal : Bool) :
    r.slot stage ≠ .uniforms internal := by
  obtain ⟨name, owner, details⟩ := r
  cases details with
  | bindingTexture readName format pinned => cases stage <;> simp [Resource.slot]
  | _ => simp [Resource.slot]

section Binding

variable {registry : Registry} {context : PassContext} {stage : Stage} {group : Nat}

/-- the slots of a group hold the specified resources -/
theorem mem_synthesize_resource {resource : BoundResource} :
    resource ∈ (synthesize registry context stage group).assignments.map (·.resource) ↔
      resource ∈ specifiedSlots registry context stage group := by
  rw [← candidates_resource, List.mem_map, List.mem_map]
  constructor
  · rintro ⟨a, ha, rfl⟩
    obtain ⟨i, hi⟩ := List.mem_iff_getElem?.1 ha
    obtain ⟨c, hc, rfl⟩ := getElem?_synthesize.1 hi
    exact ⟨c, List.mem_of_getElem? hc, rfl⟩
  · rintro ⟨c, hc, rfl⟩
    obtain ⟨i, hi⟩ := List.mem_iff_getElem?.1 hc
    exact ⟨_, List.mem_of_getElem? (getElem?_synthesize.2 ⟨c, hi, rfl⟩), rfl⟩

/-- a block has a slot in the group of its uniforms, if there are any -/
theorem uniforms_mem_specifiedSlots {internal : Bool} :
    .uniforms internal ∈ specifiedSlots registry context stage group ↔
      registry.groupUniforms internal ≠ [] ∧ internal = decide (group = internalGroup) := by
  have hresources : ∀ kind owner, BoundResource.uniforms internal ∉ kindSlots registry context stage owner kind := by
    intro kind owner hmem
    obtain ⟨r, -, hr⟩ := List.mem_map.1 hmem
    exact r.slot_ne_uniforms stage internal hr
  have hblock : .uniforms internal ∈ specifiedSlots registry context stage group ↔
      BoundResource.uniforms internal ∈ if registry.groupUniforms (group = internalGroup) = [] then []
        else [BoundResource.uniforms (group = internalGroup)] := by
    rw [specifiedSlots, List.mem_append, List.mem_append, List.mem_flatMap]
    simp [hresources]
  rw [hblock]
  split
  · next hempty =>
    simp only [List.not_mem_nil, false_iff, not_and]
    rintro hne rfl
    exact hne hempty
  · next hne =>
    rw [List.mem_singleton, BoundResource.uniforms.injEq]
    exact ⟨fun h => ⟨h ▸ hne, h⟩, And.right⟩

theorem exists_group_iff {internal : Bool} :
    (∃ group ∈ context.groups, internal = decide (group = internalGroup)) ↔
      (!internal || context.internal) = true := by
  obtain ⟨index, own⟩ := context
  cases internal <;> cases own <;> simp [PassContext.groups, userGroup, internalGroup]

end Binding

namespace CompiledPass.Of

variable {registry : Registry} {source : RenderPass} {index : Nat} {pass : CompiledPass} {internal : Bool}

theorem mem_assignments (h : pass.Of registry source index) {cs : CompiledStage} (hcs : cs ∈ pass.stages)
    {a : Assignment} : a ∈ cs.assignments ↔
      ∃ group ∈ pass.context.groups, a ∈ (synthesize registry pass.context cs.stage group).assignments := by
  rw [CompiledStage.assignments, h.bindings_of_mem hcs, List.flatMap_map, List.mem_flatMap]

/-- **Which blocks a pass binds**: those with uniforms that it generates. -/
theorem binds_uniforms_iff (h : pass.Of registry source index) (hstages : source.stages ≠ []) :
    pass.Binds (.uniforms internal) ↔ registry.groupUniforms internal ≠ [] ∧ pass.generates internal = true := by
  have hslot : ∀ stage group, (∃ a ∈ (synthesize registry pass.context stage group).assignments,
      a.resource = .uniforms internal) ↔
        registry.groupUniforms internal ≠ [] ∧ internal = decide (group = internalGroup) := by
    intro stage group
    rw [← uniforms_mem_specifiedSlots, ← mem_synthesize_resource, List.mem_map]
  rw [Binds, List.mem_map]
  constructor
  · rintro ⟨a, ha, hresource⟩
    obtain ⟨cs, hcs, ha⟩ := List.mem_flatMap.1 ha
    obtain ⟨group, hgroup, ha⟩ := (h.mem_assignments hcs).1 ha
    obtain ⟨hne, hinternal⟩ := (hslot cs.stage group).1 ⟨a, ha, hresource⟩
    exact ⟨hne, exists_group_iff.1 ⟨group, hgroup, hinternal⟩⟩
  · rintro ⟨hne, hgenerates⟩
    obtain ⟨group, hgroup, hinternal⟩ := exists_group_iff.2 hgenerates
    have hcompiled : pass.stages ≠ [] := by
      rw [h.stages]
      exact fun hnil => hstages (List.map_eq_nil_iff.1 hnil)
    obtain ⟨cs, hcs⟩ := List.exists_mem_of_ne_nil _ hcompiled
    obtain ⟨a, ha, hresource⟩ := (hslot cs.stage group).2 ⟨hne, hinternal⟩
    exact ⟨a, List.mem_flatMap.2 ⟨cs, hcs, (h.mem_assignments hcs).2 ⟨group, hgroup, ha⟩⟩, hresource⟩

/-- the size of a bound buffer has been computed, and is recorded -/
theorem recorded_of_binds (h : pass.Of registry source index) {r : BoundResource} (hbinds : pass.Binds r)
    {outcome : Except Error Nat} (hbuffer : bufferSize registry pass.layouts r = outcome.map some) :
    ∃ n, outcome = .ok n ∧ pass.bufferSize? r = some n := by
  obtain ⟨size, hsize⟩ := h.sizes.computed r hbinds
  obtain ⟨n, hn, rfl⟩ := map_eq_ok.1 (hbuffer.symm.trans hsize)
  exact ⟨n, hn, (h.sizes.get? r n).2 ⟨hbinds, hsize⟩⟩

/-- a bound block has a layout, and its recorded size is that of the layout -/
theorem recorded_block (h : pass.Of registry source index) (hbinds : pass.Binds (.uniforms internal)) :
    ∃ layout, pass.layouts.get? (BlockName.uniforms internal).struct = some layout ∧
      pass.bufferSize? (.uniforms internal) = some layout.byteSize := by
  obtain ⟨n, hn, hrecorded⟩ := h.recorded_of_binds hbinds rfl
  unfold blockSize at hn
  split at hn
  · next layout hget => exact ⟨layout, hget, hrecorded.trans (congrArg some (Except.ok.inj hn).symm)⟩
  · simp at hn

end CompiledPass.Of

/-! ## The layouts of generated blocks -/

/-- a generated block with members has a layout with the same members -/
theorem layout_blockDecls {table : LayoutTable} {struct : String} {uniforms : List Uniform} {members : List Member}
    (hm : MembersOf uniforms members) (hne : uniforms ≠ []) (hlaid : ∀ d ∈ blockDecls struct members, LaidOut table d) :
    ∃ layout, table.get? struct = some layout ∧ MembersOf uniforms layout.members := by
  have hmem : StructDecl.ofMembers struct members ∈ blockDecls struct members := by
    rw [blockDecls, if_neg (hm.ne_nil hne)]
    exact List.mem_singleton.2 rfl
  obtain ⟨layout, hget, hlayout⟩ := (hlaid _ hmem).exists_layout
  refine ⟨layout, hget, ?_⟩
  rw [hlayout]
  exact hm

namespace LaysOut

variable {registry : Registry} {source : RenderPass} {context : PassContext} {table : LayoutTable} {internal : Bool}

/-- the blocks of the user's and the internal group, and what the rest of the generated source declares -/
theorem laidOut_front (h : LaysOut registry source context table) (hu : ∀ u ∈ registry.uniforms, u.WellSpelled)
    {users internals : List Member} (husers : MembersOf (registry.groupUniforms false) users)
    (hinternals : MembersOf (registry.groupUniforms true) internals) :
    (∀ d ∈ blockDecls (BlockName.uniforms false).struct users ++
        (if context.internal then blockDecls (BlockName.uniforms true).struct internals else []), LaidOut table d) ∧
      ∃ others, Declares (Token.scanChars (generatedRest registry context).toList) others ∧
        ∀ d ∈ others, LaidOut table d := by
  obtain ⟨generated, hparse, hlaid⟩ := h.laidOut_generated
  have hdeclares := parseAll_eq_ok.1 hparse
  rw [Token.scan_eq, ← List.append_nil (generatedText registry context).toList] at hdeclares
  obtain ⟨others, hothers, rfl⟩ := (declares_front hu husers hinternals).1 hdeclares
  rw [List.append_nil] at hothers
  obtain ⟨hfront, hbehind⟩ := List.forall_mem_append.1 hlaid
  exact ⟨hfront, others, hothers, hbehind⟩

/-- **The layout of a generated block** places a member for each uniform of its group. -/
theorem layout_block (h : LaysOut registry source context table) (hu : ∀ u ∈ registry.uniforms, u.WellSpelled)
    (hne : registry.groupUniforms internal ≠ []) (hgenerates : (!internal || context.internal) = true) :
    ∃ layout, table.get? (BlockName.uniforms internal).struct = some layout ∧
      MembersOf (registry.groupUniforms internal) layout.members := by
  have hgroup := Registry.wellSpelled_group hu
  obtain ⟨users, husers⟩ := exists_membersOf (hgroup false)
  obtain ⟨internals, hinternals⟩ := exists_membersOf (hgroup true)
  obtain ⟨hfront, -⟩ := h.laidOut_front hu husers hinternals
  obtain ⟨hlaidUsers, hlaidInternals⟩ := List.forall_mem_append.1 hfront
  cases internal with
  | false => exact layout_blockDecls husers hne hlaidUsers
  | true =>
    have hinternal : context.internal = true := hgenerates
    rw [if_pos hinternal] at hlaidInternals
    exact layout_blockDecls hinternals hne hlaidInternals

/-- **The layout of the mesh block** exists if the blocks ahead are well spelled. It places a member for each mesh
uniform of the pass, if these are too. -/
theorem layout_mesh (h : LaysOut registry source context table) (hu : ∀ u ∈ registry.uniforms, u.WellSpelled)
    (hne : registry.passUniforms context.index ≠ []) :
    ∃ layout, table.get? BlockName.mesh.struct = some layout ∧
      ((∀ u ∈ registry.passUniforms context.index, u.WellSpelled) →
        MembersOf (registry.passUniforms context.index) layout.members) := by
  have hgroup := Registry.wellSpelled_group hu
  obtain ⟨users, husers⟩ := exists_membersOf (hgroup false)
  obtain ⟨internals, hinternals⟩ := exists_membersOf (hgroup true)
  obtain ⟨-, others, hothers, hlaid⟩ := h.laidOut_front hu husers hinternals
  rw [generatedRest, String.toList_append] at hothers
  obtain ⟨members, more, rfl⟩ := declares_blockHead isIdentifier_mesh hne hothers
  obtain ⟨layout, hget, hlayout⟩ := (hlaid _ List.mem_cons_self).exists_layout
  refine ⟨layout, hget, ?_⟩
  intro hspelled
  obtain ⟨meshes, hmeshes⟩ := exists_membersOf hspelled
  -- the constants behind the mesh block may be any text, and may declare structs too
  obtain ⟨behind, -, heq⟩ := (declares_block isIdentifier_mesh hspelled hmeshes _ _).1 hothers
  rw [blockDecls, if_neg (hmeshes.ne_nil hne), List.singleton_append] at heq
  obtain rfl : members = meshes := congrArg StructDecl.members (List.cons.inj heq).1
  rw [hlayout]
  exact hmeshes

end LaysOut

namespace CompiledPass.Of

variable {registry : Registry} {source : RenderPass} {index : Nat} {pass : CompiledPass} {internal : Bool}

/-- the layout of a block that the pass generates -/
theorem layout_block (h : pass.Of registry source index) (hu : ∀ u ∈ registry.uniforms, u.WellSpelled)
    (hne : registry.groupUniforms internal ≠ []) (hgenerates : pass.generates internal = true) :
    ∃ layout, pass.layouts.get? (BlockName.uniforms internal).struct = some layout ∧
      MembersOf (registry.groupUniforms internal) layout.members := h.laysOut.layout_block hu hne hgenerates

/-- the layout of the mesh block of the pass -/
theorem layout_mesh (h : pass.Of registry source index) (hu : ∀ u ∈ registry.allUniforms, u.WellSpelled)
    (hne : registry.passUniforms index ≠ []) :
    ∃ layout, pass.layouts.get? BlockName.mesh.struct = some layout ∧
      MembersOf (registry.passUniforms index) layout.members := by
  have hindex : pass.context.index = index := by rw [h.context]
  rw [← hindex] at hne ⊢
  obtain ⟨layout, hget, hmembers⟩ := h.laysOut.layout_mesh (Registry.wellSpelled_uniforms hu) hne
  exact ⟨layout, hget, hmembers (Registry.wellSpelled_mesh hu _)⟩

end CompiledPass.Of

/-! ## The layout of a block in a pipeline -/

/-- the struct of the block's name that is found in the passes ahead of the first one that generates the block -/
def CompiledPipeline.shadow? (compiled : CompiledPipeline) (internal : Bool) : Option StructLayout :=
  (compiled.passes.takeWhile (!·.generates internal)).findSome? (·.layouts.get? (BlockName.uniforms internal).struct)

/-- the pipeline answers for a block with the layout of the first pass, if that has one -/
theorem CompiledPipeline.uniformLayout?_of_first {compiled : CompiledPipeline} {internal : Bool} {first : CompiledPass}
    (hfirst : compiled.pass? 0 = some first) {layout : StructLayout}
    (hget : first.layouts.get? (BlockName.uniforms internal).struct = some layout) :
    compiled.uniformLayout? internal = some layout := by
  obtain ⟨rest, hpasses⟩ := List.head?_eq_some_iff.1 (List.head?_eq_getElem?.trans hfirst)
  rw [uniformLayout?, hpasses, List.findSome?_cons, hget]

/-- every pass generates the user's block -/
theorem CompiledPipeline.shadow?_false (compiled : CompiledPipeline) : compiled.shadow? false = none := by
  rw [shadow?]
  cases compiled.passes with
  | nil => rfl
  | cons pass rest =>
    rw [List.takeWhile_cons, if_neg (by simp [CompiledPass.generates])]
    rfl

/-- the layout of a block is the first in the passes that generate it, unless a struct of its name is found before -/
theorem CompiledPipeline.uniformLayout?_eq_or {compiled : CompiledPipeline} {internal : Bool}
    (hsome : ∃ pass ∈ compiled.passes, pass.generates internal = true) :
    ∃ first ∈ compiled.passes, first.generates internal = true ∧
      ∀ layout, first.layouts.get? (BlockName.uniforms internal).struct = some layout →
        compiled.uniformLayout? internal = (compiled.shadow? internal).or (some layout) := by
  -- the search stops at the first pass that generates the block at the latest
  obtain ⟨first, hfirst⟩ := Option.isSome_iff_exists.1 (List.find?_isSome.2 hsome)
  obtain ⟨hgenerates, ahead, behind, hpasses, hahead⟩ := List.find?_eq_some_iff_append.1 hfirst
  refine ⟨first, List.mem_of_find?_eq_some hfirst, hgenerates, ?_⟩
  intro layout hget
  have htake : compiled.passes.takeWhile (!·.generates internal) = ahead := by
    rw [hpasses, List.takeWhile_append_of_pos hahead, List.takeWhile_cons, if_neg (by simp [hgenerates]),
      List.append_nil]
  rw [shadow?, htake, uniformLayout?, hpasses, List.findSome?_append, List.findSome?_cons, hget]

/-- **The layout of a bound block** exists. It has a member for each uniform of the group exactly when no struct of the
block's name is found ahead of the first generated one, or one with these very members; for the user's block that is
always so. -/
theorem uniformLayout_generated {pipeline : Pipeline} {compiled : CompiledPipeline}
    (h : pipeline.compile = .ok compiled) (hu : ∀ u ∈ pipeline.registry.uniforms, u.WellSpelled) {internal : Bool}
    {pass : CompiledPass} (hpass : pass ∈ compiled.passes) (hbinds : pass.Binds (.uniforms internal)) :
    ∃ layout, compiled.uniformLayout? internal = some layout ∧
      (MembersOf (pipeline.registry.groupUniforms internal) layout.members ↔
        ∀ own, compiled.shadow? internal = some own →
          MembersOf (pipeline.registry.groupUniforms internal) own.members) ∧
      (internal = false → MembersOf (pipeline.registry.groupUniforms internal) layout.members) := by
  have hsource : ∀ pass ∈ compiled.passes, ∃ index source,
      source.stages ≠ [] ∧ pass.Of pipeline.registry source index := by
    intro pass hpass
    obtain ⟨index, hindex⟩ := List.mem_iff_getElem?.1 hpass
    exact ⟨index, source_of_pass h hindex⟩
  obtain ⟨index, source, hstages, hof⟩ := hsource pass hpass
  obtain ⟨hne, hgenerates⟩ := (hof.binds_uniforms_iff hstages).1 hbinds
  obtain ⟨first, hfirst, hgeneratesFirst, hlayout⟩ := CompiledPipeline.uniformLayout?_eq_or ⟨pass, hpass, hgenerates⟩
  obtain ⟨firstIndex, firstSource, -, hofFirst⟩ := hsource first hfirst
  obtain ⟨layout, hget, hmembers⟩ := hofFirst.layout_block hu hne hgeneratesFirst
  have heq := hlayout layout hget
  cases hshadow : compiled.shadow? internal with
  | none =>
    rw [hshadow] at heq
    exact ⟨layout, heq, by simp [hmembers], fun _ => hmembers⟩
  | some own =>
    rw [hshadow] at heq
    refine ⟨own, heq, by simp, ?_⟩
    rintro rfl
    simp [compiled.shadow?_false] at hshadow

/-! ## A struct in the way -/

/-- one internal uniform, a user pass with some code, and an internal pass -/
def toneDecls : List Declaration := [.uniform true "exposure" (.f32 [0]) "f32"]

def tonePasses (code : String) : List RenderPass :=
  [⟨"draw", false, some ⟨"draw.wgsl", code⟩, none, none⟩, ⟨"tone", true, some ⟨"tone.wgsl", ""⟩, none, none⟩]

theorem tone_wellSpelled : ∀ u ∈ (Registry.run toneDecls).uniforms, u.WellSpelled := by decide +kernel

theorem tone_uniformLayout :
    (∀ u ∈ (Registry.run toneDecls).uniforms, u.WellSpelled) ∧
      ∃ compiled, Pipeline.compile ⟨Registry.run toneDecls, tonePasses ""⟩ = .ok compiled ∧
        (∃ pass ∈ compiled.passes, pass.Binds (.uniforms true)) ∧
        ∃ layout, compiled.uniformLayout? true = some layout ∧
          MembersOf ((Registry.run toneDecls).groupUniforms true) layout.members := by
  obtain ⟨compiled, h, hcompiled⟩ := exists_of_any (p := fun compiled : CompiledPipeline =>
    compiled.shadow? true = none ∧ ∃ pass ∈ compiled.passes, pass.Binds (.uniforms true))
    (x := Pipeline.compile ⟨Registry.run toneDecls, tonePasses ""⟩) (by decide +kernel)
  obtain ⟨hshadow, pass, hpass, hbinds⟩ := hcompiled
  obtain ⟨layout, hlayout, hmembers, -⟩ := uniformLayout_generated h tone_wellSpelled hpass hbinds
  exact ⟨tone_wellSpelled, compiled, h, ⟨pass, hpass, hbinds⟩, layout, hlayout, hmembers.2 (by simp [hshadow])⟩

/-- a struct of the block's name in the user pass is taken for the block -/
theorem tone_uniformLayout_shadowed :
    (∀ u ∈ (Registry.run toneDecls).uniforms, u.WellSpelled) ∧
      ∃ compiled, Pipeline.compile ⟨Registry.run toneDecls, tonePasses "struct InternalParams { x: vec4f }"⟩ =
          .ok compiled ∧ (∃ pass ∈ compiled.passes, pass.Binds (.uniforms true)) ∧
        ∃ layout, compiled.uniformLayout? true = some layout ∧ layout.members = [⟨"x", .named "vec4f"⟩] ∧
          ¬ MembersOf ((Registry.run toneDecls).groupUniforms true) layout.members := by
  obtain ⟨compiled, h, hbinds, hlayout⟩ := exists_of_any (p := fun compiled : CompiledPipeline =>
    (∃ pass ∈ compiled.passes, pass.Binds (.uniforms true)) ∧
      (compiled.uniformLayout? true).map (·.members) = some [⟨"x", .named "vec4f"⟩])
    (x := Pipeline.compile ⟨Registry.run toneDecls, tonePasses "struct InternalParams { x: vec4f }"⟩)
    (by decide +kernel)
  obtain ⟨layout, hlayout, hmembers⟩ := Option.map_eq_some_iff.1 hlayout
  refine ⟨tone_wellSpelled, compiled, h, hbinds, layout, hlayout, hmembers, ?_⟩
  intro hm
  have hnames := hm.names
  rw [hmembers] at hnames
  exact absurd hnames (by decide)

end ShaderInterface
