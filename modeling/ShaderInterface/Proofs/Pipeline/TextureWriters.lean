/-
Which passes write a binding texture.

A pass writes a binding texture in its compute stage. It does so if it binds the texture's group, which only an internal
pass does for an internal texture, and if it is the pass that the texture is pinned to for writing, if there is one. The
check before compilation asks for a compute stage in some pass, whichever that is. So it gives every texture of the user
that is not pinned a writer, and promises none to the others.

- `mem_slotResources`: what the slots of several groups hold, source by source.
- `CompiledPass.Of.mem_assignments_resource`: what a stage of a compiled pass binds.
- `texture_writers`: the passes that write a texture, and that an unpinned texture of the user has one.
- `unwritten_textures`: an internal texture and a pinned one that compile without a writer.
-/
import ShaderInterface.Proofs.Binding.DistinctSlots
import ShaderInterface.Proofs.Pipeline.StorageSizes

namespace ShaderInterface

open Outcome

/-! ## Slots of a texture -/

section Slots

variable {registry : Registry} {pass : PassContext} {stage : Stage} {groups : List Nat} {texture : Resource}
  {readName : String} {format : TexelFormat} {pinned : Option Pinning}

theorem mem_slotResources {resource : BoundResource} : resource ∈ slotResources registry pass stage groups ↔
    ∃ group ∈ groups, ∃ x ∈ SlotSource.ofGroup registry pass stage group, x.slot stage = resource := by
  rw [slotResources_eq, List.mem_map]
  constructor
  · intro h
    obtain ⟨x, hx, hslot⟩ := h
    obtain ⟨group, hgroup, hx⟩ := List.mem_flatMap.1 hx
    exact ⟨group, hgroup, x, hx, hslot⟩
  · intro h
    obtain ⟨group, hgroup, x, hx, hslot⟩ := h
    exact ⟨x, List.mem_flatMap.2 ⟨group, hgroup, hx⟩, hslot⟩

/-- only a binding texture is bound for writing, under its own name -/
theorem key_of_write_slot {r : Resource} {name : String} (h : r.slot .compute = .bindingTextureWrite name format) :
    r.key = (.bindingTexture, name) := by
  obtain ⟨declared, internal, details⟩ := r
  cases details with
  | bindingTexture readName own pinned =>
    have hname : declared = name ∧ own = format := by simpa [Resource.slot] using h
    exact Prod.ext rfl hname.1
  | _ => simp [Resource.slot] at h

/-- **A write side is bound in the group of its texture**, if the pass is the one that writes the texture. -/
theorem write_mem_slotResources (hid : registry.Identified) (ht : texture ∈ registry.resources)
    (hdetails : texture.details = .bindingTexture readName format pinned) :
    .bindingTextureWrite texture.name format ∈ slotResources registry pass .compute groups ↔
      (∃ group ∈ groups, texture.internal = decide (group = internalGroup)) ∧
        ∀ p ∈ pinned, p.writer = pass.index := by
  have hslot : texture.slot .compute = .bindingTextureWrite texture.name format := by
    rw [Resource.slot, hdetails]
    rfl
  have hbound : texture.BoundIn pass .compute ↔ ∀ p ∈ pinned, p.writer = pass.index := by
    rw [Resource.BoundIn, hdetails]
    simp
  rw [mem_slotResources, ← hbound]
  constructor
  · intro h
    obtain ⟨group, hgroup, x, hx, hxslot⟩ := h
    rcases SlotSource.mem_ofGroup hx with ⟨internal, -, rfl⟩ | ⟨-, rfl⟩ | ⟨r, hr, rfl⟩
    · simp [SlotSource.slot] at hxslot
    · simp [SlotSource.slot] at hxslot
    · obtain ⟨hr, howner, hrbound⟩ := mem_boundResources.1 hr
      have hkey : r.key = texture.key := (key_of_write_slot hxslot).trans (key_of_write_slot hslot).symm
      obtain rfl : r = texture := List.inj_on_of_nodup_map hid.keys hr ht hkey
      exact ⟨⟨group, hgroup, howner⟩, hrbound⟩
  · intro h
    obtain ⟨⟨group, hgroup, howner⟩, htbound⟩ := h
    refine ⟨group, hgroup, .resource texture, ?_, hslot⟩
    exact List.mem_append_right _ (List.mem_map_of_mem (mem_boundResources.2 ⟨ht, howner, htbound⟩))

end Slots

/-! ## Stages of a compiled pass -/

/-- the pass, at this index, is one that writes a texture of that owner with that pinning -/
structure RenderPass.Writes (source : RenderPass) (index : Nat) (internal : Bool) (pinned : Option Pinning) : Prop where
  compute : source.compute.isSome = true
  owner : internal = true → source.internal = true
  pinned : ∀ p ∈ pinned, p.writer = index

namespace CompiledPass.Of

variable {registry : Registry} {source : RenderPass} {index : Nat} {pass : CompiledPass}

/-- a pass answers for a stage if its source has the stage -/
theorem stage?_eq (h : pass.Of registry source index) (stage : Stage) :
    pass.stage? stage = (source.shader? stage).map fun shader => compileStage registry pass.context (stage, shader) := by
  cases hshader : source.shader? stage with
  | some shader =>
    have hsource : (stage, shader) ∈ source.stages := by
      refine List.mem_filterMap.2 ⟨stage, ?_, ?_⟩
      · cases stage <;> decide
      · rw [hshader, Option.map_some]
    have hcompiled : compileStage registry pass.context (stage, shader) ∈ pass.stages := by
      rw [h.stages]
      exact List.mem_map_of_mem hsource
    exact h.stage?_of_mem hcompiled
  | none =>
    rw [Option.map_none, CompiledPass.stage?, List.find?_eq_none]
    intro cs hcs heq
    rw [h.stages] at hcs
    obtain ⟨own, hown, rfl⟩ := List.mem_map.1 hcs
    obtain ⟨other, -, hother⟩ := List.mem_filterMap.1 hown
    obtain ⟨shader, hsome, rfl⟩ := Option.map_eq_some_iff.1 hother
    obtain rfl : other = stage := of_decide_eq_true heq
    rw [hshader] at hsome
    simp at hsome

/-- **What a stage of a pass binds**, in all groups of the pass. -/
theorem mem_assignments_resource (h : pass.Of registry source index) {stage : Stage} {resource : BoundResource} :
    resource ∈ (pass.assignments stage).map (·.resource) ↔
      (source.shader? stage).isSome ∧ resource ∈ slotResources registry pass.context stage pass.context.groups := by
  rw [CompiledPass.assignments, h.stage?_eq]
  cases source.shader? stage with
  | none => simp
  | some shader => simp [compileStage, CompiledStage.assignments, slotResources, List.map_flatMap, List.flatMap_map]

/-- **A pass binds the write side of a texture** in its compute stage exactly if its source is one that writes it. -/
theorem binds_write_iff (h : pass.Of registry source index) (hid : registry.Identified) {texture : Resource}
    (ht : texture ∈ registry.resources) {readName : String} {format : TexelFormat} {pinned : Option Pinning}
    (hdetails : texture.details = .bindingTexture readName format pinned) :
    .bindingTextureWrite texture.name format ∈ (pass.assignments .compute).map (·.resource) ↔
      source.Writes index texture.internal pinned := by
  rw [h.mem_assignments_resource, write_mem_slotResources hid ht hdetails, exists_group_iff, h.context]
  constructor
  · intro hbinds
    obtain ⟨hcompute, howner, hpinned⟩ := hbinds
    refine ⟨hcompute, fun hinternal => ?_, hpinned⟩
    simpa [hinternal] using howner
  · intro hwrites
    refine ⟨hwrites.compute, ?_, hwrites.pinned⟩
    cases hinternal : texture.internal with
    | false => rfl
    | true => exact hwrites.owner hinternal

end CompiledPass.Of

/-! ## The pipeline -/

/-- a pipeline with a binding texture that may be compiled has a pass with a compute stage -/
theorem exists_compute_of_compile {pipeline : Pipeline} {compiled : CompiledPipeline}
    (h : pipeline.compile = .ok compiled) {texture : Resource} (ht : texture ∈ pipeline.registry.resources)
    (hkind : texture.kind = .bindingTexture) : ∃ source ∈ pipeline.passes, source.compute.isSome = true := by
  obtain ⟨hvalid, -⟩ := compile_eq_ok.1 h
  obtain ⟨-, -, hchecked⟩ := validate_eq_ok.1 hvalid
  unfold Pipeline.checkBindingTextures at hchecked
  split at hchecked
  · next hany => exact List.any_eq_true.1 hany
  · split at hchecked
    · simp at hchecked
    · next hnone =>
      rw [List.head?_eq_none_iff] at hnone
      have hmem : texture ∈ pipeline.registry.ofKind .bindingTexture :=
        List.mem_filter.2 ⟨ht, decide_eq_true hkind⟩
      rw [hnone] at hmem
      simp at hmem

/-- the pass at the index has a slot in its compute stage that holds the resource -/
def CompiledPipeline.ComputeBinds (compiled : CompiledPipeline) (index : Nat) (resource : BoundResource) : Prop :=
  ∃ pass, compiled.pass? index = some pass ∧ resource ∈ (pass.assignments .compute).map (·.resource)

/-- **Who writes a binding texture.** In a compiled pipeline, the passes that bind the write side of a declared binding
texture in their compute stage are those that have one, are internal if the texture is, and are pinned for writing if it
is pinned. So a texture of the user that is not pinned has a writer. -/
theorem texture_writers {history : List Declaration} {passes : List RenderPass} {compiled : CompiledPipeline}
    (h : Pipeline.compile ⟨Registry.run history, passes⟩ = .ok compiled) {texture : Resource}
    (ht : texture ∈ (Registry.run history).resources) {readName : String} {format : TexelFormat}
    {pinned : Option Pinning} (hdetails : texture.details = .bindingTexture readName format pinned) :
    (∀ index, compiled.ComputeBinds index (.bindingTextureWrite texture.name format) ↔
        ∃ source, passes[index]? = some source ∧ source.Writes index texture.internal pinned) ∧
      (texture.internal = false → pinned = none →
        ∃ index, compiled.ComputeBinds index (.bindingTextureWrite texture.name format)) := by
  obtain ⟨-, heach⟩ := compile_passes h
  have hid := Registry.identified_run history
  have hiff : ∀ index, compiled.ComputeBinds index (.bindingTextureWrite texture.name format) ↔
      ∃ source, passes[index]? = some source ∧ source.Writes index texture.internal pinned := by
    intro index
    constructor
    · intro hbinds
      obtain ⟨pass, hpass, hmem⟩ := hbinds
      obtain ⟨source, hsource, hof⟩ := compiled_of_pass h hpass
      exact ⟨source, hsource, (hof.binds_write_iff hid ht hdetails).1 hmem⟩
    · intro hwrites
      obtain ⟨source, hsource, hwrites⟩ := hwrites
      obtain ⟨pass, hpass, hof⟩ := heach index source hsource
      exact ⟨pass, hpass, (hof.binds_write_iff hid ht hdetails).2 hwrites⟩
  refine ⟨hiff, fun hinternal hunpinned => ?_⟩
  have hkind : texture.kind = .bindingTexture := by rw [Resource.kind, hdetails]; rfl
  obtain ⟨source, hmem, hcompute⟩ := exists_compute_of_compile h ht hkind
  obtain ⟨index, hindex⟩ := List.mem_iff_getElem?.1 hmem
  refine ⟨index, (hiff index).2 ⟨source, hindex, hcompute, fun howner => ?_, fun p hp => ?_⟩⟩
  · rw [hinternal] at howner
    simp at howner
  · rw [hunpinned] at hp
    simp at hp

/-! ## Textures with and without a writer -/

def blurPasses : List RenderPass :=
  [⟨"blur", false, some ⟨"blur.wgsl", ""⟩, none, none⟩,
    ⟨"show", false, none, some ⟨"show.vert", ""⟩, some ⟨"show.frag", ""⟩⟩]

/-- a texture of the user that is not pinned -/
def sharedTexture : List Declaration := [.bindingTexture "trail" "trail_in" .rgba8unorm none none false]

/-- an internal texture, and one of the user whose writer is the pass that shows it -/
def strayTextures : List Declaration :=
  [.bindingTexture "trail" "trail_in" .rgba8unorm none none true,
    .bindingTexture "glow" "glow_in" .rgba8unorm (some 1) (some 1) false]

theorem shared_texture_writers :
    ∃ compiled, Pipeline.compile ⟨Registry.run sharedTexture, blurPasses⟩ = .ok compiled ∧
      (∃ index, compiled.ComputeBinds index (.bindingTextureWrite "trail" .rgba8unorm)) ∧
      ∀ index, compiled.ComputeBinds index (.bindingTextureWrite "trail" .rgba8unorm) ↔
        ∃ source, blurPasses[index]? = some source ∧ source.Writes index false none := by
  obtain ⟨compiled, h⟩ := isOk_iff.1
    (show (Pipeline.compile ⟨Registry.run sharedTexture, blurPasses⟩).isOk = true by decide +kernel)
  have ht : ⟨"trail", false, .bindingTexture "trail_in" .rgba8unorm none⟩ ∈ (Registry.run sharedTexture).resources := by
    decide
  obtain ⟨hiff, hwritten⟩ := texture_writers h ht rfl
  exact ⟨compiled, h, hwritten rfl rfl, hiff⟩

/-- the pipeline compiles, since one pass has a compute stage, and nothing writes either texture -/
theorem unwritten_textures :
    ∃ compiled, Pipeline.compile ⟨Registry.run strayTextures, blurPasses⟩ = .ok compiled ∧
      (∀ name ∈ ["trail", "glow"], ((Registry.run strayTextures).find? .bindingTexture name).isSome = true) ∧
      ∀ name ∈ ["trail", "glow"], ∀ format, ¬ ∃ index, compiled.ComputeBinds index (.bindingTextureWrite name format) := by
  obtain ⟨compiled, h, hunbound⟩ := exists_of_any (p := fun compiled : CompiledPipeline =>
    ∀ pass ∈ compiled.passes, (pass.assignments .compute).map (·.resource) = [])
    (x := Pipeline.compile ⟨Registry.run strayTextures, blurPasses⟩) (by decide +kernel)
  refine ⟨compiled, h, by decide, fun name _ format hbinds => ?_⟩
  obtain ⟨index, pass, hpass, hmem⟩ := hbinds
  rw [hunbound pass (List.mem_of_getElem? hpass)] at hmem
  simp at hmem

end ShaderInterface
