/-
Whether kind and name identify a slot.

Kind and name identify a declared resource, and where a slot shows the declared name they identify the slot as well. The
one slot that shows another name is that of a binding texture in the fragment stage. The name of its read side is the
second name of the declaration, which is compared with no other declaration.

- `SlotSource`: what a slot is made for. A group has no source twice, and two groups of a pass have none in common.
- `eq_of_shown`: sources whose slots show the same kind and name are the same, if the read names are distinct.
- `slots_tfae`: so the slots of a group, or of all groups of a pass, are distinct exactly if the read names are.
- `shared_read_name`: two textures that are read under one name.
-/
import Mathlib.Tactic.TFAE
import ShaderInterface.Proofs.Binding.SlotOrder
import ShaderInterface.Proofs.Resource.Identity

namespace ShaderInterface

/-! ## What the slots show -/

/-- what the slots of these groups hold in a stage of a pass -/
def slotResources (registry : Registry) (pass : PassContext) (stage : Stage) (groups : List Nat) :
    List BoundResource :=
  groups.flatMap fun group => (synthesize registry pass stage group).assignments.map (·.resource)

/-- the kind and the name of what a slot holds -/
def BoundResource.shown (r : BoundResource) : String × String := (r.label, r.name)

/-- the name under which the fragment stage reads the resource -/
def Resource.readName (r : Resource) : String :=
  match r.details with
  | .bindingTexture readName _ _ => readName
  | _ => r.name

namespace Registry

/-- the binding textures that the fragment stage of the pass reads in these groups -/
def readTextures (registry : Registry) (pass : PassContext) (groups : List Nat) : List Resource :=
  groups.flatMap fun group => (boundResources registry pass .fragment group).filter (·.kind = .bindingTexture)

/-- the names under which it reads them -/
def readNames (registry : Registry) (pass : PassContext) (groups : List Nat) : List String :=
  (registry.readTextures pass groups).map (·.readName)

theorem Identified.nodup_boundResources {registry : Registry} (hid : registry.Identified) {pass : PassContext}
    {stage : Stage} {group : Nat} : (boundResources registry pass stage group).Nodup := by
  apply List.Nodup.filter
  rw [inBindingOrder_eq_mergeSort, (List.mergeSort_perm _ _).nodup_iff]
  exact hid.keys.of_map _

end Registry

/-! ## What slots are made for -/

inductive SlotSource where
  | uniforms (internal : Bool)
  | mesh
  | resource (r : Resource)

namespace SlotSource

/-- the slot of the source -/
def slot (stage : Stage) : SlotSource → BoundResource
  | .uniforms internal => .uniforms internal
  | .mesh => .meshUniforms
  | .resource r => r.slot stage

/-- the source belongs to the internal group -/
def isInternal (pass : PassContext) : SlotSource → Bool
  | .uniforms internal => internal
  | .mesh => pass.ownGroup = internalGroup
  | .resource r => r.internal

/-- the sources of the slots of a group, in order -/
def ofGroup (registry : Registry) (pass : PassContext) (stage : Stage) (group : Nat) : List SlotSource :=
  (if registry.groupUniforms (group = internalGroup) = [] then [] else [.uniforms (group = internalGroup)])
    ++ (if group = pass.ownGroup ∧ registry.passUniforms pass.index ≠ [] then [.mesh] else [])
    ++ (boundResources registry pass stage group).map .resource

variable {registry : Registry} {pass : PassContext} {stage : Stage} {group : Nat} {x : SlotSource}

/-- the slots of a group are those of its sources -/
theorem map_slot_ofGroup (registry : Registry) (pass : PassContext) (stage : Stage) (group : Nat) :
    (ofGroup registry pass stage group).map (slot stage) = specifiedSlots registry pass stage group := by
  have hkinds : ((boundResources registry pass stage group).map resource).map (slot stage) =
      ResourceKind.all.flatMap (kindSlots registry pass stage (group = internalGroup)) := by
    rw [List.map_map, boundResources, Registry.inBindingOrder, List.filter_flatMap, List.map_flatMap]
    refine List.flatMap_congr fun kind _ => ?_
    rw [Registry.ofKind, List.filter_filter, kindSlots]
    congr 1
    apply List.filter_congr
    intro r _
    rw [Bool.eq_iff_iff, Bool.and_eq_true, Resource.boundInGroup_iff, decide_eq_true_iff, decide_eq_true_iff, and_comm]
  rw [ofGroup, List.map_append, List.map_append, hkinds, specifiedSlots]
  congr 2
  · split <;> rfl
  · split <;> rfl

theorem mem_ofGroup (h : x ∈ ofGroup registry pass stage group) :
    (∃ internal, internal = decide (group = internalGroup) ∧ x = .uniforms internal) ∨
      (group = pass.ownGroup ∧ x = .mesh) ∨ ∃ r ∈ boundResources registry pass stage group, x = .resource r := by
  rw [ofGroup, List.mem_append, List.mem_append] at h
  rcases h with (h | h) | h
  · split at h
    · simp at h
    · exact .inl ⟨_, rfl, List.mem_singleton.1 h⟩
  · split at h
    · next hmesh => exact .inr (.inl ⟨hmesh.1, List.mem_singleton.1 h⟩)
    · simp at h
  · obtain ⟨r, hr, rfl⟩ := List.mem_map.1 h
    exact .inr (.inr ⟨r, hr, rfl⟩)

/-- the sources of a group are those of its owner -/
theorem isInternal_of_mem (h : x ∈ ofGroup registry pass stage group) :
    x.isInternal pass = decide (group = internalGroup) := by
  rcases mem_ofGroup h with ⟨internal, rfl, rfl⟩ | ⟨rfl, rfl⟩ | ⟨r, hr, rfl⟩
  · rfl
  · rfl
  · exact (mem_boundResources.1 hr).2.1

/-- a group has no source twice -/
theorem nodup_ofGroup (hid : registry.Identified) : (ofGroup registry pass stage group).Nodup := by
  have hresources : ((boundResources registry pass stage group).map resource).Nodup :=
    hid.nodup_boundResources.map fun _ _ h => SlotSource.resource.inj h
  rw [ofGroup]
  split <;> split <;> simp [hresources]

end SlotSource

/-- lists of several groups have no element twice, if each has none and the groups have different owners -/
theorem nodup_groups {α : Type} {owner : α → Bool} {elements : Nat → List α} {groups : List Nat}
    (hgroups : (groups.map fun group => decide (group = internalGroup)).Nodup)
    (hnodup : ∀ group, (elements group).Nodup)
    (howner : ∀ group, ∀ a ∈ elements group, owner a = decide (group = internalGroup)) :
    (groups.flatMap elements).Nodup := by
  rw [List.nodup_flatMap]
  refine ⟨fun group _ => hnodup group, (List.pairwise_map.1 hgroups).imp ?_⟩
  intro group other hne a ha ha'
  exact hne ((howner group a ha).symm.trans (howner other a ha'))

/-! ## Kinds and names -/

/-- what a message calls the slot of a resource of the kind -/
def ResourceKind.slotLabel (stage : Stage) (kind : ResourceKind) : String :=
  if kind = .bindingTexture then
    if stage = .compute then "binding texture (write)" else "binding texture (read)"
  else kind.label

theorem Resource.label_slot (r : Resource) (stage : Stage) : (r.slot stage).label = r.kind.slotLabel stage := by
  obtain ⟨name, internal, details⟩ := r
  cases details with
  | bindingTexture readName format pinned => cases stage <;> rfl
  | _ => rfl

theorem ResourceKind.mem_all (kind : ResourceKind) : kind ∈ all := by
  cases kind <;> decide

/-- no two kinds have one label -/
theorem ResourceKind.slotLabel_inj {stage : Stage} {kind other : ResourceKind}
    (h : kind.slotLabel stage = other.slotLabel stage) : kind = other := by
  have hall : ∀ stage : Stage, ∀ kind ∈ all, ∀ other ∈ all,
      kind.slotLabel stage = other.slotLabel stage → kind = other := by
    intro stage
    cases stage <;> decide +kernel
  exact hall stage kind kind.mem_all other other.mem_all h

/-- and none has that of a block -/
theorem ResourceKind.slotLabel_ne_block {stage : Stage} (kind : ResourceKind) :
    kind.slotLabel stage ≠ "uniforms" ∧ kind.slotLabel stage ≠ "mesh uniforms" := by
  have hall : ∀ stage : Stage, ∀ kind ∈ all,
      kind.slotLabel stage ≠ "uniforms" ∧ kind.slotLabel stage ≠ "mesh uniforms" := by
    intro stage
    cases stage <;> decide +kernel
  exact hall stage kind kind.mem_all

/-- the blocks of the two owners have different variables -/
theorem BlockName.uniforms_inj {internal other : Bool}
    (h : (BlockName.uniforms internal).var = (BlockName.uniforms other).var) : internal = other := by
  revert h
  cases internal <;> cases other <;> decide

/-- a slot shows the declared name, but in the fragment stage that of a binding texture shows the read name -/
theorem Resource.name_slot {r : Resource} (hlayers : r.kind = .layers → r.name = layersName) {pass : PassContext}
    {stage : Stage} (hbound : r.BoundIn pass stage) :
    (r.slot stage).name = if r.kind = .bindingTexture ∧ stage = .fragment then r.readName else r.name := by
  obtain ⟨name, internal, details⟩ := r
  cases details with
  | layers count width height visibility => exact (hlayers rfl).symm
  | bindingTexture readName format pinned =>
    cases stage with
    | compute => rfl
    | vertex => simp [Resource.BoundIn] at hbound
    | fragment => rfl
  | _ => rfl

/-- in the fragment stage a binding texture is held under its read name -/
theorem Resource.slot_of_texture {r : Resource} (h : r.kind = .bindingTexture) :
    r.slot .fragment = .bindingTextureRead r.readName := by
  obtain ⟨name, internal, details⟩ := r
  cases details with
  | bindingTexture readName format pinned => rfl
  | _ => simp [Resource.kind, ResourceDetails.kind] at h

section Slots

variable {registry : Registry} {pass : PassContext} {stage : Stage} {groups : List Nat}

/-- in the fragment stage, the binding textures that are read in these groups have distinct read names -/
def ReadApart (registry : Registry) (pass : PassContext) (stage : Stage) (groups : List Nat) : Prop :=
  stage = .fragment → (registry.readNames pass groups).Nodup

/-- resources whose slots show the same kind and name are the same, if the read names are distinct -/
theorem Resource.eq_of_shown (hid : registry.Identified) (hread : ReadApart registry pass stage groups) {r s : Resource}
    (hr : r ∈ groups.flatMap (boundResources registry pass stage))
    (hs : s ∈ groups.flatMap (boundResources registry pass stage))
    (h : (r.slot stage).shown = (s.slot stage).shown) : r = s := by
  obtain ⟨hlabel, hname⟩ := Prod.mk.inj h
  rw [r.label_slot, s.label_slot] at hlabel
  have hkind : r.kind = s.kind := ResourceKind.slotLabel_inj hlabel
  obtain ⟨group, hgroup, hr⟩ := List.mem_flatMap.1 hr
  obtain ⟨other, hother, hs⟩ := List.mem_flatMap.1 hs
  obtain ⟨hr', -, hrbound⟩ := mem_boundResources.1 hr
  obtain ⟨hs', -, hsbound⟩ := mem_boundResources.1 hs
  rw [Resource.name_slot (hid.layers r hr') hrbound, Resource.name_slot (hid.layers s hs') hsbound, hkind] at hname
  by_cases htexture : s.kind = .bindingTexture ∧ stage = .fragment
  · rw [if_pos htexture, if_pos htexture] at hname
    obtain ⟨htexture, rfl⟩ := htexture
    refine List.inj_on_of_nodup_map (hread rfl) ?_ ?_ hname
    · exact List.mem_flatMap.2 ⟨group, hgroup, List.mem_filter.2 ⟨hr, decide_eq_true (hkind.trans htexture)⟩⟩
    · exact List.mem_flatMap.2 ⟨other, hother, List.mem_filter.2 ⟨hs, decide_eq_true htexture⟩⟩
  · rw [if_neg htexture, if_neg htexture] at hname
    exact List.inj_on_of_nodup_map hid.keys hr' hs' (Prod.ext hkind hname)

/-- **Sources whose slots show the same kind and name are the same**, if the read names are distinct. -/
theorem SlotSource.eq_of_shown (hid : registry.Identified) (hread : ReadApart registry pass stage groups)
    {x y : SlotSource} (hx : x ∈ groups.flatMap (ofGroup registry pass stage))
    (hy : y ∈ groups.flatMap (ofGroup registry pass stage)) (h : (x.slot stage).shown = (y.slot stage).shown) :
    x = y := by
  have hresource : ∀ r, resource r ∈ groups.flatMap (ofGroup registry pass stage) →
      r ∈ groups.flatMap (boundResources registry pass stage) := by
    intro r hr
    obtain ⟨group, hgroup, hr⟩ := List.mem_flatMap.1 hr
    rcases mem_ofGroup hr with ⟨_, -, h⟩ | ⟨-, h⟩ | ⟨s, hs, h⟩
    · simp at h
    · simp at h
    · exact List.mem_flatMap.2 ⟨group, hgroup, SlotSource.resource.inj h ▸ hs⟩
  obtain ⟨hlabel, hname⟩ := Prod.mk.inj h
  cases x with
  | uniforms internal =>
    cases y with
    | uniforms other => exact congrArg uniforms (BlockName.uniforms_inj hname)
    | mesh => simp [slot, BoundResource.label] at hlabel
    | resource s => exact absurd ((s.label_slot stage).symm.trans hlabel.symm) s.kind.slotLabel_ne_block.1
  | mesh =>
    cases y with
    | uniforms other => simp [slot, BoundResource.label] at hlabel
    | mesh => rfl
    | resource s => exact absurd ((s.label_slot stage).symm.trans hlabel.symm) s.kind.slotLabel_ne_block.2
  | resource r =>
    cases y with
    | uniforms other => exact absurd ((r.label_slot stage).symm.trans hlabel) r.kind.slotLabel_ne_block.1
    | mesh => exact absurd ((r.label_slot stage).symm.trans hlabel) r.kind.slotLabel_ne_block.2
    | resource s => exact congrArg resource (Resource.eq_of_shown hid hread (hresource r hx) (hresource s hy) h)

theorem slotResources_eq (registry : Registry) (pass : PassContext) (stage : Stage) (groups : List Nat) :
    slotResources registry pass stage groups =
      (groups.flatMap (SlotSource.ofGroup registry pass stage)).map (SlotSource.slot stage) := by
  rw [List.map_flatMap]
  exact List.flatMap_congr fun group _ =>
    (synthesize_slots registry pass stage group).1.trans (SlotSource.map_slot_ofGroup registry pass stage group).symm

/-- slots of groups with different owners are distinct exactly if the read names are -/
theorem slots_tfae_of_groups (hid : registry.Identified)
    (hgroups : (groups.map fun group => decide (group = internalGroup)).Nodup) :
    [((slotResources registry pass stage groups).map (·.shown)).Nodup,
      (slotResources registry pass stage groups).Nodup, ReadApart registry pass stage groups].TFAE := by
  rw [slotResources_eq]
  have hsources : (groups.flatMap (SlotSource.ofGroup registry pass stage)).Nodup :=
    nodup_groups hgroups (fun _ => SlotSource.nodup_ofGroup hid) fun _ _ => SlotSource.isInternal_of_mem
  tfae_have 1 → 2 := fun h => h.of_map _
  tfae_have 2 → 3 := by
    rintro h rfl
    have htextures : (registry.readTextures pass groups).Nodup :=
      nodup_groups hgroups (fun _ => hid.nodup_boundResources.filter _) fun _ r hr =>
        (mem_boundResources.1 (List.mem_filter.1 hr).1).2.1
    have hsource : ∀ r ∈ registry.readTextures pass groups,
        SlotSource.resource r ∈ groups.flatMap (SlotSource.ofGroup registry pass .fragment) := by
      intro r hr
      obtain ⟨group, hgroup, hr⟩ := List.mem_flatMap.1 hr
      exact List.mem_flatMap.2 ⟨group, hgroup, List.mem_append_right _ (List.mem_map_of_mem (List.mem_filter.1 hr).1)⟩
    have hkind : ∀ r ∈ registry.readTextures pass groups, r.kind = .bindingTexture := by
      intro r hr
      obtain ⟨group, -, hr⟩ := List.mem_flatMap.1 hr
      exact of_decide_eq_true (List.mem_filter.1 hr).2
    refine htextures.map_on fun r hr s hs hname => SlotSource.resource.inj ?_
    refine List.inj_on_of_nodup_map h (hsource r hr) (hsource s hs) ?_
    calc r.slot .fragment = .bindingTextureRead r.readName := Resource.slot_of_texture (hkind r hr)
      _ = .bindingTextureRead s.readName := congrArg _ hname
      _ = s.slot .fragment := (Resource.slot_of_texture (hkind s hs)).symm
  tfae_have 3 → 1 := by
    intro hread
    rw [List.map_map]
    exact hsources.map_on fun x hx y hy h => SlotSource.eq_of_shown hid hread hx hy h
  tfae_finish

end Slots

/-! ## Every history -/

/-- **When no slot is bound twice.** In every registry that declarations have made, pass and stage, the slots of a group
hold different things exactly if they show different kinds and names, and exactly if the fragment stage reads no two
binding textures of the group under one name. The same holds of the slots of all groups of the pass. -/
theorem slots_tfae (history : List Declaration) (pass : PassContext) (stage : Stage) :
    (∀ group, [((slotResources (Registry.run history) pass stage [group]).map (·.shown)).Nodup,
        (slotResources (Registry.run history) pass stage [group]).Nodup,
        ReadApart (Registry.run history) pass stage [group]].TFAE) ∧
      [((slotResources (Registry.run history) pass stage pass.groups).map (·.shown)).Nodup,
        (slotResources (Registry.run history) pass stage pass.groups).Nodup,
        ReadApart (Registry.run history) pass stage pass.groups].TFAE := by
  have hid := Registry.identified_run history
  constructor
  · intro group
    exact slots_tfae_of_groups hid (List.nodup_singleton _)
  · refine slots_tfae_of_groups hid ?_
    unfold PassContext.groups
    split <;> decide

/-- two binding textures with one name for their read sides -/
def twinDecls : List Declaration :=
  [.bindingTexture "left" "trail" .rgba8unorm none none false,
    .bindingTexture "right" "trail" .rgba8unorm none none false]

/-- both are declared, and the fragment stage has two slots for the one name -/
theorem shared_read_name :
    (Registry.run twinDecls).warnings = [] ∧
      (synthesize (Registry.run twinDecls) ⟨0, false⟩ .fragment userGroup).assignments.map (·.resource) =
        [.bindingTextureRead "trail", .bindingTextureRead "trail"] ∧
      ¬ (slotResources (Registry.run twinDecls) ⟨0, false⟩ .fragment [userGroup]).Nodup := by
  decide +kernel

end ShaderInterface
