/-
Which slots a stage has in a group, and in which order.

`specifiedSlots` says it without candidates and without a sort: the uniform block, the mesh block, and then kind by kind
the resources of the group's owner that the stage binds, in order of declaration. `Resource.BoundIn` is the condition
for one resource, `Resource.slot` what its slot holds.

- `candidate_resource`: a resource has a candidate exactly where it is bound, and the candidate holds its slot.
- `mem_boundResources`: so the resources that a stage binds in a group are those of the group's owner that it binds.
- `filterMap_candidates`: the candidates of any list of resources are the slots of the bound ones among them.
- `synthesize_slots`: the slots of a group are the specified ones, numbered from 0 in that order, and the resources among
  them come in the order of a stable sort by kind.
-/
import ShaderInterface.Binding.Synthesis
import ShaderInterface.Proofs.Resource.BindingOrder

namespace ShaderInterface

/-! ## The specification -/

/-- the stage of the pass binds the resource -/
def Resource.BoundIn (r : Resource) (pass : PassContext) (stage : Stage) : Prop :=
  match r.details with
  | .storage _ visibility _ _ => visibility.includes stage
  | .layers _ _ _ visibility => visibility.includes stage
  | .sampler _ visibility => visibility.includes stage
  | .storageTexture _ visibility => visibility.includes stage ∧ stage ≠ .vertex
  | .texture visibility => visibility.includes stage
  | .depthTexture writer visibility => visibility.includes stage ∧ writer ≠ some pass.index
  | .textureArray visibility => visibility.includes stage
  | .externalTexture visibility => visibility.includes stage
  | .bindingTexture _ _ pinned =>
    (stage = .compute ∧ ∀ p ∈ pinned, p.writer = pass.index) ∨
      (stage = .fragment ∧ ∀ p ∈ pinned, p.reader = pass.index)

instance (r : Resource) (pass : PassContext) (stage : Stage) : Decidable (r.BoundIn pass stage) := by
  unfold Resource.BoundIn
  split <;> infer_instance

/-- what the slot of a resource holds in a stage that binds it -/
def Resource.slot (r : Resource) (stage : Stage) : BoundResource :=
  match r.details with
  | .storage _ _ readable _ => .storage r.name readable
  | .layers .. => .layers
  | .sampler type _ => .sampler r.name type
  | .storageTexture format _ => .storageTexture r.name format
  | .texture _ => .texture r.name
  | .depthTexture _ _ => .depthTexture r.name
  | .textureArray _ => .textureArray r.name
  | .externalTexture _ => .externalTexture r.name
  | .bindingTexture readName format _ =>
    if stage = .compute then .bindingTextureWrite r.name format else .bindingTextureRead readName

/-- the slots of the resources of one kind, in order of declaration -/
def kindSlots (registry : Registry) (pass : PassContext) (stage : Stage) (internal : Bool) (kind : ResourceKind) :
    List BoundResource :=
  (registry.resources.filter fun r => r.kind = kind ∧ r.internal = internal ∧ r.BoundIn pass stage).map (·.slot stage)

/-- the slots of a group in a stage of a pass, in order -/
def specifiedSlots (registry : Registry) (pass : PassContext) (stage : Stage) (group : Nat) : List BoundResource :=
  let internal : Bool := group = internalGroup
  (if registry.groupUniforms internal = [] then [] else [.uniforms internal])
    ++ (if group = pass.ownGroup ∧ registry.passUniforms pass.index ≠ [] then [.meshUniforms] else [])
    ++ [.storage, .layers, .sampler, .storageTexture, .texture, .depthTexture, .textureArray, .externalTexture,
      .bindingTexture].flatMap (kindSlots registry pass stage internal)

/-- a slot holds the uniform block of its group, the mesh block, or a resource of the group's owner -/
theorem specifiedSlots_cases {registry : Registry} {pass : PassContext} {stage : Stage} {group : Nat}
    {r : BoundResource} (h : r ∈ specifiedSlots registry pass stage group) :
    (∃ internal, internal = decide (group = internalGroup) ∧ registry.groupUniforms internal ≠ [] ∧
        r = .uniforms internal) ∨
      (group = pass.ownGroup ∧ registry.passUniforms pass.index ≠ [] ∧ r = .meshUniforms) ∨
      ∃ s ∈ registry.resources, s.internal = decide (group = internalGroup) ∧ s.slot stage = r := by
  rw [specifiedSlots, List.mem_append, List.mem_append] at h
  rcases h with (h | h) | h
  · split at h
    · simp at h
    · next hne => exact .inl ⟨_, rfl, hne, List.mem_singleton.1 h⟩
  · split at h
    · next hmesh => exact .inr (.inl ⟨hmesh.1, hmesh.2, List.mem_singleton.1 h⟩)
    · simp at h
  · obtain ⟨kind, -, h⟩ := List.mem_flatMap.1 h
    obtain ⟨s, hs, hslot⟩ := List.mem_map.1 h
    obtain ⟨hmem, howner⟩ := List.mem_filter.1 hs
    exact .inr (.inr ⟨s, hmem, (of_decide_eq_true howner).2.1, hslot⟩)

/-! ## Candidates -/

theorem bindIf_resource (condition : Bool) (candidate : Candidate) :
    (bindIf condition candidate).map (·.resource) = if condition = true then some candidate.resource else none := by
  cases condition <;> rfl

theorem access_isSome {visibility : StageSet} {stage : Stage} :
    (visibility.access? stage).isSome = visibility.includes stage := by
  unfold StageSet.access?
  cases hinc : visibility.includes stage with
  | false => rfl
  | true =>
    cases stage with
    | compute => rfl
    | vertex => rfl
    | fragment => cases visibility.includes .compute || visibility.includes .vertex <;> rfl

theorem buffer_resource (resource : BoundResource) (type : TypeExpr) (visibility : StageSet) (stage : Stage) :
    (buffer? resource type visibility stage).map (·.resource) =
      if visibility.includes stage = true then some resource else none := by
  rw [buffer?, Option.map_map, ← access_isSome]
  cases visibility.access? stage <;> rfl

theorem boundIn_iff {pinned : Option Pinning} {side : Pinning → Nat} {pass : PassContext} :
    boundIn pinned side pass = true ↔ ∀ p ∈ pinned, side p = pass.index := by
  cases pinned with
  | none => simp [boundIn]
  | some p => simp [boundIn]

/-- **A resource has a candidate exactly where it is bound**, and the candidate holds its slot. -/
theorem candidate_resource (r : Resource) (pass : PassContext) (stage : Stage) :
    (r.candidate? pass stage).map (·.resource) = if r.BoundIn pass stage then some (r.slot stage) else none := by
  obtain ⟨name, internal, details⟩ := r
  cases details with
  | storage type visibility readable payload => exact buffer_resource _ _ _ _
  | layers count width height visibility => exact buffer_resource _ _ _ _
  | sampler type visibility => exact bindIf_resource _ _
  | storageTexture format visibility =>
    refine (bindIf_resource _ _).trans (if_congr ?_ rfl rfl)
    simp [Resource.BoundIn, and_comm]
  | texture visibility => exact bindIf_resource _ _
  | depthTexture writer visibility =>
    refine (bindIf_resource _ _).trans (if_congr ?_ rfl rfl)
    simp [Resource.BoundIn]
  | textureArray visibility => exact bindIf_resource _ _
  | externalTexture visibility => exact bindIf_resource _ _
  | bindingTexture readName format pinned =>
    cases stage with
    | compute =>
      refine (bindIf_resource _ _).trans (if_congr ?_ rfl rfl)
      simp [Resource.BoundIn, boundIn_iff]
    | vertex => simp [Resource.candidate?, Resource.BoundIn]
    | fragment =>
      refine (bindIf_resource _ _).trans (if_congr ?_ rfl rfl)
      simp [Resource.BoundIn, boundIn_iff]

theorem resource_of_candidate {r : Resource} {pass : PassContext} {stage : Stage} {c : Candidate}
    (h : r.candidate? pass stage = some c) : c.resource = r.slot stage := by
  have hresource := candidate_resource r pass stage
  rw [h, Option.map_some] at hresource
  split at hresource
  · exact Option.some.inj hresource
  · simp at hresource

theorem filterMap_candidates (resources : List Resource) (pass : PassContext) (stage : Stage) :
    (resources.filterMap (·.candidate? pass stage)).map (·.resource) =
      (resources.filter fun r => r.BoundIn pass stage).map (·.slot stage) := by
  rw [List.map_filterMap]
  induction resources with
  | nil => rfl
  | cons r rest ih =>
    by_cases hb : r.BoundIn pass stage
    · rw [List.filterMap_cons, candidate_resource, if_pos hb, List.filter_cons_of_pos (by simpa using hb),
        List.map_cons, ih]
    · rw [List.filterMap_cons, candidate_resource, if_neg hb, List.filter_cons_of_neg (by simpa using hb), ih]

/-- the candidates of a group for blocks of uniforms, which come first -/
def blockCandidates (registry : Registry) (pass : PassContext) (group : Nat) : List Candidate :=
  (uniformCandidate? registry (group = internalGroup)).toList ++ (meshCandidate? registry pass group).toList

/-- the candidates of those of the resources that are bound in the group -/
def groupCandidates (pass : PassContext) (stage : Stage) (group : Nat) (resources : List Resource) : List Candidate :=
  (resources.filter (·.internal = decide (group = internalGroup))).filterMap (·.candidate? pass stage)

/-- blocks come first, then the resources of the group's owner -/
theorem candidates_eq (registry : Registry) (pass : PassContext) (stage : Stage) (group : Nat) :
    candidates registry pass stage group =
      blockCandidates registry pass group ++ groupCandidates pass stage group registry.inBindingOrder := rfl

theorem mem_of_mem_inBindingOrder {registry : Registry} {s : Resource} (h : s ∈ registry.inBindingOrder) :
    s ∈ registry.resources := by
  obtain ⟨kind, -, hkind⟩ := List.mem_flatMap.1 h
  exact (List.mem_filter.1 hkind).1

/-- the stage of the pass binds the resource in the group -/
def Resource.boundInGroup (r : Resource) (pass : PassContext) (stage : Stage) (group : Nat) : Bool :=
  r.internal = decide (group = internalGroup) && (r.candidate? pass stage).isSome

/-- the resources that a stage binds in a group, in order -/
def boundResources (registry : Registry) (pass : PassContext) (stage : Stage) (group : Nat) : List Resource :=
  registry.inBindingOrder.filter (·.boundInGroup pass stage group)

theorem Resource.boundInGroup_iff {r : Resource} {pass : PassContext} {stage : Stage} {group : Nat} :
    r.boundInGroup pass stage group = true ↔ r.internal = decide (group = internalGroup) ∧ r.BoundIn pass stage := by
  have hcandidate : (r.candidate? pass stage).isSome = true ↔ r.BoundIn pass stage := by
    rw [← Option.isSome_map (f := (·.resource)), candidate_resource]
    split <;> simp_all
  rw [Resource.boundInGroup, Bool.and_eq_true, decide_eq_true_iff, hcandidate]

theorem mem_boundResources {registry : Registry} {pass : PassContext} {stage : Stage} {group : Nat} {r : Resource} :
    r ∈ boundResources registry pass stage group ↔
      r ∈ registry.resources ∧ r.internal = decide (group = internalGroup) ∧ r.BoundIn pass stage := by
  rw [boundResources, List.mem_filter, Resource.boundInGroup_iff, inBindingOrder_eq_mergeSort, List.mem_mergeSort]

/-- a candidate is that of a block, or of a resource of the group's owner -/
theorem candidates_cases {registry : Registry} {pass : PassContext} {stage : Stage} {group : Nat} {c : Candidate}
    (h : c ∈ candidates registry pass stage group) :
    uniformCandidate? registry (group = internalGroup) = some c ∨ meshCandidate? registry pass group = some c ∨
      ∃ s ∈ registry.resources, s.internal = decide (group = internalGroup) ∧ s.candidate? pass stage = some c := by
  rw [candidates_eq, blockCandidates, List.mem_append, List.mem_append, Option.mem_toList, Option.mem_toList] at h
  rcases h with (huniform | hmesh) | hresource
  · exact .inl huniform
  · exact .inr (.inl hmesh)
  · obtain ⟨s, hs, hcandidate⟩ := List.mem_filterMap.1 hresource
    obtain ⟨hmem, howner⟩ := List.mem_filter.1 hs
    exact .inr (.inr ⟨s, mem_of_mem_inBindingOrder hmem, of_decide_eq_true howner, hcandidate⟩)

/-- the candidates of a group hold the specified slots -/
theorem candidates_resource (registry : Registry) (pass : PassContext) (stage : Stage) (group : Nat) :
    (candidates registry pass stage group).map (·.resource) = specifiedSlots registry pass stage group := by
  unfold candidates specifiedSlots
  rw [List.map_append, List.map_append, filterMap_candidates]
  congr 1
  · congr 1
    · unfold uniformCandidate?
      cases registry.groupUniforms (group = internalGroup) <;> rfl
    · unfold meshCandidate?
      by_cases hg : group = pass.ownGroup
      · cases hm : registry.passUniforms pass.index <;> simp [hg, bindIf]
      · simp [hg, bindIf]
  · -- one filter takes the kind, the owner and the bound resources of the kind's block
    have hblock : ∀ kind, kindSlots registry pass stage (group = internalGroup) kind =
        (((registry.ofKind kind).filter (·.internal = decide (group = internalGroup))).filter
          fun r => r.BoundIn pass stage).map (·.slot stage) := by
      intro kind
      rw [kindSlots, Registry.ofKind, List.filter_filter, List.filter_filter]
      congr 1
      apply List.filter_congr
      intro r _
      rw [Bool.eq_iff_iff]
      simp only [decide_eq_true_eq, Bool.and_eq_true]
      tauto
    rw [Registry.inBindingOrder, List.filter_flatMap, List.filter_flatMap, List.map_flatMap]
    exact List.flatMap_congr fun kind _ => (hblock kind).symm

/-- **Slots of a group.** They are the specified ones, numbered from 0 in that order, each in the stage and group that
were asked for; and the resources are bound in the order of a stable sort by kind. -/
theorem synthesize_slots (registry : Registry) (pass : PassContext) (stage : Stage) (group : Nat) :
    (synthesize registry pass stage group).assignments.map (·.resource) = specifiedSlots registry pass stage group ∧
      ((synthesize registry pass stage group).assignments.map fun a => (a.resource, a.stage, a.group, a.binding)) =
        ((specifiedSlots registry pass stage group).zipIdx.map fun slot => (slot.1, stage, group, slot.2)) ∧
      registry.inBindingOrder = registry.resources.mergeSort (byRank ResourceKind.rank Resource.kind) := by
  refine ⟨?_, ?_, inBindingOrder_eq_mergeSort registry⟩
  · rw [synthesize, ← candidates_resource, List.map_map]
    calc (candidates registry pass stage group).zipIdx.map ((·.resource) ∘ assign stage group)
        = ((candidates registry pass stage group).zipIdx.map Prod.fst).map (·.resource) := by rw [List.map_map]; rfl
      _ = (candidates registry pass stage group).map (·.resource) := by rw [List.zipIdx_map_fst]
  · rw [synthesize, ← candidates_resource, List.zipIdx_map, List.map_map, List.map_map]
    rfl

end ShaderInterface
