/-
Which stage writes a storage.

Access is decided anew for each stage of each pass, and only from the stages that the storage is visible to. One storage
has one visibility, since kind and name identify it, so the decisions agree: among all the stages that have a slot of a
storage, wherever they are, at most one writes it.

- `StageSet.access_eq_some`: a stage has access if it sees the storage, and it writes if it is the writer of the set.
- `CompiledPipeline.HasSlot.declared`: behind a slot of a storage stands the storage that is declared under its key.
- `one_writing_stage`: two slots of a storage in different stages are not both written, and compute comes first.
-/
import ShaderInterface.Proofs.Pipeline.StorageSizes

namespace ShaderInterface

open Outcome

/-! ## Access -/

theorem Access.ne_readWrite {access : Access} : access ≠ .readWrite ↔ access = .read := by
  cases access <;> simp

/-- the stage that writes a storage visible to the set: compute, or fragment where nothing else sees the storage -/
def StageSet.writer? (set : StageSet) : Option Stage :=
  if set.includes .compute then some .compute
  else if set.includes .fragment && !set.includes .vertex then some .fragment
  else none

/-- **The access of a stage**: those that see the storage have it, and to write is for the writer alone. -/
theorem StageSet.access_eq_some {set : StageSet} {stage : Stage} {access : Access} :
    set.access? stage = some access ↔
      set.includes stage = true ∧ (access = .readWrite ↔ set.writer? = some stage) := by
  unfold access? writer?
  cases stage with
  | compute => cases hc : set.includes .compute <;> cases access <;> simp
  | vertex => cases hv : set.includes .vertex <;> cases hc : set.includes .compute <;> cases access <;> simp
  | fragment =>
    cases hf : set.includes .fragment <;> cases hc : set.includes .compute <;>
      cases hv : set.includes .vertex <;> cases access <;> simp

/-- vertex never writes -/
theorem StageSet.writer_ne_vertex (set : StageSet) : set.writer? ≠ some .vertex := by
  unfold writer?
  split
  · simp
  · split <;> simp

/-! ## Slots of storages -/

theorem access_of_buffer {resource : BoundResource} {type : TypeExpr} {visibility : StageSet} {stage : Stage}
    {c : Candidate} (h : buffer? resource type visibility stage = some c) :
    visibility.access? stage = some c.access := by
  obtain ⟨access, haccess, rfl⟩ := Option.map_eq_some_iff.1 h
  exact haccess

/-- the candidate of a storage has the access that its visibility gives the stage -/
theorem Resource.access_of_candidate {r : Resource} {pass : PassContext} {stage : Stage} {c : Candidate}
    (hc : r.candidate? pass stage = some c) {key : ResourceKind × String}
    (hkey : (r.slot stage).storageKey? = some key) :
    ∃ visible, r.details.visibility? = some visible ∧ visible.access? stage = some c.access := by
  obtain ⟨name, internal, details⟩ := r
  cases details with
  | storage type visibility readable payload => exact ⟨visibility, rfl, access_of_buffer hc⟩
  | layers count width height visibility => exact ⟨visibility, rfl, access_of_buffer hc⟩
  | bindingTexture readName format pinned => cases stage <;> simp [Resource.slot, BoundResource.storageKey?] at hkey
  | _ => simp [Resource.slot, BoundResource.storageKey?] at hkey

/-- the candidate that a slot was made of -/
theorem exists_candidate_of_mem {registry : Registry} {context : PassContext} {stage : Stage} {group : Nat}
    {a : Assignment} (ha : a ∈ (synthesize registry context stage group).assignments) :
    ∃ c ∈ candidates registry context stage group, a.resource = c.resource ∧ a.access = c.access := by
  obtain ⟨i, hi⟩ := List.mem_iff_getElem?.1 ha
  obtain ⟨c, hc, rfl⟩ := getElem?_synthesize.1 hi
  exact ⟨c, List.mem_of_getElem? hc, rfl, rfl⟩

/-- behind a candidate for a storage stands a declared storage -/
theorem declared_of_candidates {registry : Registry} (hid : registry.Identified) {context : PassContext}
    {stage : Stage} {group : Nat} {c : Candidate} (hc : c ∈ candidates registry context stage group)
    {key : ResourceKind × String} (hkey : c.resource.storageKey? = some key) :
    ∃ s ∈ registry.resources, s.key = key ∧
      ∃ visible, s.details.visibility? = some visible ∧ visible.access? stage = some c.access := by
  rcases candidates_cases hc with huniform | hmesh | ⟨s, hs, -, hcandidate⟩
  · -- the blocks are no storages
    rw [← (bindIf_eq_some.1 huniform).2] at hkey
    simp [BoundResource.storageKey?] at hkey
  · rw [← (bindIf_eq_some.1 hmesh).2] at hkey
    simp [BoundResource.storageKey?] at hkey
  · rw [resource_of_candidate hcandidate] at hkey
    exact ⟨s, hs, Resource.key_of_slot (hid.layers s hs) hkey, Resource.access_of_candidate hcandidate hkey⟩

namespace CompiledPipeline

/-- some pass has the slot, in some group of that stage -/
def HasSlot (compiled : CompiledPipeline) (stage : Stage) (a : Assignment) : Prop :=
  ∃ pass ∈ compiled.passes, ∃ cs ∈ pass.stages, cs.stage = stage ∧ a ∈ cs.assignments

instance (compiled : CompiledPipeline) (stage : Stage) (a : Assignment) : Decidable (compiled.HasSlot stage a) := by
  unfold HasSlot
  infer_instance

/-- **A slot of a storage** holds the storage declared under its key, with the access that its visibility gives. -/
theorem HasSlot.declared {pipeline : Pipeline} {compiled : CompiledPipeline} (h : pipeline.compile = .ok compiled)
    (hid : pipeline.registry.Identified) {stage : Stage} {a : Assignment} (ha : compiled.HasSlot stage a)
    {key : ResourceKind × String} (hkey : a.resource.storageKey? = some key) :
    ∃ s ∈ pipeline.registry.resources, s.key = key ∧
      ∃ visible, s.details.visibility? = some visible ∧ visible.access? stage = some a.access := by
  obtain ⟨pass, hpass, cs, hcs, rfl, ha⟩ := ha
  obtain ⟨index, hindex⟩ := List.mem_iff_getElem?.1 hpass
  obtain ⟨source, -, hof⟩ := source_of_pass h hindex
  obtain ⟨group, -, ha⟩ := (hof.mem_assignments hcs).1 ha
  obtain ⟨c, hc, hresource, haccess⟩ := exists_candidate_of_mem ha
  rw [hresource] at hkey
  rw [haccess]
  exact declared_of_candidates hid hc hkey

/-- all slots of a storage go by one visibility -/
theorem HasSlot.visible {pipeline : Pipeline} {compiled : CompiledPipeline} (h : pipeline.compile = .ok compiled)
    (hid : pipeline.registry.Identified) {stage other : Stage} {a b : Assignment} (ha : compiled.HasSlot stage a)
    (hb : compiled.HasSlot other b) {key : ResourceKind × String} (hkey : a.resource.storageKey? = some key)
    (hkey' : b.resource.storageKey? = some key) :
    ∃ visible : StageSet, visible.access? stage = some a.access ∧ visible.access? other = some b.access := by
  obtain ⟨s, hs, hskey, visible, hvisible, haccess⟩ := ha.declared h hid hkey
  obtain ⟨t, ht, htkey, visible', hvisible', haccess'⟩ := hb.declared h hid hkey'
  obtain rfl : s = t := List.inj_on_of_nodup_map hid.keys hs ht (hskey.trans htkey.symm)
  obtain rfl : visible = visible' := Option.some.inj (hvisible.symm.trans hvisible')
  exact ⟨visible, haccess, haccess'⟩

end CompiledPipeline

/-! ## The pipeline -/

/-- **One writing stage.** Of two slots of a storage, or of the layer storage, in any passes, stages and groups of a
compiled pipeline: if they are in different stages and one is written, the other is read; in vertex none is written; and
one in compute is written, so that one in another stage is then read. -/
theorem one_writing_stage {history : List Declaration} {passes : List RenderPass} {compiled : CompiledPipeline}
    (h : Pipeline.compile ⟨Registry.run history, passes⟩ = .ok compiled) {stage other : Stage} {a b : Assignment}
    (ha : compiled.HasSlot stage a) (hb : compiled.HasSlot other b) {key : ResourceKind × String}
    (hkey : a.resource.storageKey? = some key) (hkey' : b.resource.storageKey? = some key) :
    (stage ≠ other → a.access = .readWrite → b.access = .read) ∧
      (stage = .vertex → a.access = .read) ∧
      (stage = .compute → a.access = .readWrite ∧ (other ≠ .compute → b.access = .read)) := by
  obtain ⟨visible, haccess, haccess'⟩ := ha.visible h (Registry.identified_run history) hb hkey hkey'
  obtain ⟨hsees, hwrites⟩ := StageSet.access_eq_some.1 haccess
  obtain ⟨-, hwrites'⟩ := StageSet.access_eq_some.1 haccess'
  have hexclusive : stage ≠ other → a.access = .readWrite → b.access = .read := by
    intro hne hwrite
    rw [← Access.ne_readWrite]
    intro hwrite'
    exact hne (Option.some.inj ((hwrites.1 hwrite).symm.trans (hwrites'.1 hwrite')))
  refine ⟨hexclusive, ?_, ?_⟩
  · rintro rfl
    rw [← Access.ne_readWrite]
    exact fun hwrite => visible.writer_ne_vertex (hwrites.1 hwrite)
  · rintro rfl
    have hwrite : a.access = .readWrite := hwrites.2 (by rw [StageSet.writer?, if_pos hsees])
    exact ⟨hwrite, fun hne => hexclusive (Ne.symm hne) hwrite⟩

/-- cells that one pass computes and another shows -/
def cellDecls : List Declaration := [.storage "cells" "array<u32, 4>" false none {}]

def cellPasses : List RenderPass :=
  [⟨"grow", false, some ⟨"grow.wgsl", ""⟩, none, none⟩,
    ⟨"show", true, none, some ⟨"show.vert", ""⟩, some ⟨"show.frag", ""⟩⟩]

theorem cells_one_writing_stage :
    ∃ compiled, Pipeline.compile ⟨Registry.run cellDecls, cellPasses⟩ = .ok compiled ∧
      ∃ a b, compiled.HasSlot .compute a ∧ compiled.HasSlot .fragment b ∧
        a.resource.storageKey? = some (.storage, "cells") ∧ b.resource.storageKey? = some (.storage, "cells") ∧
        a.access = .readWrite ∧ b.access = .read := by
  obtain ⟨compiled, h, hslots⟩ := exists_of_any (p := fun compiled : CompiledPipeline =>
    compiled.HasSlot .compute ⟨.storage "cells" false, .compute, 0, 0, .readWrite⟩ ∧
      compiled.HasSlot .fragment ⟨.storage "cells" false, .fragment, 0, 0, .read⟩)
    (x := Pipeline.compile ⟨Registry.run cellDecls, cellPasses⟩) (by decide +kernel)
  obtain ⟨ha, hb⟩ := hslots
  obtain ⟨hexclusive, -, hcompute⟩ := one_writing_stage h ha hb rfl rfl
  obtain ⟨hwrite, -⟩ := hcompute rfl
  exact ⟨compiled, h, _, _, ha, hb, rfl, rfl, hwrite, hexclusive (by decide) hwrite⟩

end ShaderInterface
