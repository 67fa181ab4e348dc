/-
The table of storage sizes.

Passes share the storages and the layer storage. Each pass records the sizes of the buffers that it binds, and the sizes
of storages are merged by name: the first is kept, and a later one has to be equal to it. So the merge succeeds exactly
when all sizes of one name are equal, in whatever order they come, and its table then lists what has been recorded.

- `tabulates_merge`: the table that a merge answers with; `merge_iff_agree`: when it answers.
- `binds_cases`: what a pass binds is a uniform block, or a declared resource.
- `storage_table`: when a pipeline compiles, and what its table of storage sizes then says.
-/
import ShaderInterface.Proofs.Pipeline.BlockLayouts

namespace ShaderInterface

open Outcome

/-! ## Merging sizes -/

/-- a storage of that name is recorded with that size -/
def Records (recorded : List (BoundResource × Nat)) (name : String) (size : Nat) : Prop :=
  ∃ r, (r, size) ∈ recorded ∧ r.isStorage = true ∧ r.name = name

/-- the sizes that are recorded under one name are equal -/
def Agree (recorded : List (BoundResource × Nat)) : Prop :=
  ∀ name n m, Records recorded name n → Records recorded name m → n = m

/-- the table lists exactly the recorded storages -/
def Tabulates (recorded : List (BoundResource × Nat)) (sizes : Table String Nat) : Prop :=
  ∀ name n, sizes.get? name = some n ↔ Records recorded name n

section Merge

variable {recorded rest : List (BoundResource × Nat)} {entry : BoundResource × Nat} {sizes after : Table String Nat}

theorem records_snoc {name : String} {n : Nat} : Records (recorded ++ [entry]) name n ↔
    Records recorded name n ∨ (entry.1.isStorage = true ∧ entry.1.name = name ∧ entry.2 = n) := by
  simp only [Records, List.mem_append, List.mem_singleton, or_and_right, exists_or]
  apply or_congr_right
  constructor
  · rintro ⟨r, rfl, hstorage, hname⟩
    exact ⟨hstorage, hname, rfl⟩
  · rintro ⟨hstorage, hname, rfl⟩
    exact ⟨entry.1, rfl, hstorage, hname⟩

theorem Tabulates.agree (h : Tabulates recorded sizes) : Agree recorded := by
  intro name n m hn hm
  exact Option.some.inj (((h name n).2 hn).symm.trans ((h name m).2 hm))

theorem Agree.of_append (h : Agree (recorded ++ rest)) : Agree recorded := by
  have hleft : ∀ {name n}, Records recorded name n → Records (recorded ++ rest) name n := by
    rintro name n ⟨r, hr, hstorage⟩
    exact ⟨r, List.mem_append_left _ hr, hstorage⟩
  exact fun name n m hn hm => h name n m (hleft hn) (hleft hm)

theorem mergeStorageSize_eq_ok : mergeStorageSize sizes entry = .ok after ↔
    (entry.1.isStorage = false ∧ after = sizes) ∨
      (entry.1.isStorage = true ∧ sizes.get? entry.1.name = some entry.2 ∧ after = sizes) ∨
      (entry.1.isStorage = true ∧ sizes.get? entry.1.name = none ∧ after = sizes.insert entry.1.name entry.2) := by
  unfold mergeStorageSize
  cases hstorage : entry.1.isStorage with
  | false => simp [eq_comm]
  | true =>
    cases hfirst : sizes.get? entry.1.name with
    | none => simp [eq_comm]
    | some first =>
      by_cases heq : first = entry.2
      · simp [heq, eq_comm]
      · simp [heq]

/-- one more size -/
theorem tabulates_step (h : Tabulates recorded sizes) (he : mergeStorageSize sizes entry = .ok after) :
    Tabulates (recorded ++ [entry]) after := by
  intro name n
  rw [records_snoc]
  -- the entry is no storage, repeats the size that its name has, or is the first of its name
  rcases mergeStorageSize_eq_ok.1 he with ⟨hother, rfl⟩ | ⟨hstorage, hknown, rfl⟩ | ⟨hstorage, hnew, rfl⟩
  · rw [h, hother]
    simp
  · rw [h]
    constructor
    · exact .inl
    · rintro (hr | ⟨-, rfl, rfl⟩)
      · exact hr
      · exact (h _ _).1 hknown
  · rw [Table.get?_insert]
    by_cases hname : name = entry.1.name
    · subst hname
      have hnone : ¬ Records recorded entry.1.name n := by
        rw [← h, hnew]
        simp
      simp [hnone, hstorage]
    · rw [if_neg hname, h]
      simp [Ne.symm hname]

/-- one more size can be merged, if it agrees with those before -/
theorem merges_step (h : Tabulates recorded sizes) (hagree : Agree (recorded ++ [entry])) :
    ∃ after, mergeStorageSize sizes entry = .ok after := by
  simp only [mergeStorageSize_eq_ok]
  cases hstorage : entry.1.isStorage with
  | false => exact ⟨sizes, .inl ⟨rfl, rfl⟩⟩
  | true =>
    cases hfirst : sizes.get? entry.1.name with
    | none => exact ⟨_, .inr (.inr ⟨rfl, rfl, rfl⟩)⟩
    | some first =>
      have hold : Records (recorded ++ [entry]) entry.1.name first := records_snoc.2 (.inl ((h _ _).1 hfirst))
      have hnew : Records (recorded ++ [entry]) entry.1.name entry.2 := records_snoc.2 (.inr ⟨hstorage, rfl, rfl⟩)
      exact ⟨sizes, .inr (.inl ⟨rfl, congrArg some (hagree _ _ _ hold hnew), rfl⟩)⟩

theorem tabulates_run (h : Tabulates recorded sizes) (hrest : rest.foldlM mergeStorageSize sizes = .ok after) :
    Tabulates (recorded ++ rest) after := by
  induction rest generalizing recorded sizes with
  | nil =>
    rw [foldlM_nil_eq_ok] at hrest
    rwa [List.append_nil, ← hrest]
  | cons entry rest ih =>
    obtain ⟨next, hnext, hrest⟩ := foldlM_cons_eq_ok.1 hrest
    rw [List.append_cons]
    exact ih (tabulates_step h hnext) hrest

theorem merges_run (h : Tabulates recorded sizes) (hagree : Agree (recorded ++ rest)) :
    ∃ after, rest.foldlM mergeStorageSize sizes = .ok after := by
  induction rest generalizing recorded sizes with
  | nil => exact ⟨sizes, foldlM_nil_eq_ok.2 rfl⟩
  | cons entry rest ih =>
    rw [List.append_cons] at hagree
    obtain ⟨next, hnext⟩ := merges_step h hagree.of_append
    obtain ⟨after, hafter⟩ := ih (tabulates_step h hnext) hagree
    exact ⟨after, foldlM_cons_eq_ok.2 ⟨next, hnext, hafter⟩⟩

theorem tabulates_empty : Tabulates [] .empty := by
  intro name n
  simp [Table.get?_empty, Records]

/-- **The merged table** lists what has been recorded. -/
theorem tabulates_merge (h : recorded.foldlM mergeStorageSize .empty = .ok sizes) : Tabulates recorded sizes :=
  tabulates_run tabulates_empty h

/-- **A merge succeeds** exactly if the sizes of one name are equal. -/
theorem merge_iff_agree : (∃ sizes, recorded.foldlM mergeStorageSize .empty = .ok sizes) ↔ Agree recorded :=
  ⟨fun ⟨_, h⟩ => (tabulates_merge h).agree, fun h => merges_run tabulates_empty h⟩

theorem records_perm {others : List (BoundResource × Nat)} (h : recorded.Perm others) {name : String} {n : Nat} :
    Records recorded name n ↔ Records others name n :=
  exists_congr fun _ => and_congr_left fun _ => h.mem_iff

/-- **The order does not matter**: sizes that can be merged can be merged in any order, and the tables answer alike. -/
theorem merge_perm {others : List (BoundResource × Nat)} (hperm : others.Perm recorded)
    (h : recorded.foldlM mergeStorageSize .empty = .ok sizes) :
    ∃ sizes', others.foldlM mergeStorageSize .empty = .ok sizes' ∧ ∀ name, sizes'.get? name = sizes.get? name := by
  have hsizes := tabulates_merge h
  -- whether sizes agree is a matter of membership, and so is what the table lists
  have hagree : Agree others := by
    intro name n m hn hm
    exact hsizes.agree name n m ((records_perm hperm).1 hn) ((records_perm hperm).1 hm)
  obtain ⟨sizes', h'⟩ := merge_iff_agree.2 hagree
  refine ⟨sizes', h', fun name => Option.ext fun n => ?_⟩
  rw [tabulates_merge h' name n, hsizes name n, records_perm hperm]

end Merge

/-! ## The buffers of a pass -/

theorem BoundResource.isBuffer_of_isStorage {r : BoundResource} (h : r.isStorage = true) : r.isBuffer = true := by
  cases r with
  | storage => rfl
  | layers => rfl
  | _ => exact absurd h nofun

theorem storageSize_eq_ok {layouts : LayoutTable} {type : TypeExpr} {payload : Option Bytes} {n : Nat} :
    storageSize layouts type payload = .ok n ↔ ∃ extent, layouts.describe type = .ok extent ∧
      (payload.getD []).length < Size.limit ∧ n = max extent.size (payload.getD []).length := by
  unfold storageSize
  rw [bind_eq_ok]
  apply exists_congr
  intro extent
  apply and_congr_right
  intro _
  cases hfits : Size.fits? (payload.getD []).length with
  | none =>
    have hlarge : ¬ (payload.getD []).length < Size.limit := by
      intro hlt
      rw [Size.fits?_eq_some.2 ⟨hlt, rfl⟩] at hfits
      simp at hfits
    simp [hlarge]
  | some length =>
    obtain ⟨hlt, rfl⟩ := Size.fits?_eq_some.1 hfits
    simp [hlt, eq_comm]

theorem Resource.eq_of_slot_storage {s : Resource} {stage : Stage} {name : String} {readable : Bool}
    (h : s.slot stage = .storage name readable) :
    ∃ internal type visibility payload, s = ⟨name, internal, .storage type visibility readable payload⟩ := by
  obtain ⟨own, internal, details⟩ := s
  cases details with
  | storage type visibility _ payload =>
    obtain ⟨rfl, rfl⟩ := BoundResource.storage.inj h
    exact ⟨_, _, _, _, rfl⟩
  | bindingTexture readName format pinned => cases stage <;> simp [Resource.slot] at h
  | _ => simp [Resource.slot] at h

theorem Resource.eq_of_slot_layers {s : Resource} {stage : Stage} (h : s.slot stage = .layers) :
    ∃ name internal count width height visibility, s = ⟨name, internal, .layers count width height visibility⟩ := by
  obtain ⟨own, internal, details⟩ := s
  cases details with
  | layers => exact ⟨_, _, _, _, _, _, rfl⟩
  | bindingTexture readName format pinned => cases stage <;> simp [Resource.slot] at h
  | _ => simp [Resource.slot] at h

/-- kind and name of the storage that a slot holds, if it holds one -/
def BoundResource.storageKey? : BoundResource → Option (ResourceKind × String)
  | .storage name _ => some (.storage, name)
  | .layers => some (.layers, layersName)
  | _ => none

/-- the storage that a slot holds has the kind and name that the slot shows -/
theorem Resource.key_of_slot {s : Resource} (hlayers : s.kind = .layers → s.name = layersName) {stage : Stage}
    {key : ResourceKind × String} (h : (s.slot stage).storageKey? = some key) : s.key = key := by
  obtain ⟨name, internal, details⟩ := s
  cases details with
  | storage type visibility readable payload => exact Option.some.inj h
  | layers count width height visibility =>
    obtain rfl : name = layersName := hlayers rfl
    exact Option.some.inj h
  | bindingTexture readName format pinned => cases stage <;> simp [Resource.slot, BoundResource.storageKey?] at h
  | _ => simp [Resource.slot, BoundResource.storageKey?] at h

section Lookup

variable {registry : Registry} {layouts : LayoutTable} {r : BoundResource} {key : ResourceKind × String}

theorem bufferSize_of_storage (h : r.storageKey? = some key) :
    bufferSize registry layouts r = (declaredSize registry layouts key.1 key.2).map some := by
  cases r with
  | storage name readable => exact Option.some.inj h ▸ rfl
  | layers => exact Option.some.inj h ▸ rfl
  | _ => simp [BoundResource.storageKey?] at h

/-- only for storages does a size depend on the registry -/
theorem bufferSize_of_other (other : Registry) (h : r.storageKey? = none) :
    bufferSize other layouts r = bufferSize registry layouts r := by
  cases r with
  | storage name readable => simp [BoundResource.storageKey?] at h
  | layers => simp [BoundResource.storageKey?] at h
  | _ => rfl

end Lookup

namespace CompiledPass.Of

variable {registry : Registry} {source : RenderPass} {index : Nat} {pass : CompiledPass} {r : BoundResource}

/-- **What a pass binds** is a uniform block, or a declared resource. -/
theorem binds_cases (h : pass.Of registry source index) (hbinds : pass.Binds r) :
    (∃ internal, r = .uniforms internal) ∨ r = .meshUniforms ∨ ∃ s ∈ registry.resources, ∃ stage, s.slot stage = r := by
  obtain ⟨a, ha, hresource⟩ := List.mem_map.1 hbinds
  obtain ⟨cs, hcs, ha⟩ := List.mem_flatMap.1 ha
  obtain ⟨group, -, ha⟩ := (h.mem_assignments hcs).1 ha
  have hslot : r ∈ specifiedSlots registry pass.context cs.stage group :=
    mem_synthesize_resource.1 (List.mem_map.2 ⟨a, ha, hresource⟩)
  obtain ⟨internal, -, -, hblock⟩ | ⟨-, -, hmesh⟩ | ⟨s, hs, -, hslot⟩ := specifiedSlots_cases hslot
  · exact .inl ⟨internal, hblock⟩
  · exact .inr (.inl hmesh)
  · exact .inr (.inr ⟨s, hs, _, hslot⟩)

/-- a pass records the sizes of the buffers that it binds, and no others -/
theorem bufferSize?_eq_some (h : pass.Of registry source index) {n : Nat} :
    pass.bufferSize? r = some n ↔ pass.Binds r ∧ bufferSize registry pass.layouts r = .ok (some n) :=
  h.sizes.get? r n

theorem isSome_bufferSize? (h : pass.Of registry source index) :
    (pass.bufferSize? r).isSome = true ↔ pass.Binds r ∧ r.isBuffer = true := by
  rw [Option.isSome_iff_exists]
  constructor
  · rintro ⟨n, hn⟩
    obtain ⟨hbinds, hsize⟩ := h.bufferSize?_eq_some.1 hn
    exact ⟨hbinds, (isSome_bufferSize hsize).symm⟩
  · rintro ⟨hbinds, hbuffer⟩
    obtain ⟨size, hsize⟩ := h.sizes.computed r hbinds
    rw [← isSome_bufferSize hsize] at hbuffer
    obtain ⟨n, rfl⟩ := Option.isSome_iff_exists.1 hbuffer
    exact ⟨n, h.bufferSize?_eq_some.2 ⟨hbinds, hsize⟩⟩

/-- **The size of a storage** in a pass is that of its type or its contents, whichever is larger. -/
theorem recorded_storage (h : pass.Of registry source index) (hid : registry.Identified) {name : String}
    {readable : Bool} (hbinds : pass.Binds (.storage name readable)) :
    ∃ internal type visibility payload extent,
      ⟨name, internal, .storage type visibility readable payload⟩ ∈ registry.resources ∧
        pass.layouts.describe type = .ok extent ∧
        pass.bufferSize? (.storage name readable) = some (max extent.size (payload.getD []).length) := by
  obtain ⟨internal, hblock⟩ | hmesh | ⟨s, hs, stage, hslot⟩ := h.binds_cases hbinds
  · simp at hblock
  · simp at hmesh
  · obtain ⟨internal, type, visibility, payload, rfl⟩ := Resource.eq_of_slot_storage hslot
    have hfind : registry.find? .storage name = _ := hid.find?_of_mem hs
    have hbuffer : bufferSize registry pass.layouts (.storage name readable) =
        (storageSize pass.layouts type payload).map some := by
      rw [bufferSize, declaredSize, hfind]
      rfl
    obtain ⟨n, hn, hrecorded⟩ := h.recorded_of_binds hbinds hbuffer
    obtain ⟨extent, hextent, -, rfl⟩ := storageSize_eq_ok.1 hn
    exact ⟨internal, type, visibility, payload, extent, hs, hextent, hrecorded⟩

/-- the size of the layer storage in a pass is that of its type -/
theorem recorded_layers (h : pass.Of registry source index) (hid : registry.Identified)
    (hbinds : pass.Binds .layers) :
    ∃ internal count width height visibility extent,
      ⟨layersName, internal, .layers count width height visibility⟩ ∈ registry.resources ∧
        pass.layouts.describe (layersType count width height) = .ok extent ∧
        pass.bufferSize? .layers = some extent.size := by
  obtain ⟨internal, hblock⟩ | hmesh | ⟨s, hs, stage, hslot⟩ := h.binds_cases hbinds
  · simp at hblock
  · simp at hmesh
  · obtain ⟨name, internal, count, width, height, visibility, rfl⟩ := Resource.eq_of_slot_layers hslot
    obtain rfl : name = layersName := hid.layers _ hs rfl
    have hfind : registry.find? .layers layersName = _ := hid.find?_of_mem hs
    have hbuffer : bufferSize registry pass.layouts .layers =
        (storageSize pass.layouts (layersType count width height) none).map some := by
      rw [bufferSize, declaredSize, hfind]
      rfl
    obtain ⟨n, hn, hrecorded⟩ := h.recorded_of_binds hbinds hbuffer
    obtain ⟨extent, hextent, -, rfl⟩ := storageSize_eq_ok.1 hn
    exact ⟨internal, count, width, height, visibility, extent, hs, hextent, by simpa using hrecorded⟩

end CompiledPass.Of

/-! ## The pipeline -/

/-- no two passes record different sizes for a storage of one name, and no pass does -/
def SizesAgree (passes : List CompiledPass) : Prop :=
  ∀ pass ∈ passes, ∀ other ∈ passes, ∀ r r' : BoundResource, r.isStorage = true → r'.isStorage = true →
    r.name = r'.name → ∀ n m, pass.bufferSize? r = some n → other.bufferSize? r' = some m → n = m

/-- the storage sizes of a pipeline are what its passes record, and that is what they bind -/
structure StorageTable (registry : Registry) (compiled : CompiledPipeline) : Prop where
  /-- a bound storage has the size that the pass records -/
  bound : ∀ pass ∈ compiled.passes, ∀ r, pass.Binds r → r.isStorage = true →
    ∃ n, pass.bufferSize? r = some n ∧ compiled.storageSize? r.name = some n
  storage : ∀ pass ∈ compiled.passes, ∀ name readable, pass.Binds (.storage name readable) →
    ∃ internal type visibility payload extent,
      ⟨name, internal, .storage type visibility readable payload⟩ ∈ registry.resources ∧
        pass.layouts.describe type = .ok extent ∧
        pass.bufferSize? (.storage name readable) = some (max extent.size (payload.getD []).length)
  layers : ∀ pass ∈ compiled.passes, pass.Binds .layers → ∃ internal count width height visibility extent,
    ⟨layersName, internal, .layers count width height visibility⟩ ∈ registry.resources ∧
      pass.layouts.describe (layersType count width height) = .ok extent ∧
      pass.bufferSize? .layers = some extent.size
  /-- every size of the table is that of a bound storage -/
  listed : ∀ name n, compiled.storageSize? name = some n → ∃ pass ∈ compiled.passes, ∃ r,
    pass.Binds r ∧ r.isStorage = true ∧ r.name = name ∧ pass.bufferSize? r = some n
  buffers : ∀ pass ∈ compiled.passes, ∀ r,
    (pass.bufferSize? r).isSome = true ↔ pass.Binds r ∧ r.isBuffer = true
  /-- the sizes merge to the same table in any order of the passes and of the buffers of a pass -/
  anyOrder : ∀ recorded : List (BoundResource × Nat), recorded.Perm (compiled.passes.flatMap (·.sizes.entries)) →
    ∃ sizes, recorded.foldlM mergeStorageSize .empty = .ok sizes ∧
      ∀ name, sizes.get? name = compiled.storageSize? name

section Pipeline

variable {registry : Registry} {index : Nat} {sources : List RenderPass} {passes : List CompiledPass}

/-- what is recorded is what the passes answer with -/
theorem CompiledFrom.records_iff (h : CompiledFrom registry index sources passes) {name : String} {n : Nat} :
    Records (passes.flatMap (·.sizes.entries)) name n ↔
      ∃ pass ∈ passes, ∃ r, pass.bufferSize? r = some n ∧ r.isStorage = true ∧ r.name = name := by
  have hentries : ∀ pass ∈ passes, ∀ r, (r, n) ∈ pass.sizes.entries ↔ pass.bufferSize? r = some n := by
    intro pass hpass r
    obtain ⟨k, source, hcompiled⟩ := h.exists_of_mem hpass
    exact (Table.get?_eq_some_iff (nodup_sizes_of_compilePass hcompiled)).symm
  constructor
  · rintro ⟨r, hr, hstorage⟩
    obtain ⟨pass, hpass, hr⟩ := List.mem_flatMap.1 hr
    exact ⟨pass, hpass, r, (hentries pass hpass r).1 hr, hstorage⟩
  · rintro ⟨pass, hpass, r, hr, hstorage⟩
    exact ⟨r, List.mem_flatMap.2 ⟨pass, hpass, (hentries pass hpass r).2 hr⟩, hstorage⟩

theorem CompiledFrom.agree_iff (h : CompiledFrom registry index sources passes) :
    Agree (passes.flatMap (·.sizes.entries)) ↔ SizesAgree passes := by
  constructor
  · intro hagree pass hpass other hother r r' hr hr' hname n m hn hm
    exact hagree r.name n m (h.records_iff.2 ⟨pass, hpass, r, hn, hr, rfl⟩)
      (h.records_iff.2 ⟨other, hother, r', hm, hr', hname.symm⟩)
  · intro hagree name n m hn hm
    obtain ⟨pass, hpass, r, hsize, hr, rfl⟩ := h.records_iff.1 hn
    obtain ⟨other, hother, r', hsize', hr', hname⟩ := h.records_iff.1 hm
    exact hagree pass hpass other hother r r' hr hr' hname.symm n m hsize hsize'

/-- a pipeline that may be compiled compiles, if each of its passes does and the storages have one size each -/
theorem compile_iff_agree {pipeline : Pipeline} :
    (∃ sizes, pipeline.compile = .ok ⟨passes, sizes⟩) ↔ pipeline.validate = .ok () ∧
      CompiledFrom pipeline.registry 0 pipeline.passes passes ∧ SizesAgree passes := by
  simp only [compile_eq_ok, compilePasses_eq_ok, exists_and_left]
  apply and_congr_right
  intro _
  apply and_congr_right
  intro hfrom
  rw [merge_iff_agree, hfrom.agree_iff]

/-- the table of a compiled pipeline -/
theorem storageTable_of_compile {pipeline : Pipeline} {compiled : CompiledPipeline}
    (hid : pipeline.registry.Identified) (h : pipeline.compile = .ok compiled) :
    StorageTable pipeline.registry compiled := by
  obtain ⟨-, hpasses⟩ := compile_eq_ok.1 h
  obtain ⟨hfrom, hmerged⟩ := compilePasses_eq_ok.1 hpasses
  have hof : ∀ pass ∈ compiled.passes, ∃ index source, pass.Of pipeline.registry source index := by
    intro pass hpass
    obtain ⟨index, source, hcompiled⟩ := hfrom.exists_of_mem hpass
    exact ⟨index, source, compilePass_of hcompiled⟩
  have htable : ∀ name n, compiled.storageSize? name = some n ↔
      ∃ pass ∈ compiled.passes, ∃ r, pass.bufferSize? r = some n ∧ r.isStorage = true ∧ r.name = name := by
    intro name n
    rw [← hfrom.records_iff]
    exact tabulates_merge hmerged name n
  refine
    { bound := ?_, storage := ?_, layers := ?_, listed := ?_, buffers := ?_,
      anyOrder := fun recorded hperm => merge_perm hperm hmerged }
  · intro pass hpass r hbinds hstorage
    obtain ⟨index, source, hpassOf⟩ := hof pass hpass
    have hbuffer := BoundResource.isBuffer_of_isStorage hstorage
    obtain ⟨n, hn⟩ := Option.isSome_iff_exists.1 (hpassOf.isSome_bufferSize?.2 ⟨hbinds, hbuffer⟩)
    exact ⟨n, hn, (htable _ n).2 ⟨pass, hpass, r, hn, hstorage, rfl⟩⟩
  · intro pass hpass name readable hbinds
    obtain ⟨index, source, hpassOf⟩ := hof pass hpass
    exact hpassOf.recorded_storage hid hbinds
  · intro pass hpass hbinds
    obtain ⟨index, source, hpassOf⟩ := hof pass hpass
    exact hpassOf.recorded_layers hid hbinds
  · intro name n hn
    obtain ⟨pass, hpass, r, hr, hstorage, hname⟩ := (htable name n).1 hn
    obtain ⟨index, source, hpassOf⟩ := hof pass hpass
    exact ⟨pass, hpass, r, (hpassOf.bufferSize?_eq_some.1 hr).1, hstorage, hname, hr⟩
  · intro pass hpass r
    obtain ⟨index, source, hpassOf⟩ := hof pass hpass
    exact hpassOf.isSome_bufferSize?

end Pipeline

/-- **The table of storage sizes.** A pipeline compiles exactly if it may be compiled, each of its passes compiles, and
the sizes that these record under one name are equal; and then its table says what the passes have recorded. -/
theorem storage_table (history : List Declaration) (sources : List RenderPass) :
    (∀ passes, (∃ sizes, Pipeline.compile ⟨Registry.run history, sources⟩ = .ok ⟨passes, sizes⟩) ↔
        Pipeline.validate ⟨Registry.run history, sources⟩ = .ok () ∧
          CompiledFrom (Registry.run history) 0 sources passes ∧ SizesAgree passes) ∧
      ∀ compiled, Pipeline.compile ⟨Registry.run history, sources⟩ = .ok compiled →
        StorageTable (Registry.run history) compiled :=
  ⟨fun _ => compile_iff_agree, fun _ h => storageTable_of_compile (Registry.identified_run history) h⟩

/-- a storage with more contents than its type needs, and a layer storage, for two passes -/
def gridDecls : List Declaration :=
  [.storage "cells" "array<vec4f, 2>" false (some (List.replicate 40 0)) {}, .layers 2 1 1 {}]

def gridPasses : List RenderPass :=
  [⟨"grow", false, some ⟨"grow.wgsl", ""⟩, none, none⟩,
    ⟨"show", false, none, some ⟨"show.vert", ""⟩, some ⟨"show.frag", ""⟩⟩]

theorem grid_storage_table :
    ∃ compiled, Pipeline.compile ⟨Registry.run gridDecls, gridPasses⟩ = .ok compiled ∧
      StorageTable (Registry.run gridDecls) compiled ∧ compiled.storageSize? "cells" = some 40 ∧
      compiled.storageSize? layersName = some 32 := by
  obtain ⟨compiled, h, hcells, hlayers⟩ := exists_of_any (p := fun compiled : CompiledPipeline =>
    compiled.storageSize? "cells" = some 40 ∧ compiled.storageSize? layersName = some 32)
    (x := Pipeline.compile ⟨Registry.run gridDecls, gridPasses⟩) (by decide +kernel)
  exact ⟨compiled, h, (storage_table gridDecls gridPasses).2 compiled h, hcells, hlayers⟩

end ShaderInterface
