/-
What a compiled pipeline consists of.

- `compilePasses_eq_ok`: the passes are compiled one by one, and then the sizes of their storages are merged.
- `compile_passes`: a pass for each pass of the pipeline, compiled under its index.
- `compilePass_eq_ok`: the parts of a compiled pass.
- `source_of_pass`: each compiled pass comes from a pass of the pipeline that has a stage.
- `stage?_of_mem`, `bindings_of_mem`: a pass answers for a stage with what it compiled for that stage.
- `recordSizes`: the sizes of a pass are those of the buffers that its stages bind, and of nothing else.
-/
import Mathlib.Data.List.Forall2
import ShaderInterface.Pipeline.CompiledPipeline
import ShaderInterface.Proofs.Keyed
import ShaderInterface.Proofs.Outcome
import ShaderInterface.Proofs.Table

namespace ShaderInterface

open Outcome

/-! ## Buffer sizes -/

/-- the slot holds a buffer -/
def BoundResource.isBuffer : BoundResource → Bool
  | .uniforms _ | .meshUniforms | .storage _ _ | .layers => true
  | _ => false

/-- the buffers are what has a size -/
theorem isSome_bufferSize {registry : Registry} {layouts : LayoutTable} {r : BoundResource} {size : Option Nat}
    (h : bufferSize registry layouts r = .ok size) : size.isSome = r.isBuffer := by
  have hsome : ∀ {outcome : Except Error Nat}, outcome.map some = .ok size → size.isSome = true := by
    intro outcome h
    obtain ⟨n, -, rfl⟩ := map_eq_ok.1 h
    rfl
  cases r with
  | uniforms internal => exact hsome h
  | meshUniforms => exact hsome h
  | storage name readable => exact hsome h
  | layers => exact hsome h
  | _ => exact (Except.ok.inj h) ▸ rfl

section Sizes

variable {registry : Registry} {layouts : LayoutTable} {bound : List BoundResource}
  {sizes after : Table BoundResource Nat}

/-- the sizes are those of the buffers among the bound resources, and each of them could be computed -/
structure Sized (registry : Registry) (layouts : LayoutTable) (bound : List BoundResource)
    (sizes : Table BoundResource Nat) : Prop where
  computed : ∀ r ∈ bound, ∃ size, bufferSize registry layouts r = .ok size
  get? : ∀ r n, sizes.get? r = some n ↔ r ∈ bound ∧ bufferSize registry layouts r = .ok (some n)

theorem sized_empty (registry : Registry) (layouts : LayoutTable) : Sized registry layouts [] .empty :=
  ⟨by simp, by simp [Table.get?_empty]⟩

theorem recordSize_eq_ok {a : Assignment} :
    recordSize registry layouts sizes a = .ok after ↔
      (sizes.get? a.resource ≠ none ∧ after = sizes) ∨
        (sizes.get? a.resource = none ∧ bufferSize registry layouts a.resource = .ok none ∧ after = sizes) ∨
        (sizes.get? a.resource = none ∧
          ∃ n, bufferSize registry layouts a.resource = .ok (some n) ∧ after = sizes.insert a.resource n) := by
  unfold recordSize
  cases sizes.get? a.resource with
  | some n => simp [eq_comm]
  | none =>
    rw [bind_eq_ok]
    cases bufferSize registry layouts a.resource with
    | error e => simp
    | ok size => cases size <;> simp [eq_comm]

/-- one more slot -/
theorem sized_step (h : Sized registry layouts bound sizes) {a : Assignment}
    (ha : recordSize registry layouts sizes a = .ok after) : Sized registry layouts (bound ++ [a.resource]) after := by
  have hcomputed : ∀ size, bufferSize registry layouts a.resource = .ok size →
      ∀ r ∈ bound ++ [a.resource], ∃ size, bufferSize registry layouts r = .ok size := by
    intro size hsize r hr
    rcases List.mem_append.1 hr with hr | hr
    · exact h.computed r hr
    · exact ⟨size, List.mem_singleton.1 hr ▸ hsize⟩
  rcases recordSize_eq_ok.1 ha with ⟨hknown, rfl⟩ | ⟨hnew, hsize, rfl⟩ | ⟨hnew, n, hsize, rfl⟩
  · obtain ⟨n, hn⟩ := Option.ne_none_iff_exists'.1 hknown
    obtain ⟨hmem, hsize⟩ := (h.get? _ _).1 hn
    have hbound : ∀ r, r ∈ bound ++ [a.resource] ↔ r ∈ bound := by
      intro r
      simp only [List.mem_append, List.mem_singleton, or_iff_left_iff_imp]
      rintro rfl
      exact hmem
    refine ⟨hcomputed _ hsize, ?_⟩
    intro r m
    rw [hbound, h.get?]
  · refine ⟨hcomputed _ hsize, ?_⟩
    intro r m
    rw [h.get?, List.mem_append, List.mem_singleton]
    apply and_congr_left
    intro hm
    have hne : r ≠ a.resource := by
      rintro rfl
      simp [hsize] at hm
    exact (or_iff_left hne).symm
  · refine ⟨hcomputed _ hsize, ?_⟩
    intro r m
    rw [Table.get?_insert, List.mem_append, List.mem_singleton]
    by_cases hr : r = a.resource
    · subst hr
      simp [hsize]
    · simp [hr, h.get?]

/-- a list of slots, after those whose resources are `bound` -/
theorem sized_run {assignments : List Assignment} (hsized : Sized registry layouts bound sizes)
    (h : assignments.foldlM (recordSize registry layouts) sizes = .ok after) :
    Sized registry layouts (bound ++ assignments.map (·.resource)) after := by
  induction assignments generalizing bound sizes with
  | nil =>
    rw [foldlM_nil_eq_ok] at h
    simpa [← h] using hsized
  | cons a rest ih =>
    obtain ⟨next, ha, h⟩ := foldlM_cons_eq_ok.1 h
    have hrest := ih (sized_step hsized ha) h
    rwa [List.append_assoc] at hrest

/-- **The recorded sizes** are exactly those of the buffers that the slots hold. -/
theorem recordSizes {assignments : List Assignment}
    (h : assignments.foldlM (recordSize registry layouts) .empty = .ok after) :
    Sized registry layouts (assignments.map (·.resource)) after :=
  sized_run (sized_empty registry layouts) h

/-- each buffer is recorded once -/
theorem nodup_recordSizes {assignments : List Assignment}
    (h : assignments.foldlM (recordSize registry layouts) .empty = .ok after) :
    (after.entries.map Prod.fst).Nodup := by
  refine foldlM_induct (fun sizes => (sizes.entries.map Prod.fst).Nodup) h List.nodup_nil ?_
  intro sizes a next _ ha hsizes
  rcases recordSize_eq_ok.1 ha with ⟨-, rfl⟩ | ⟨-, -, rfl⟩ | ⟨-, n, -, rfl⟩
  · exact hsizes
  · exact hsizes
  · exact Table.nodup_insert hsizes _ _

end Sizes

/-! ## One pass -/

theorem compilePass_eq_ok {registry : Registry} {source : RenderPass} {index : Nat} {pass : CompiledPass} :
    compilePass registry source index = .ok pass ↔
      ∃ decls layouts sizes, passDecls registry source ⟨index, source.internal⟩ = .ok decls ∧
        LayoutTable.ofDecls registry.integerConstants decls = .ok layouts ∧
        ((source.stages.map (compileStage registry ⟨index, source.internal⟩)).flatMap (·.assignments)).foldlM
          (recordSize registry layouts) .empty = .ok sizes ∧
        pass = ⟨⟨index, source.internal⟩, source.name,
          source.stages.map (compileStage registry ⟨index, source.internal⟩), layouts, sizes⟩ := by
  simp only [compilePass, bind_eq_ok, Except.ok.injEq, eq_comm (a := pass)]
  constructor
  · rintro ⟨decls, hd, layouts, hl, sizes, hs, h⟩
    exact ⟨decls, layouts, sizes, hd, hl, hs, h⟩
  · rintro ⟨decls, layouts, sizes, hd, hl, hs, h⟩
    exact ⟨decls, hd, layouts, hl, sizes, hs, h⟩

theorem RenderPass.stages_nodup (source : RenderPass) : (source.stages.map Prod.fst).Nodup := by
  have hsub : (source.stages.map Prod.fst).Sublist Stage.all := by
    rw [RenderPass.stages, List.map_filterMap]
    have hkeep : ∀ stage, ((source.shader? stage).map (stage, ·)).map Prod.fst =
        Option.guard (fun s => (source.shader? s).isSome) stage := by
      intro stage
      cases hs : source.shader? stage <;> simp [Option.guard, hs]
    simp only [hkeep, List.filterMap_eq_filter]
    exact List.filter_sublist
  exact hsub.nodup (by decide)

/-- the pass is what compiling the source at that index gives; `layouts` and `sizes` are its own -/
structure CompiledPass.Of (registry : Registry) (source : RenderPass) (index : Nat) (pass : CompiledPass) : Prop where
  context : pass.context = ⟨index, source.internal⟩
  stages : pass.stages = source.stages.map (compileStage registry pass.context)
  layouts : ∃ decls, passDecls registry source pass.context = .ok decls ∧
    LayoutTable.ofDecls registry.integerConstants decls = .ok pass.layouts
  sizes : Sized registry pass.layouts ((pass.stages.flatMap (·.assignments)).map (·.resource)) pass.sizes

theorem compilePass_of {registry : Registry} {source : RenderPass} {index : Nat} {pass : CompiledPass}
    (h : compilePass registry source index = .ok pass) : pass.Of registry source index := by
  obtain ⟨decls, layouts, sizes, hdecls, hlayouts, hsizes, rfl⟩ := compilePass_eq_ok.1 h
  exact ⟨rfl, rfl, ⟨decls, hdecls, hlayouts⟩, recordSizes hsizes⟩

theorem nodup_sizes_of_compilePass {registry : Registry} {source : RenderPass} {index : Nat} {pass : CompiledPass}
    (h : compilePass registry source index = .ok pass) : (pass.sizes.entries.map Prod.fst).Nodup := by
  obtain ⟨decls, layouts, sizes, -, -, hsizes, rfl⟩ := compilePass_eq_ok.1 h
  exact nodup_recordSizes hsizes

section Pass

variable {registry : Registry} {source : RenderPass} {index : Nat} {pass : CompiledPass}

theorem CompiledPass.Of.stage_names (h : pass.Of registry source index) :
    pass.stages.map (·.stage) = source.stages.map Prod.fst := by
  rw [h.stages, List.map_map]
  rfl

/-- a pass answers for a stage with what it compiled for that stage -/
theorem CompiledPass.Of.stage?_of_mem (h : pass.Of registry source index) {compiled : CompiledStage}
    (hc : compiled ∈ pass.stages) : pass.stage? compiled.stage = some compiled := by
  have hnodup : (pass.stages.map (·.stage)).Nodup := by
    rw [h.stage_names]
    exact source.stages_nodup
  exact find?_of_nodup_map hnodup hc

/-- the groups of a stage are those of the pass, and each is synthesized -/
theorem CompiledPass.Of.bindings_of_mem (h : pass.Of registry source index) {compiled : CompiledStage}
    (hc : compiled ∈ pass.stages) :
    compiled.bindings = pass.context.groups.map (synthesize registry pass.context compiled.stage) := by
  rw [h.stages] at hc
  obtain ⟨shader, -, rfl⟩ := List.mem_map.1 hc
  rfl

end Pass

theorem PassContext.groups_nodup (pass : PassContext) : pass.groups.Nodup := by
  unfold PassContext.groups
  split <;> decide

theorem group_of_mem_synthesize {registry : Registry} {pass : PassContext} {stage : Stage} {group : Nat}
    {a : Assignment} (ha : a ∈ (synthesize registry pass stage group).assignments) : a.group = group := by
  obtain ⟨numbered, -, rfl⟩ := List.mem_map.1 ha
  rfl

/-- of the slots of several groups, those of one group are the ones synthesized for it -/
theorem filter_group_synthesize (registry : Registry) (pass : PassContext) (stage : Stage) {groups : List Nat}
    (hn : groups.Nodup) {group : Nat} (hg : group ∈ groups) :
    ((groups.map (synthesize registry pass stage)).flatMap (·.assignments)).filter (·.group = group) =
      (synthesize registry pass stage group).assignments := by
  have hself : (synthesize registry pass stage group).assignments.filter (·.group = group) =
      (synthesize registry pass stage group).assignments := by
    apply List.filter_eq_self.2
    intro a ha
    simpa using group_of_mem_synthesize ha
  have hother : ∀ other, other ≠ group →
      (synthesize registry pass stage other).assignments.filter (·.group = group) = [] := by
    intro other hne
    apply List.filter_eq_nil_iff.2
    intro a ha
    rw [group_of_mem_synthesize ha]
    simpa using hne
  rw [List.flatMap_map, List.filter_flatMap]
  induction groups with
  | nil => simp at hg
  | cons g rest ih =>
    obtain ⟨hnot, hn⟩ := List.nodup_cons.1 hn
    rw [List.flatMap_cons]
    by_cases heq : g = group
    · subst heq
      have hrest : rest.flatMap (fun other =>
          (synthesize registry pass stage other).assignments.filter (·.group = g)) = [] := by
        apply List.flatMap_eq_nil_iff.2
        intro other hin
        exact hother other fun h => hnot (h ▸ hin)
      rw [hself, hrest, List.append_nil]
    · rw [hother g heq, List.nil_append]
      exact ih hn ((List.mem_cons.1 hg).resolve_left (Ne.symm heq))

/-! ## Every pass -/

section Passes

variable {registry : Registry} {sources rest : List RenderPass} {source : RenderPass} {index k : Nat}
  {passes : List CompiledPass} {pass : CompiledPass} {sizes after : Table String Nat}

theorem compilePasses_cons_eq_ok :
    compilePasses registry index sizes (source :: rest) = .ok (passes, after) ↔
      ∃ pass merged others, compilePass registry source index = .ok pass ∧
        pass.sizes.entries.foldlM mergeStorageSize sizes = .ok merged ∧
        compilePasses registry (index + 1) merged rest = .ok (others, after) ∧ passes = pass :: others := by
  simp only [compilePasses, bind_eq_ok, Except.ok.injEq, Prod.mk.injEq, Prod.exists, eq_comm (a := passes)]
  constructor
  · rintro ⟨pass, hp, merged, hm, others, last, hrest, rfl, rfl⟩
    exact ⟨pass, merged, others, hp, hm, hrest, rfl⟩
  · rintro ⟨pass, merged, others, hp, hm, hrest, rfl⟩
    exact ⟨pass, hp, merged, hm, others, after, hrest, rfl, rfl⟩

/-- the passes are the sources, compiled under numbers from `index` on -/
def CompiledFrom (registry : Registry) (index : Nat) (sources : List RenderPass) (passes : List CompiledPass) : Prop :=
  List.Forall₂ (fun numbered pass => compilePass registry numbered.1 numbered.2 = .ok pass) (sources.zipIdx index)
    passes

/-- **Passes are compiled one by one**, and then the sizes of all of them are merged. -/
theorem compilePasses_eq_ok :
    compilePasses registry index sizes sources = .ok (passes, after) ↔ CompiledFrom registry index sources passes ∧
      (passes.flatMap (·.sizes.entries)).foldlM mergeStorageSize sizes = .ok after := by
  induction sources generalizing index sizes passes with
  | nil =>
    rw [CompiledFrom, List.zipIdx_nil, List.forall₂_nil_left_iff, compilePasses, Except.ok.injEq, Prod.mk.injEq]
    constructor
    · rintro ⟨rfl, rfl⟩
      exact ⟨rfl, rfl⟩
    · rintro ⟨rfl, h⟩
      exact ⟨rfl, foldlM_nil_eq_ok.1 h⟩
  | cons first rest ih =>
    rw [compilePasses_cons_eq_ok, CompiledFrom, List.zipIdx_cons, List.forall₂_cons_left_iff]
    constructor
    · -- the sizes of a pass are merged before the next one is compiled, which a success does not show
      rintro ⟨pass, merged, others, hpass, hmerged, hrest, rfl⟩
      obtain ⟨hothers, hafter⟩ := ih.1 hrest
      refine ⟨⟨pass, others, hpass, hothers, rfl⟩, ?_⟩
      rw [List.flatMap_cons, List.foldlM_append, bind_eq_ok]
      exact ⟨merged, hmerged, hafter⟩
    · rintro ⟨⟨pass, others, hpass, hothers, rfl⟩, hafter⟩
      rw [List.flatMap_cons, List.foldlM_append, bind_eq_ok] at hafter
      obtain ⟨merged, hmerged, hafter⟩ := hafter
      exact ⟨pass, merged, others, hpass, hmerged, ih.2 ⟨hothers, hafter⟩, rfl⟩

theorem CompiledFrom.getElem? (h : CompiledFrom registry index sources passes) :
    passes.length = sources.length ∧ ∀ k source, sources[k]? = some source →
      ∃ pass, passes[k]? = some pass ∧ compilePass registry source (index + k) = .ok pass := by
  obtain ⟨hlength, heach⟩ := List.forall₂_iff_get.1 h
  rw [List.length_zipIdx] at hlength
  refine ⟨hlength.symm, ?_⟩
  intro k source hk
  obtain ⟨hin, rfl⟩ := List.getElem?_eq_some_iff.1 hk
  have hcompiled := heach k (by rwa [List.length_zipIdx]) (hlength ▸ hin)
  rw [List.get_eq_getElem, List.getElem_zipIdx] at hcompiled
  exact ⟨_, List.getElem?_eq_getElem (hlength ▸ hin), hcompiled⟩

theorem CompiledFrom.source_of_getElem? (h : CompiledFrom registry index sources passes)
    (hk : passes[k]? = some pass) :
    ∃ source, sources[k]? = some source ∧ compilePass registry source (index + k) = .ok pass := by
  obtain ⟨hlength, heach⟩ := h.getElem?
  obtain ⟨hin, -⟩ := List.getElem?_eq_some_iff.1 hk
  rw [hlength] at hin
  obtain ⟨own, hown, hcompiled⟩ := heach k _ (List.getElem?_eq_getElem hin)
  obtain rfl := Option.some.inj (hown.symm.trans hk)
  exact ⟨_, List.getElem?_eq_getElem hin, hcompiled⟩

theorem CompiledFrom.exists_of_mem (h : CompiledFrom registry index sources passes) (hpass : pass ∈ passes) :
    ∃ k source, compilePass registry source k = .ok pass := by
  obtain ⟨k, hk⟩ := List.mem_iff_getElem?.1 hpass
  obtain ⟨source, -, hcompiled⟩ := h.source_of_getElem? hk
  exact ⟨_, source, hcompiled⟩

end Passes

/-- a pipeline is checked, and then its passes are compiled -/
theorem compile_eq_ok {pipeline : Pipeline} {compiled : CompiledPipeline} :
    pipeline.compile = .ok compiled ↔ pipeline.validate = .ok () ∧
      compilePasses pipeline.registry 0 .empty pipeline.passes = .ok (compiled.passes, compiled.storageSizes) := by
  simp only [Pipeline.compile, bind_eq_ok, Prod.exists, Except.ok.injEq]
  constructor
  · rintro ⟨_, hvalid, passes, sizes, hpasses, rfl⟩
    exact ⟨hvalid, hpasses⟩
  · rintro ⟨hvalid, hpasses⟩
    exact ⟨(), hvalid, _, _, hpasses, rfl⟩

/-- each pass is checked, and that binding textures can be written -/
theorem validate_eq_ok {pipeline : Pipeline} : pipeline.validate = .ok () ↔ pipeline.passes.length < Size.limit ∧
    Pipeline.checkPasses 0 pipeline.passes = .ok () ∧ pipeline.checkBindingTextures = .ok () := by
  unfold Pipeline.validate
  by_cases hmany : Size.limit ≤ pipeline.passes.length
  · simp [hmany, Nat.not_lt.2 hmany, bind, Except.bind]
  · -- the check of the passes answers the unit value or an error
    have hunit : (∃ u : Unit, Pipeline.checkPasses 0 pipeline.passes = .ok u) ↔
        Pipeline.checkPasses 0 pipeline.passes = .ok () := ⟨fun ⟨_, h⟩ => h, fun h => ⟨(), h⟩⟩
    simp [hmany, Nat.lt_of_not_le hmany, bind_eq_ok, hunit]

/-- **A pipeline is compiled pass by pass**, each under its index. -/
theorem compile_passes {pipeline : Pipeline} {compiled : CompiledPipeline} (h : pipeline.compile = .ok compiled) :
    compiled.passes.length = pipeline.passes.length ∧ ∀ index source, pipeline.passes[index]? = some source →
      ∃ pass, compiled.pass? index = some pass ∧ pass.Of pipeline.registry source index := by
  obtain ⟨-, hpasses⟩ := compile_eq_ok.1 h
  obtain ⟨hlength, heach⟩ := (compilePasses_eq_ok.1 hpasses).1.getElem?
  refine ⟨hlength, ?_⟩
  intro index source hsource
  obtain ⟨pass, hpass, hcompiled⟩ := heach index source hsource
  rw [Nat.zero_add] at hcompiled
  exact ⟨pass, hpass, compilePass_of hcompiled⟩

/-- and a compiled pass is that of the pass under its index -/
theorem compiled_of_pass {pipeline : Pipeline} {compiled : CompiledPipeline} (h : pipeline.compile = .ok compiled)
    {index : Nat} {pass : CompiledPass} (hpass : compiled.pass? index = some pass) :
    ∃ source, pipeline.passes[index]? = some source ∧ pass.Of pipeline.registry source index := by
  obtain ⟨-, hpasses⟩ := compile_eq_ok.1 h
  obtain ⟨source, hsource, hcompiled⟩ := (compilePasses_eq_ok.1 hpasses).1.source_of_getElem? hpass
  rw [Nat.zero_add] at hcompiled
  exact ⟨source, hsource, compilePass_of hcompiled⟩

theorem CompiledPipeline.getPass_of_pass? {compiled : CompiledPipeline} {index : Nat} {pass : CompiledPass}
    (h : compiled.pass? index = some pass) : compiled.getPass index = .ok pass := by
  rw [getPass, h]

/-! ## Sources of passes -/

/-- a pass without stages is refused -/
theorem RenderPass.stages_of_check {source : RenderPass} {index : Nat} (h : source.check index = .ok ()) :
    source.stages ≠ [] := by
  intro hstages
  rw [RenderPass.stages, List.filterMap_eq_nil_iff] at hstages
  have hnone : ∀ stage, source.shader? stage = none := by
    intro stage
    exact Option.map_eq_none_iff.1 (hstages stage (by cases stage <;> decide))
  have hvertex : source.vertex = none := hnone .vertex
  have hfragment : source.fragment = none := hnone .fragment
  have hcompute : source.compute = none := hnone .compute
  simp [RenderPass.check, hvertex, hfragment, hcompute] at h

theorem stages_of_checkPasses {sources : List RenderPass} {index : Nat}
    (h : Pipeline.checkPasses index sources = .ok ()) : ∀ source ∈ sources, source.stages ≠ [] := by
  induction sources generalizing index with
  | nil => simp
  | cons source rest ih =>
    obtain ⟨_, hcheck, hrest⟩ := bind_eq_ok.1 h
    exact List.forall_mem_cons.2 ⟨RenderPass.stages_of_check hcheck, ih hrest⟩

/-- **A compiled pass has a source** under its index, and the source has a stage. -/
theorem source_of_pass {pipeline : Pipeline} {compiled : CompiledPipeline} (h : pipeline.compile = .ok compiled)
    {index : Nat} {pass : CompiledPass} (hpass : compiled.pass? index = some pass) :
    ∃ source, source.stages ≠ [] ∧ pass.Of pipeline.registry source index := by
  obtain ⟨hvalid, -⟩ := compile_eq_ok.1 h
  obtain ⟨-, hchecked, -⟩ := validate_eq_ok.1 hvalid
  obtain ⟨source, hsource, hof⟩ := compiled_of_pass h hpass
  exact ⟨source, stages_of_checkPasses hchecked source (List.mem_of_getElem? hsource), hof⟩

end ShaderInterface
