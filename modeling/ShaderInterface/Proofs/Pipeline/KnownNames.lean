/-
Compilation never looks for something that is not there.

A pass that binds a uniform block also generates it, and then its struct is among those of the pass and laid out with
them; a slot of a storage comes from a declared one, which a lookup by name finds again. So the size of every slot has
what it is computed from, and none of the errors of compilation is that of a name that stands for nothing.

- `Error.Known`: the error is no such error. Parsing, layout and merging have none (`known_ofDecls`, `known_passDecls`).
- `found_of_laysOut`: what a pass binds is found among its layouts or in the registry.
- `compile_finds`: so a pipeline does not fail for an unknown name, if its uniforms are well spelled.
-/
import ShaderInterface.Proofs.Pipeline.StorageSizes

namespace ShaderInterface

open Outcome

/-- the error is not that a name, a pass or a stage stands for nothing -/
def Error.Known : Error → Prop
  | .unknownResource _ | .unknownPass _ | .unknownStage _ _ => False
  | _ => True

/-! ## Layouts -/

theorem known_sizeIn (owner : String) (n : Nat) : FailsWith Error.Known (sizeIn owner n) := by
  unfold sizeIn
  split
  · exact failsWith_ok _
  · exact failsWith_error trivial

theorem known_paddingWords (owner after : String) (bytes : Nat) :
    FailsWith Error.Known (paddingWords owner after bytes) := by
  unfold paddingWords
  split
  · exact failsWith_ok _
  · exact failsWith_error trivial

theorem known_paddingBefore (owner after : String) (block stop : Nat) (members : List (Member × Extent)) :
    FailsWith Error.Known (paddingBefore owner after block stop members) := by
  cases members with
  | nil => exact failsWith_ok _
  | cons next rest =>
    refine (known_sizeIn _ _).bind fun boundary _ => ?_
    split
    · exact known_paddingWords _ _ _
    · exact failsWith_ok _

theorem known_place (owner : String) (block offset canonical : Nat) (members : List (Member × Extent)) :
    FailsWith Error.Known (place owner block offset canonical members) := by
  induction members generalizing offset canonical with
  | nil => exact failsWith_ok _
  | cons member rest ih =>
    refine (known_sizeIn _ _).bind fun canonicalOffset _ => ?_
    refine (known_sizeIn _ _).bind fun canonicalStop _ => ?_
    refine (known_sizeIn _ _).bind fun stop _ => ?_
    refine (known_paddingBefore _ _ _ _ _).bind fun padding _ => ?_
    exact (ih _ _).bind fun placed _ => failsWith_ok _

theorem known_build (name : String) (block : Nat) (members : List (Member × Extent)) :
    FailsWith Error.Known (StructLayout.build name block members) := by
  refine (known_place _ _ _ _ _).bind fun placed _ => ?_
  refine (known_sizeIn _ _).bind fun byteSize _ => ?_
  exact (known_paddingWords _ _ _).bind fun tail _ => failsWith_ok _

namespace LayoutTable

/-- an error about a type is one of its own, and not that a name stands for nothing -/
theorem known_ofType (e : Error) (h : OfType e) : e.Known := by
  cases e with
  | unknownResource name => exact h.elim
  | unknownPass pass => exact h.elim
  | unknownStage stage pass => exact h.elim
  | _ => trivial

variable (table : LayoutTable)

theorem known_layout (decl : StructDecl) : FailsWith Error.Known (table.layout decl) := by
  refine ((table.faults_maxAlign _ _).imp known_ofType).bind fun block _ => ?_
  exact ((table.faults_memberExtents _ _).imp known_ofType).bind fun members _ => known_build _ _ _

theorem known_add (decl : StructDecl) : FailsWith Error.Known (table.add decl) := by
  unfold add
  split
  · exact failsWith_ok _
  · exact (table.known_layout decl).bind fun layout _ => failsWith_ok _

/-- **No layout fails for an unknown name**: a type that is none is an error of its own. -/
theorem known_ofDecls (constants : Table String Nat) (decls : List StructDecl) :
    FailsWith Error.Known (ofDecls constants decls) :=
  FailsWith.foldlM (fun table decl _ => table.known_add decl) _

end LayoutTable

/-! ## Structs -/

/-- a source fails in the struct that is being read -/
theorem known_readAll (fuel : Nat) (tokens : List Token) : FailsWith Error.Known (StructDecl.readAll fuel tokens) := by
  fun_induction StructDecl.readAll fuel tokens with
  | case1 tokens => exact failsWith_ok _
  | case2 fuel => exact failsWith_ok _
  | case3 fuel name rest ih =>
    refine (failsWith_mapError (fun _ => trivial) _).bind fun body _ => ?_
    exact (ih _).bind fun decls _ => failsWith_ok _
  | case4 fuel name rest bodiless ih => exact ih
  | case5 fuel token rest bodiless nameless ih => exact ih

theorem known_mergeDecl (decls : List StructDecl) (new : StructDecl) :
    FailsWith Error.Known (mergeDecl decls new) := by
  unfold mergeDecl
  split
  · split
    · exact failsWith_ok _
    · exact failsWith_error trivial
  · exact failsWith_ok _

theorem known_mergeSource (decls : List StructDecl) (source : String) :
    FailsWith Error.Known (mergeSource decls source) :=
  (known_readAll _ _).bind fun _ _ => FailsWith.foldlM (fun decls new _ => known_mergeDecl decls new) _

/-- **No merge fails for an unknown name.** -/
theorem known_passDecls (registry : Registry) (source : RenderPass) (context : PassContext) :
    FailsWith Error.Known (passDecls registry source context) :=
  FailsWith.foldlM (fun decls source _ => known_mergeSource decls source) _

/-! ## Slots -/

/-- what the size of the slot is computed from: the layout of its block, or the declaration of its storage -/
def Found (registry : Registry) (layouts : LayoutTable) (index : Nat) : BoundResource → Prop
  | .uniforms internal => ∃ layout, layouts.get? (BlockName.uniforms internal).struct = some layout ∧
      MembersOf (registry.groupUniforms internal) layout.members
  | .meshUniforms => ∃ layout, layouts.get? BlockName.mesh.struct = some layout ∧
      ((∀ u ∈ registry.passUniforms index, u.WellSpelled) →
        MembersOf (registry.passUniforms index) layout.members)
  | .storage name readable => ∃ internal type visibility payload,
      registry.find? .storage name = some ⟨name, internal, .storage type visibility readable payload⟩
  | .layers => ∃ internal count width height visibility,
      registry.find? .layers layersName = some ⟨layersName, internal, .layers count width height visibility⟩
  | _ => True

/-- **What a pass binds is found**: the pass has generated and laid out its blocks, and the registry has its storages -/
theorem found_of_laysOut {registry : Registry} (hid : registry.Identified)
    (hu : ∀ u ∈ registry.uniforms, u.WellSpelled) {source : RenderPass} {context : PassContext} {table : LayoutTable}
    (h : LaysOut registry source context table) {stage : Stage} {group : Nat} (hgroup : group ∈ context.groups)
    {a : Assignment} (ha : a ∈ (synthesize registry context stage group).assignments) :
    Found registry table context.index a.resource := by
  obtain ⟨internal, hinternal, hne, hblock⟩ | ⟨-, hne, hmesh⟩ | ⟨s, hs, -, hresource⟩ :=
    specifiedSlots_cases (mem_synthesize_resource.1 (List.mem_map_of_mem ha))
  · rw [hblock]
    exact h.layout_block hu hne (exists_group_iff.1 ⟨group, hgroup, hinternal⟩)
  · rw [hmesh]
    exact h.layout_mesh hu hne
  · have hfind := hid.find?_of_mem hs
    have hlayers := hid.layers s hs
    rw [← hresource]
    obtain ⟨name, internal, details⟩ := s
    cases details with
    | storage type visibility readable payload => exact ⟨_, _, _, _, hfind⟩
    | layers count width height visibility =>
      obtain rfl : name = layersName := hlayers rfl
      exact ⟨_, _, _, _, _, hfind⟩
    | bindingTexture readName format pinned => cases stage <;> trivial
    | _ => trivial

section Sizes

variable {registry : Registry} {layouts : LayoutTable} {index : Nat}

theorem known_storageSize (layouts : LayoutTable) (type : TypeExpr) (payload : Option Bytes) :
    FailsWith Error.Known (storageSize layouts type payload) := by
  refine ((layouts.faults_extentOf _ _ _).imp LayoutTable.known_ofType).bind fun extent _ => ?_
  split
  · exact failsWith_ok _
  · exact failsWith_error trivial

theorem known_blockSize {block : BlockName} {layout : StructLayout} (h : layouts.get? block.struct = some layout) :
    FailsWith Error.Known (blockSize layouts block) := by
  rw [blockSize, h]
  exact failsWith_ok _

/-- the size of what is found may not fit, but is not missing -/
theorem known_bufferSize {r : BoundResource} (h : Found registry layouts index r) :
    FailsWith Error.Known (bufferSize registry layouts r) := by
  cases r with
  | uniforms internal =>
    obtain ⟨layout, hget, -⟩ := h
    exact (known_blockSize hget).map _
  | meshUniforms =>
    obtain ⟨layout, hget, -⟩ := h
    exact (known_blockSize hget).map _
  | storage name readable =>
    obtain ⟨internal, type, visibility, payload, hfind⟩ := h
    refine FailsWith.map ?_ _
    rw [declaredSize, hfind]
    exact known_storageSize layouts type payload
  | layers =>
    obtain ⟨internal, count, width, height, visibility, hfind⟩ := h
    refine FailsWith.map ?_ _
    rw [declaredSize, hfind]
    exact known_storageSize layouts (layersType count width height) none
  | _ => exact failsWith_ok _

theorem known_recordSize {a : Assignment} (h : Found registry layouts index a.resource)
    (sizes : Table BoundResource Nat) : FailsWith Error.Known (recordSize registry layouts sizes a) := by
  unfold recordSize
  split
  · exact failsWith_ok _
  · refine (known_bufferSize h).bind fun size _ => ?_
    split
    · exact failsWith_ok _
    · exact failsWith_ok _

end Sizes

/-! ## The pipeline -/

theorem known_check (source : RenderPass) (index : Nat) : FailsWith Error.Known (source.check index) := by
  unfold RenderPass.check
  split
  · exact failsWith_error trivial
  · split
    · exact failsWith_error trivial
    · exact failsWith_ok _

theorem known_checkPasses (index : Nat) (sources : List RenderPass) :
    FailsWith Error.Known (Pipeline.checkPasses index sources) := by
  induction sources generalizing index with
  | nil => exact failsWith_ok _
  | cons source rest ih => exact (known_check source index).bind fun _ _ => ih (index + 1)

theorem known_checkBindingTextures (pipeline : Pipeline) : FailsWith Error.Known pipeline.checkBindingTextures := by
  unfold Pipeline.checkBindingTextures
  split
  · exact failsWith_ok _
  · split
    · exact failsWith_error trivial
    · exact failsWith_ok _

theorem known_validate (pipeline : Pipeline) : FailsWith Error.Known pipeline.validate := by
  have hrest : FailsWith Error.Known (do
      Pipeline.checkPasses 0 pipeline.passes
      pipeline.checkBindingTextures) :=
    (known_checkPasses 0 pipeline.passes).bind fun _ _ => known_checkBindingTextures pipeline
  unfold Pipeline.validate
  split
  · exact failsWith_error trivial
  · exact hrest

theorem known_mergeStorageSize (sizes : Table String Nat) (entry : BoundResource × Nat) :
    FailsWith Error.Known (mergeStorageSize sizes entry) := by
  unfold mergeStorageSize
  split
  · split
    · split
      · exact failsWith_ok _
      · exact failsWith_error trivial
    · exact failsWith_ok _
  · exact failsWith_ok _

section Passes

variable {registry : Registry}

/-- **A pass does not fail for an unknown name**: every slot of its stages is found. -/
theorem known_compilePass (hid : registry.Identified) (hu : ∀ u ∈ registry.uniforms, u.WellSpelled)
    (source : RenderPass) (index : Nat) : FailsWith Error.Known (compilePass registry source index) := by
  refine (known_passDecls _ _ _).bind fun decls hdecls => ?_
  refine (LayoutTable.known_ofDecls _ _).bind fun table htable => ?_
  refine (FailsWith.foldlM ?_ _).bind fun sizes _ => failsWith_ok _
  intro sizes a ha
  obtain ⟨cs, hcs, ha⟩ := List.mem_flatMap.1 ha
  obtain ⟨stage, -, rfl⟩ := List.mem_map.1 hcs
  obtain ⟨bindings, hbindings, ha⟩ := List.mem_flatMap.1 ha
  obtain ⟨group, hgroup, rfl⟩ := List.mem_map.1 hbindings
  exact known_recordSize (found_of_laysOut hid hu ⟨decls, hdecls, htable⟩ hgroup ha) sizes

theorem known_compilePasses (hid : registry.Identified) (hu : ∀ u ∈ registry.uniforms, u.WellSpelled)
    (index : Nat) (sizes : Table String Nat) (sources : List RenderPass) :
    FailsWith Error.Known (compilePasses registry index sizes sources) := by
  induction sources generalizing index sizes with
  | nil => exact failsWith_ok _
  | cons source rest ih =>
    refine (known_compilePass hid hu source index).bind fun pass _ => ?_
    refine (FailsWith.foldlM (fun sizes entry _ => known_mergeStorageSize sizes entry) _).bind fun merged _ => ?_
    exact (ih _ _).bind fun compiled _ => failsWith_ok _

end Passes

/-- **Every bound block is generated and laid out.** If the names of uniforms are identifiers and their types are types
without comments, no pipeline fails for an unknown name. In each pass that has layouts, what a stage binds in a group is
found: the layout of a uniform block, with a member for each uniform, and the declaration of a storage. So the size that
is computed of it is not missing. -/
theorem compile_finds {history : List Declaration} (hu : ∀ u ∈ (Registry.run history).uniforms, u.WellSpelled) :
    (∀ passes e, Pipeline.compile ⟨Registry.run history, passes⟩ = .error e → e.Known) ∧
      ∀ source context table, LaysOut (Registry.run history) source context table →
        ∀ stage, ∀ group ∈ context.groups,
          ∀ a ∈ (synthesize (Registry.run history) context stage group).assignments,
            Found (Registry.run history) table context.index a.resource ∧
              FailsWith Error.Known (bufferSize (Registry.run history) table a.resource) := by
  have hid := Registry.identified_run history
  constructor
  · intro passes
    refine (known_validate _).bind fun _ _ => ?_
    exact (known_compilePasses hid hu _ _ _).bind fun compiled _ => failsWith_ok _
  · intro source context table h stage group hgroup a ha
    have hfound := found_of_laysOut hid hu h hgroup ha
    exact ⟨hfound, known_bufferSize hfound⟩

theorem swarm_compile_finds :
    (∀ u ∈ (Registry.run swarmDecls).uniforms, u.WellSpelled) ∧
      (∃ e, Pipeline.compile ⟨Registry.run swarmDecls, [⟨"none", false, none, none, none⟩]⟩ = .error e ∧ e.Known) ∧
      ∃ table, LaysOut (Registry.run swarmDecls) ⟨"draw", true, some swarmShader, none, none⟩ ⟨0, true⟩ table ∧
        Found (Registry.run swarmDecls) table 0 (.uniforms true) ∧
        Found (Registry.run swarmDecls) table 0 .meshUniforms ∧
        Found (Registry.run swarmDecls) table 0 (.storage "heap" true) := by
  have hu := Registry.wellSpelled_uniforms swarm_wellSpelled.uniforms
  obtain ⟨hknown, hfinds⟩ := compile_finds hu
  obtain ⟨compiled, h⟩ := swarm_compiles
  obtain ⟨-, heach⟩ := compile_passes h
  obtain ⟨pass, -, hof⟩ := heach 0 _ rfl
  have hlays := hof.laysOut
  rw [hof.context] at hlays
  have hfound := hfinds _ _ _ hlays .compute
  have hempty : Pipeline.compile ⟨Registry.run swarmDecls, [⟨"none", false, none, none, none⟩]⟩ =
      .error (.emptyPass 0) := rfl
  refine ⟨hu, ⟨_, hempty, hknown _ _ hempty⟩, pass.layouts, hlays, ?_, ?_, ?_⟩
  · exact (hfound internalGroup (by decide) ⟨.uniforms true, .compute, 1, 0, .read⟩ (by decide +kernel)).1
  · exact (hfound internalGroup (by decide) ⟨.meshUniforms, .compute, 1, 1, .read⟩ (by decide +kernel)).1
  · exact (hfound userGroup (by decide) ⟨.storage "heap" true, .compute, 0, 1, .readWrite⟩ (by decide +kernel)).1

/-- a comment in the type of a uniform hides the internal block behind it -/
example :
    (Pipeline.compile ⟨Registry.run [.uniform false "gain" (.f32 [0]) "f32 \x7d /*", .uniform true "on" (.f32 [0]) "f32"],
      swarmPasses⟩) = .error (.unknownResource "InternalParams") := by decide +kernel

end ShaderInterface
