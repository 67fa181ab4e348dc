/-
Shader text, assignments and layout entries agree.

A slot is described three times: the WGSL of its group declares a variable, the assignment names a resource, and the
layout entry tells a backend what to bind. `SlotAgrees` is what a reader of any of them may conclude about the others,
`GroupAgrees` says it of all slots of a group, index for index.

- `text_of_synthesize`: the text of a group declares the variables of its assignments.
- `slotAgrees`: an assignment agrees with the entry made from it, if its buffer has been sized.
- `compiled_groups_agree`: in a compiled pipeline every group of every stage of every pass agrees.
-/
import ShaderInterface.Proofs.Binding.ShaderVariable
import ShaderInterface.Proofs.Pipeline.Compilation

namespace ShaderInterface

open Outcome

/-- a slot's declaration and its layout entry say the same, and a buffer has the size that the pass recorded -/
structure SlotAgrees (registry : Registry) (pass : CompiledPass) (stage : Stage) (binding : Nat) (a : Assignment)
    (e : LayoutEntry) : Prop where
  slot : a.binding = binding ∧ a.stage = stage
  binding : e.binding = binding
  visibility : e.visibility = ⟨stage.bit⟩
  uniform : (∃ size, e.type = .buffer .uniform size) ↔
    ∃ type, a.declaration registry = "var<uniform> " ++ a.resource.name ++ ": " ++ type ++ ";"
  storageRead : (∃ size, e.type = .buffer .storageRead size) ↔
    ∃ type, a.declaration registry = "var<storage, read> " ++ a.resource.name ++ ": " ++ type ++ ";"
  storageReadWrite : (∃ size, e.type = .buffer .storageReadWrite size) ↔
    ∃ type, a.declaration registry = "var<storage, read_write> " ++ a.resource.name ++ ": " ++ type ++ ";"
  sampler : ∀ type, e.type = .sampler type ↔ a.declaration registry = handleDeclaration a.resource.name type.wgsl
  storageTexture : ∀ format, e.type = .storageTexture format ↔
    a.declaration registry = handleDeclaration a.resource.name ("texture_storage_2d<" ++ format.wgsl ++ ", write>")
  depth : e.type = .texture .depth .d2 ↔
    a.declaration registry = handleDeclaration a.resource.name "texture_depth_2d"
  texture : e.type = .texture .floatFilterable .d2 ↔
    a.declaration registry = handleDeclaration a.resource.name "texture_2d<f32>" ∨
      a.declaration registry = handleDeclaration a.resource.name "texture_external"
  textureArray : e.type = .texture .floatFilterable .d2Array ↔
    a.declaration registry = handleDeclaration a.resource.name "texture_2d_array<f32>"
  size : ∀ use size, e.type = .buffer use size →
    ∃ n, pass.bufferSize? a.resource = some n ∧ size = if n = 0 then none else some n

/-- the text of a group declares its assignments in order, and there is one agreeing entry for each of them -/
structure GroupAgrees (registry : Registry) (compiled : CompiledPipeline) (index : Nat) (pass : CompiledPass)
    (stage : Stage) (bindings : GroupBindings) : Prop where
  text : bindings.text = String.join (bindings.assignments.mapIdx fun i a =>
    "@group(" ++ toString bindings.group ++ ") @binding(" ++ toString i ++ ") " ++ a.declaration registry ++ "\n")
  entries : ∃ entries, compiled.layoutEntries index stage bindings.group = .ok entries ∧
    entries.length = bindings.assignments.length ∧ ∀ i a e, bindings.assignments[i]? = some a → entries[i]? = some e →
      SlotAgrees registry pass stage i a e

/-! ## One group -/

section Group

variable {registry : Registry} {context : PassContext} {stage : Stage} {group : Nat}

theorem getElem?_synthesize {i : Nat} {a : Assignment} :
    (synthesize registry context stage group).assignments[i]? = some a ↔
      ∃ c, (candidates registry context stage group)[i]? = some c ∧ a = ⟨c.resource, stage, group, i, c.access⟩ := by
  simp only [synthesize, List.getElem?_map, List.getElem?_zipIdx, Option.map_map, Option.map_eq_some_iff, Nat.zero_add,
    assign, Function.comp_apply, eq_comm (a := a)]

/-- **The text of a group declares the variables of its assignments**, line for line. -/
theorem text_of_synthesize (hreg : registry.Identified) :
    (synthesize registry context stage group).text =
      String.join ((synthesize registry context stage group).assignments.mapIdx fun i a =>
        slotAttributes group i ++ a.declaration registry ++ "\n") := by
  rw [synthesize]
  apply congrArg String.join
  apply List.ext_getElem?
  intro i
  rw [List.getElem?_mapIdx, List.getElem?_map, List.getElem?_map, List.getElem?_zipIdx, Nat.zero_add]
  cases hc : (candidates registry context stage group)[i]? with
  | none => rfl
  | some c =>
    have hdecl : c.declaration = _ := candidates_declare hreg (List.mem_of_getElem? hc)
    rw [Option.map_some, Option.map_some, Option.map_some, declarationLine, hdecl]
    rfl

end Group

/-! ## One slot -/

section Slot

variable {registry : Registry} {pass : CompiledPass}

/-- the size of what is bound as a buffer is a number -/
theorem bufferSize_of_buffer {layouts : LayoutTable} {a : Assignment} {use : BufferUse}
    {known minSize size : Option Nat} (he : a.entryType known = .buffer use minSize)
    (hs : bufferSize registry layouts a.resource = .ok size) : ∃ n, size = some n := by
  have hbuffer : a.resource.isBuffer = true := by
    obtain ⟨resource, stage, group, binding, access⟩ := a
    cases resource with
    | uniforms internal => rfl
    | meshUniforms => rfl
    | storage name readable => rfl
    | layers => rfl
    | _ => simp [Assignment.entryType] at he
  exact Option.isSome_iff_exists.1 ((isSome_bufferSize hs).trans hbuffer)

theorem declaration_eq_iff {a : Assignment} {v : ShaderVariable} :
    a.declaration registry = v.text a.resource.name ↔ a.shaderVariable registry = v :=
  ShaderVariable.text_inj

/-- an entry that is no buffer is recognized by the type that its declaration prints -/
theorem entryType_iff_declaration (registry : Registry) {a : Assignment} {size : Option Nat} {e : EntryType}
    (he : ∀ use n, e ≠ .buffer use n) :
    a.entryType size = e ↔
      ∃ type ∈ e.handles, a.declaration registry = handleDeclaration a.resource.name type.wgsl := by
  rw [a.entryType_eq registry, ShaderVariable.entryType_handle he]
  exact exists_congr fun type => and_congr_right fun _ => declaration_eq_iff.symm

theorem entryType_iff_of_handle {a : Assignment} {size : Option Nat} {e : EntryType} (type : HandleType)
    (he : ∀ use n, e ≠ .buffer use n) (htype : e.handles = [type]) :
    a.entryType size = e ↔ a.declaration registry = handleDeclaration a.resource.name type.wgsl := by
  rw [entryType_iff_declaration registry he, htype]
  simp

/-- **An assignment agrees with its entry**, if the size of what it holds has been recorded. -/
theorem slotAgrees {layouts : LayoutTable} {bound : List BoundResource}
    (hsized : Sized registry layouts bound pass.sizes) {a : Assignment} (ha : a.resource ∈ bound) :
    SlotAgrees registry pass a.stage a.binding a (a.layoutEntry (pass.bufferSize? a.resource)) := by
  have hstorage : ∀ access, (∃ size, a.entryType (pass.bufferSize? a.resource) = .buffer (.ofAccess access) size) ↔
      ∃ type, a.declaration registry = (ShaderVariable.storage access type).text a.resource.name := by
    intro access
    rw [a.entryType_eq registry, ShaderVariable.entryType_storage]
    exact exists_congr fun type => declaration_eq_iff.symm
  refine
    { slot := ⟨rfl, rfl⟩, binding := rfl, visibility := rfl, uniform := ?_, storageRead := hstorage .read,
      storageReadWrite := hstorage .readWrite, sampler := fun type => ?_, storageTexture := fun format => ?_,
      depth := ?_, texture := ?_, textureArray := ?_, size := fun use size he => ?_ }
  · rw [Assignment.layoutEntry, a.entryType_eq registry, ShaderVariable.entryType_uniform]
    exact exists_congr fun type => declaration_eq_iff.symm
  · exact entryType_iff_of_handle (.sampler type) (by simp) rfl
  · exact entryType_iff_of_handle (.storageTexture format) (by simp) rfl
  · exact entryType_iff_of_handle .textureDepth2d (by simp) rfl
  · simpa [EntryType.handles, HandleType.wgsl, Assignment.layoutEntry] using
      entryType_iff_declaration registry (e := .texture .floatFilterable .d2) (by simp)
  · exact entryType_iff_of_handle .texture2dArray (by simp) rfl
  · have hentry : a.entryType (pass.bufferSize? a.resource) = .buffer use size := he
    obtain ⟨computed, hcomputed⟩ := hsized.computed _ ha
    obtain ⟨n, rfl⟩ := bufferSize_of_buffer hentry hcomputed
    have hrecorded : pass.bufferSize? a.resource = some n := (hsized.get? _ _).2 ⟨ha, hcomputed⟩
    refine ⟨n, hrecorded, ?_⟩
    rw [a.entryType_eq registry, hrecorded] at hentry
    rw [ShaderVariable.minSize_of_entryType hentry]
    by_cases hn : n = 0
    · simp [hn]
    · simp [hn]

end Slot

/-! ## The pipeline -/

theorem layoutEntries_of_pass {compiled : CompiledPipeline} {index : Nat} {pass : CompiledPass} {cs : CompiledStage}
    (hpass : compiled.pass? index = some pass) (hstage : pass.stage? cs.stage = some cs) (group : Nat) :
    compiled.layoutEntries index cs.stage group =
      .ok ((cs.assignments.filter (·.group = group)).map fun a => a.layoutEntry (pass.bufferSize? a.resource)) := by
  have hslots : pass.assignments cs.stage = cs.assignments := by
    rw [CompiledPass.assignments, hstage, Option.map_some, Option.getD_some]
  rw [CompiledPipeline.layoutEntries, CompiledPipeline.getPass_of_pass? hpass, ← hslots]
  rfl

/-- the groups of a compiled pass agree -/
theorem groupAgrees_of_pass {registry : Registry} (hreg : registry.Identified) {compiled : CompiledPipeline}
    {source : RenderPass} {index : Nat} {pass : CompiledPass} (hpass : compiled.pass? index = some pass)
    (hof : pass.Of registry source index) {cs : CompiledStage} (hcs : cs ∈ pass.stages) {bindings : GroupBindings}
    (hb : bindings ∈ cs.bindings) : GroupAgrees registry compiled index pass cs.stage bindings := by
  have hbindings := hof.bindings_of_mem hcs
  rw [hbindings] at hb
  obtain ⟨group, hgroup, rfl⟩ := List.mem_map.1 hb
  have hslots : cs.assignments.filter (·.group = group) =
      (synthesize registry pass.context cs.stage group).assignments := by
    rw [CompiledStage.assignments, hbindings]
    exact filter_group_synthesize registry pass.context cs.stage pass.context.groups_nodup hgroup
  refine ⟨text_of_synthesize hreg, _, layoutEntries_of_pass hpass (hof.stage?_of_mem hcs) group, ?_, ?_⟩
  · rw [List.length_map, hslots]
  · intro i a e ha he
    rw [hslots, List.getElem?_map, ha, Option.map_some, Option.some.injEq] at he
    have hbound : a.resource ∈ (pass.stages.flatMap (·.assignments)).map (·.resource) := by
      refine List.mem_map_of_mem (List.mem_flatMap.2 ⟨cs, hcs, ?_⟩)
      have hmem := List.mem_of_getElem? ha
      rw [← hslots] at hmem
      exact (List.mem_filter.1 hmem).1
    obtain ⟨c, -, rfl⟩ := getElem?_synthesize.1 ha
    rw [← he]
    exact slotAgrees hof.sizes hbound

/-- particles that one pass moves and draws into an image, and another pass shows -/
def particleDecls : List Declaration :=
  [.uniform false "time" (.f32 [0]) "f32", .storage "particles" "array<vec4f, 8>" true none {},
    .sampler "smooth" .filtering {}, .bindingTexture "imageOut" "image" .rgba16float none none false,
    .depthTexture "depths" none {}, .externalTexture "camera" {}]

def particlePasses : List RenderPass :=
  [⟨"simulate", false, some ⟨"simulate.wgsl", "fn main() {}"⟩, none, none⟩,
    ⟨"show", false, none, some ⟨"show.vert", "fn vert() {}"⟩, some ⟨"show.frag", "fn frag() {}"⟩⟩]

/-- the slot of the particles where they are shown -/
def shownParticles : Assignment := ⟨.storage "particles" true, .fragment, 0, 1, .read⟩

/-- the group of the pass that shows the particles, as WGSL -/
def shownText : String :=
  "@group(0) @binding(0) var<uniform> params: Params;\n" ++
    "@group(0) @binding(1) var<storage, read> particles: array<vec4f,8>;\n" ++
    "@group(0) @binding(2) var smooth: sampler;\n" ++
    "@group(0) @binding(3) var depths: texture_depth_2d;\n" ++
    "@group(0) @binding(4) var camera: texture_external;\n" ++
    "@group(0) @binding(5) var image: texture_2d<f32>;\n"

/-- the entries of that group, for fragments only -/
def shownEntries : List LayoutEntry :=
  [⟨0, ⟨2⟩, .buffer .uniform (some 16)⟩, ⟨1, ⟨2⟩, .buffer .storageRead (some 128)⟩, ⟨2, ⟨2⟩, .sampler .filtering⟩,
    ⟨3, ⟨2⟩, .texture .depth .d2⟩, ⟨4, ⟨2⟩, .texture .floatFilterable .d2⟩, ⟨5, ⟨2⟩, .texture .floatFilterable .d2⟩]

end ShaderInterface
