/-
The size of the user's uniform block.

All passes share the buffer of the user's uniforms, but each of them lays out the block with its own structs. The
pipeline answers with the layout of the first pass, and unlike the sizes of storages the sizes of the block are not
compared: they are equal where the passes agree on the types of the uniforms, and a struct that two passes declare
differently sets them apart.

- `userBlock_size`: what a pass records for the block, and when that is the size of the packed buffer.
- `lit_userBlock_size_differs`: a pipeline that compiles and has two sizes for one buffer.
-/
import ShaderInterface.Proofs.Pipeline.BlockLayouts
import ShaderInterface.Proofs.Uniform.PackedBytes

namespace ShaderInterface

open Outcome

/-- the two passes give the types of these members the same extents -/
def CompiledPass.SameExtents (pass other : CompiledPass) (members : List Member) : Prop :=
  ∀ m ∈ members, ∀ e e', pass.layouts.describe m.type = .ok e → other.layouts.describe m.type = .ok e' → e = e'

section Block

variable {registry : Registry} {source source' : RenderPass} {index index' : Nat} {pass other : CompiledPass}

theorem CompiledPass.Of.placed (h : pass.Of registry source index) {name : String} {layout : StructLayout}
    (hget : pass.layouts.get? name = some layout) : layout.Placed := by
  obtain ⟨decls, -, hlayouts⟩ := h.layouts
  exact StructLayout.placed_of_ofDecls hlayouts hget

/-- two passes lay out a struct alike if it has the same members in both, with the same extents -/
theorem CompiledPass.Of.layout_eq (h : pass.Of registry source index) (h' : other.Of registry source' index')
    {name : String} {layout layout' : StructLayout} (hget : pass.layouts.get? name = some layout)
    (hget' : other.layouts.get? name = some layout') (hmembers : layout.members = layout'.members)
    (hextents : pass.SameExtents other layout.members) : layout = layout' := by
  obtain ⟨part, hlayout, hwithin⟩ := h.laidOut_of_get? hget
  obtain ⟨part', hlayout', hwithin'⟩ := h'.laidOut_of_get? hget'
  rw [← hmembers] at hlayout'
  apply LayoutTable.layout_congr _ hlayout hlayout'
  intro m hm e e' he he'
  exact hextents m hm e e' (hwithin.describe he) (hwithin'.describe he')

end Block

theorem CompiledPipeline.packBlock_some {layout : StructLayout} (block : BlockName) {uniforms : List Uniform}
    (hne : uniforms ≠ []) :
    packBlock (some layout) block uniforms = layout.pack (uniforms.map fun u => (u.name, u.value)) := by
  unfold packBlock
  rw [if_neg (by simpa using hne)]

/-- the packed user's block has the size of the layout that the pipeline answers with -/
theorem CompiledPipeline.length_packUniforms {compiled : CompiledPipeline} {internal : Bool} {layout : StructLayout}
    (hlayout : compiled.uniformLayout? internal = some layout) (hplaced : layout.Placed) {now : Registry}
    (hne : now.groupUniforms internal ≠ []) {bytes : Bytes} (h : compiled.packUniforms now internal = .ok bytes) :
    bytes.length = layout.byteSize := by
  rw [packUniforms, hlayout, packBlock_some _ hne] at h
  exact StructLayout.length_pack hplaced h

/-- **The size of the user's block in a pass** is that of the pass's own layout of the block, the pipeline answers with
the layout of the first pass, and packed values fill that. Well-spelled uniforms are the members of both. If the two
passes agree on the types of the members, then the layouts are the same. -/
theorem userBlock_size {pipeline : Pipeline} {compiled : CompiledPipeline} (h : pipeline.compile = .ok compiled)
    {index : Nat} {pass : CompiledPass} (hpass : compiled.pass? index = some pass)
    (hbinds : pass.Binds (.uniforms false)) :
    ∃ first own shared, compiled.pass? 0 = some first ∧
      pass.layouts.get? (BlockName.uniforms false).struct = some own ∧
      pass.bufferSize? (.uniforms false) = some own.byteSize ∧ compiled.uniformLayout? false = some shared ∧
      (∀ now bytes, now.groupUniforms false ≠ [] → compiled.packUniforms now false = .ok bytes →
        bytes.length = shared.byteSize) ∧
      ((∀ u ∈ pipeline.registry.uniforms, u.WellSpelled) → own.members = shared.members) ∧
      (own.members = shared.members → pass.SameExtents first own.members → own = shared) := by
  obtain ⟨source, hstages, hof⟩ := source_of_pass h hpass
  obtain ⟨hne, -⟩ := (hof.binds_uniforms_iff hstages).1 hbinds
  obtain ⟨own, hown, hsize⟩ := hof.recorded_block hbinds
  have hnonempty : 0 < compiled.passes.length := Nat.zero_lt_of_lt (List.getElem?_eq_some_iff.1 hpass).1
  have hfirst : compiled.pass? 0 = some compiled.passes[0] := List.getElem?_eq_getElem hnonempty
  obtain ⟨source', hstages', hof'⟩ := source_of_pass h hfirst
  obtain ⟨shared, hshared, -⟩ := hof'.recorded_block ((hof'.binds_uniforms_iff hstages').2 ⟨hne, rfl⟩)
  have hlayout := CompiledPipeline.uniformLayout?_of_first hfirst hshared
  refine ⟨_, own, shared, hfirst, hown, hsize, hlayout, ?_, ?_, hof.layout_eq hof' hown hshared⟩
  · intro now bytes hnow hbytes
    exact CompiledPipeline.length_packUniforms hlayout (hof'.placed hshared) hnow hbytes
  · intro hu
    obtain ⟨layout, hget, hmembers⟩ := hof.layout_block hu hne rfl
    obtain ⟨layout', hget', hmembers'⟩ := hof'.layout_block hu hne rfl
    obtain rfl := Option.some.inj (hown.symm.trans hget)
    obtain rfl := Option.some.inj (hshared.symm.trans hget')
    exact hmembers'.unique hmembers

/-! ## One uniform, two passes -/

/-- a uniform whose type is a struct of the shaders -/
def litDecls : List Declaration := [.uniform false "sky" (.f32 [0, 0, 0, 0]) "Sky"]

def litPasses (code : String) : List RenderPass :=
  [⟨"first", false, some ⟨"first.wgsl", "struct Sky { zenith: vec4f }"⟩, none, none⟩,
    ⟨"second", false, some ⟨"second.wgsl", code⟩, none, none⟩]

theorem lit_userBlock_size :
    ∃ compiled, Pipeline.compile ⟨Registry.run litDecls, litPasses "struct Sky { zenith: vec4f }"⟩ = .ok compiled ∧
      ∃ pass, compiled.pass? 1 = some pass ∧ pass.Binds (.uniforms false) ∧
        ∃ shared, compiled.uniformLayout? false = some shared ∧
          pass.bufferSize? (.uniforms false) = some shared.byteSize := by
  have hspelled : ∀ u ∈ (Registry.run litDecls).uniforms, u.WellSpelled := by decide +kernel
  obtain ⟨compiled, h, hcompiled⟩ := exists_of_any (p := fun compiled : CompiledPipeline =>
    (compiled.pass? 1).any (fun pass => pass.Binds (.uniforms false)) = true ∧
      (compiled.pass? 0).map (·.layouts) = (compiled.pass? 1).map (·.layouts))
    (x := Pipeline.compile ⟨Registry.run litDecls, litPasses "struct Sky { zenith: vec4f }"⟩) (by decide +kernel)
  obtain ⟨hany, hsame⟩ := hcompiled
  obtain ⟨pass, hpass, hbinds⟩ := (Option.any_eq_true _ _).1 hany
  have hbinds : pass.Binds (.uniforms false) := of_decide_eq_true hbinds
  obtain ⟨first, own, shared, hfirst, -, hsize, hshared, -, hmembers, hequal⟩ := userBlock_size h hpass hbinds
  have hlayouts : first.layouts = pass.layouts := by simpa [hfirst, hpass] using hsame
  have hextents : pass.SameExtents first own.members := by
    intro m _ e e' he he'
    rw [hlayouts] at he'
    exact Except.ok.inj (he.symm.trans he')
  have howner := hequal (hmembers hspelled) hextents
  exact ⟨compiled, h, pass, hpass, hbinds, shared, hshared, howner ▸ hsize⟩

theorem lit_userBlock_size_differs :
    ∃ compiled, Pipeline.compile ⟨Registry.run litDecls, litPasses "struct Sky { zenith: vec4f, ground: vec4f }"⟩ =
        .ok compiled ∧
      ∃ pass, compiled.pass? 1 = some pass ∧ pass.Binds (.uniforms false) ∧
        pass.bufferSize? (.uniforms false) = some 32 ∧ (compiled.uniformLayout? false).map (·.byteSize) = some 16 := by
  obtain ⟨compiled, h, hcompiled⟩ := exists_of_any (p := fun compiled : CompiledPipeline =>
    (compiled.pass? 1).any (fun pass => pass.Binds (.uniforms false) ∧ pass.bufferSize? (.uniforms false) = some 32)
      = true ∧ (compiled.uniformLayout? false).map (·.byteSize) = some 16)
    (x := Pipeline.compile ⟨Registry.run litDecls, litPasses "struct Sky { zenith: vec4f, ground: vec4f }"⟩)
    (by decide +kernel)
  obtain ⟨hany, hshared⟩ := hcompiled
  obtain ⟨pass, hpass, hpass'⟩ := (Option.any_eq_true _ _).1 hany
  obtain ⟨hbinds, hsize⟩ := of_decide_eq_true hpass'
  exact ⟨compiled, h, pass, hpass, hbinds, hsize, hshared⟩

end ShaderInterface
