/-
The structs of a pass are those that its sources declare, each once.

Merging a struct keeps the structs so far and either finds an equal one among them or appends it under a name of its own
(`mergeDecl_cases`). So after a whole merge the names are distinct and every source's structs are there (`Merged`), and
in a compiled pass each of them has its layout.

- `passDecls_merged`: what the merged structs of a pass are.
- `laidOut_stage`, `laidOut_generated`: the structs of a stage and of the generated source are laid out.
-/
import ShaderInterface.Proofs.Layout.Resolution
import ShaderInterface.Proofs.Pipeline.Compilation
import ShaderInterface.Proofs.Source.StructSearch

namespace ShaderInterface

open Outcome

/-! ## Merging -/

section Merging

variable {decls news after : List StructDecl}

theorem mergeDecl_cases {new : StructDecl} (h : mergeDecl decls new = .ok after) :
    (new ∈ decls ∧ after = decls) ∨ (new.name ∉ decls.map (·.name) ∧ after = decls ++ [new]) := by
  unfold mergeDecl at h
  cases hfind : decls.find? (·.name = new.name) with
  | none =>
    have hnames : new.name ∉ decls.map (·.name) := by
      rw [List.find?_eq_none] at hfind
      rintro hmem
      obtain ⟨d, hd, hname⟩ := List.mem_map.1 hmem
      exact hfind d hd (by simpa using hname)
    rw [hfind] at h
    exact .inr ⟨hnames, (Except.ok.inj h).symm⟩
  | some old =>
    rw [hfind] at h
    by_cases heq : old = new
    · subst heq
      have hafter : decls = after := by simpa using h
      exact .inl ⟨List.mem_of_find?_eq_some hfind, hafter.symm⟩
    · simp [heq] at h

/-- `after` has the structs `decls` and `news` and no others, under distinct names -/
structure Merged (decls news after : List StructDecl) : Prop where
  kept : ∀ d ∈ decls, d ∈ after
  added : ∀ d ∈ news, d ∈ after
  declared : ∀ d ∈ after, d ∈ decls ∨ d ∈ news
  nodup : (decls.map (·.name)).Nodup → (after.map (·.name)).Nodup

theorem merged_nil (decls : List StructDecl) : Merged decls [] decls :=
  ⟨fun _ h => h, by simp, fun _ h => .inl h, id⟩

theorem Merged.trans {news' last : List StructDecl} (h : Merged decls news after) (h' : Merged after news' last) :
    Merged decls (news ++ news') last where
  kept := fun d hd => h'.kept d (h.kept d hd)
  added := List.forall_mem_append.2 ⟨fun d hd => h'.kept d (h.added d hd), h'.added⟩
  declared := by
    intro d hd
    rw [List.mem_append]
    rcases h'.declared d hd with hd | hd
    · exact (h.declared d hd).imp_right .inl
    · exact .inr (.inr hd)
  nodup := fun hn => h'.nodup (h.nodup hn)

theorem merged_step {new : StructDecl} (h : mergeDecl decls new = .ok after) : Merged decls [new] after := by
  rcases mergeDecl_cases h with ⟨hmem, rfl⟩ | ⟨hname, rfl⟩
  · exact ⟨fun _ hd => hd, List.forall_mem_singleton.2 hmem, fun _ hd => .inl hd, id⟩
  · refine ⟨fun d hd => List.mem_append_left _ hd, by simp, fun d hd => List.mem_append.1 hd, ?_⟩
    intro hn
    rw [List.map_append, List.map_singleton, List.nodup_append]
    refine ⟨hn, by simp, ?_⟩
    intro name hin other hother
    rw [List.mem_singleton] at hother
    rintro rfl
    exact hname (hother ▸ hin)

theorem merged_run (h : news.foldlM mergeDecl decls = .ok after) : Merged decls news after := by
  induction news generalizing decls with
  | nil =>
    rw [foldlM_nil_eq_ok] at h
    exact h ▸ merged_nil decls
  | cons new rest ih =>
    obtain ⟨next, hnew, hrest⟩ := foldlM_cons_eq_ok.1 h
    exact (merged_step hnew).trans (ih hrest)

theorem merged_sources {sources : List String} (h : sources.foldlM mergeSource decls = .ok after) :
    ∃ parsed : List (List StructDecl), sources.map StructDecl.parseAll = parsed.map .ok ∧
      Merged decls parsed.flatten after := by
  induction sources generalizing decls with
  | nil =>
    rw [foldlM_nil_eq_ok] at h
    exact ⟨[], rfl, h ▸ merged_nil decls⟩
  | cons source rest ih =>
    obtain ⟨next, hsource, hrest⟩ := foldlM_cons_eq_ok.1 h
    obtain ⟨own, hown, hmerge⟩ := bind_eq_ok.1 hsource
    obtain ⟨parsed, hparsed, hmerged⟩ := ih hrest
    exact ⟨own :: parsed, by rw [List.map_cons, hown, hparsed, List.map_cons], (merged_run hmerge).trans hmerged⟩

end Merging

/-! ## The structs of a pass -/

/-- the merged structs of a pass: distinct names, and those of every source -/
structure PassDecls (sources : List String) (decls : List StructDecl) : Prop where
  nodup : (decls.map (·.name)).Nodup
  ofMembers : ∀ d ∈ decls, d = .ofMembers d.name d.members
  parsed : ∀ source ∈ sources, ∃ own, StructDecl.parseAll source = .ok own ∧ ∀ d ∈ own, d ∈ decls

theorem passDecls_merged {registry : Registry} {source : RenderPass} {context : PassContext} {decls : List StructDecl}
    (h : passDecls registry source context = .ok decls) :
    PassDecls (source.stages.map (·.2.code) ++ [generatedText registry context]) decls := by
  obtain ⟨parsed, hparsed, hmerged⟩ := merged_sources h
  have heach : ∀ text ∈ source.stages.map (·.2.code) ++ [generatedText registry context], ∃ own,
      StructDecl.parseAll text = .ok own ∧ own ∈ parsed := by
    intro text htext
    have hmem := List.mem_map_of_mem (f := StructDecl.parseAll) htext
    rw [hparsed] at hmem
    obtain ⟨own, hown, heq⟩ := List.mem_map.1 hmem
    exact ⟨own, heq.symm, hown⟩
  refine ⟨hmerged.nodup (by simp), ?_, ?_⟩
  · intro d hd
    obtain ⟨own, hown, hd⟩ := List.mem_flatten.1 ((hmerged.declared d hd).resolve_left (by simp))
    have hmem : Except.ok own ∈ parsed.map (Except.ok : _ → Except Error (List StructDecl)) := List.mem_map_of_mem hown
    rw [← hparsed] at hmem
    obtain ⟨text, -, hparse⟩ := List.mem_map.1 hmem
    exact (parseAll_eq_ok.1 hparse).ofMembers d hd
  · intro text htext
    obtain ⟨own, hparse, hown⟩ := heach text htext
    exact ⟨own, hparse, fun d hd => hmerged.added d (List.mem_flatten.2 ⟨own, hown, hd⟩)⟩

/-! ## The layouts of a pass -/

/-- the table has a layout of that name, computed for the struct over a part of the table -/
def LaidOut (table : LayoutTable) (d : StructDecl) : Prop :=
  ∃ (part : LayoutTable) (layout : StructLayout), part.layout (.ofMembers d.name d.members) = .ok layout ∧
    part.Within table ∧ table.get? d.name = some layout

theorem LaidOut.exists_layout {table : LayoutTable} {d : StructDecl} (h : LaidOut table d) :
    ∃ layout, table.get? d.name = some layout ∧ layout.members = d.members := by
  obtain ⟨part, layout, hlayout, -, hget⟩ := h
  exact ⟨layout, hget, (LayoutTable.layout_members hlayout).2⟩

/-- the structs of the pass can be merged, and the table has their layouts -/
def LaysOut (registry : Registry) (source : RenderPass) (context : PassContext) (table : LayoutTable) : Prop :=
  ∃ decls, passDecls registry source context = .ok decls ∧
    LayoutTable.ofDecls registry.integerConstants decls = .ok table

section Pass

variable {registry : Registry} {source : RenderPass} {context : PassContext} {table : LayoutTable} {index : Nat}
  {pass : CompiledPass}

theorem LaysOut.laidOut (h : LaysOut registry source context table) {text : String}
    (htext : text ∈ source.stages.map (·.2.code) ++ [generatedText registry context]) :
    ∃ own, StructDecl.parseAll text = .ok own ∧ ∀ d ∈ own, LaidOut table d := by
  obtain ⟨decls, hdecls, hlayouts⟩ := h
  have hmerged := passDecls_merged hdecls
  obtain ⟨own, hparse, hown⟩ := hmerged.parsed text htext
  refine ⟨own, hparse, ?_⟩
  intro d hd
  obtain ⟨part, layout, hlayout, hwithin, hget⟩ := LayoutTable.layout_of_mem hmerged.nodup hlayouts (hown d hd)
  rw [hmerged.ofMembers d (hown d hd)] at hlayout
  exact ⟨part, layout, hlayout, hwithin, hget⟩

/-- **The structs of a stage are laid out.** -/
theorem LaysOut.laidOut_stage (h : LaysOut registry source context table) {stage : Stage} {shader : Shader}
    (hshader : (stage, shader) ∈ source.stages) :
    ∃ own, StructDecl.parseAll shader.code = .ok own ∧ ∀ d ∈ own, LaidOut table d :=
  h.laidOut (List.mem_append_left _ (List.mem_map_of_mem (f := (·.2.code)) hshader))

/-- **The structs of the generated source are laid out.** -/
theorem LaysOut.laidOut_generated (h : LaysOut registry source context table) :
    ∃ generated, StructDecl.parseAll (generatedText registry context) = .ok generated ∧
      ∀ d ∈ generated, LaidOut table d :=
  h.laidOut (List.mem_append_right _ (List.mem_singleton.2 rfl))

theorem CompiledPass.Of.laysOut (h : pass.Of registry source index) :
    LaysOut registry source pass.context pass.layouts := h.layouts

/-- each layout of a pass was computed from the members that it places, over a part of the table -/
theorem CompiledPass.Of.laidOut_of_get? (h : pass.Of registry source index) {name : String} {layout : StructLayout}
    (hget : pass.layouts.get? name = some layout) :
    ∃ part : LayoutTable, part.layout (.ofMembers name layout.members) = .ok layout ∧ part.Within pass.layouts := by
  obtain ⟨decls, hdecls, hlayouts⟩ := h.layouts
  have hmerged := passDecls_merged hdecls
  obtain ⟨hl, hname⟩ := LayoutTable.mem_of_get? hget
  obtain ⟨before, d, -, hd, hcomputed⟩ := LayoutTable.computed_of_mem hlayouts layout hl
  obtain ⟨hdname, hdmembers⟩ := LayoutTable.layout_members hcomputed
  obtain ⟨part, layout', hlayout, hwithin, hget'⟩ := LayoutTable.layout_of_mem hmerged.nodup hlayouts hd
  rw [← hdname, hname] at hget'
  obtain rfl := Option.some.inj (hget.symm.trans hget')
  rw [hmerged.ofMembers d hd, ← hdname, hname, ← hdmembers] at hlayout
  exact ⟨part, hlayout, hwithin⟩

end Pass
end ShaderInterface
