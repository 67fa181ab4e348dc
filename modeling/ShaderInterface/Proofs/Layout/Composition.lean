/-
Layouts compose: what a struct is built from keeps its size and alignment.

Member sizes are taken while the table grows and sizes of buffers once it is complete. The two agree, since a layout is
computed over a part of the final table (`laidOut_of_mem`).

- `foldlM_add_induct`: what each added layout keeps, told which final table it will be part of.
- `builds_of_mem`: each layout is what its members make with the extents that the final table gives their types.
- `layouts_compose`: layouts of a front of the declarations, and descriptions of types by them, are final; every member
  has the size of its type, and the alignment of a struct is the largest among its members.
-/
import Mathlib.Data.List.Forall2
import ShaderInterface.Proofs.Layout.Resolution
import ShaderInterface.Proofs.Layout.Tiling
import ShaderInterface.Proofs.Source.StructSearch

namespace ShaderInterface

open Outcome

/-- the largest of the alignments, 0 of none -/
def largestAlign (extents : List Extent) : Nat := (extents.map (·.align)).foldr max 0

theorem le_largestAlign {extents : List Extent} {e : Extent} (he : e ∈ extents) : e.align ≤ largestAlign extents := by
  induction extents with
  | nil => simp at he
  | cons other rest ih =>
    rcases List.mem_cons.1 he with rfl | he
    · exact Nat.le_max_left _ _
    · exact Nat.le_trans (ih he) (Nat.le_max_right _ _)

theorem largestAlign_le {extents : List Extent} {bound : Nat} (h : ∀ e ∈ extents, e.align ≤ bound) :
    largestAlign extents ≤ bound := by
  induction extents with
  | nil => exact Nat.zero_le _
  | cons e rest ih =>
    obtain ⟨he, hrest⟩ := List.forall_mem_cons.1 h
    exact Nat.max_le.2 ⟨he, ih hrest⟩

/-- the declaration lists each type of its members once, in order of first appearance -/
def StructDecl.ListsTypes (decl : StructDecl) : Prop := decl.types = distinctAfter [] (decl.members.map (·.type))

/-- as every declaration of a source does -/
theorem listsTypes_of_parseAll {source : String} {decls : List StructDecl} (h : StructDecl.parseAll source = .ok decls) :
    ∀ decl ∈ decls, decl.ListsTypes := by
  intro decl hd
  have hmembers : decl = .ofMembers decl.name decl.members := (parseAll_eq_ok.1 h).ofMembers decl hd
  exact congrArg StructDecl.types hmembers

namespace LayoutTable

variable {before table part : LayoutTable} {constants : Table String Nat} {decls : List StructDecl}
  {decl : StructDecl} {layout : StructLayout}

/-! ## Parts of the final table -/

theorem within_of_foldlM (h : decls.foldlM add before = .ok table) : before.Within table := by
  refine foldlM_induct (fun t => before.Within t) h (.refl before) ?_
  intro part decl after _ hstep hwithin
  rcases add_eq_ok.1 hstep with ⟨-, rfl⟩ | ⟨-, layout, -, rfl⟩
  · exact hwithin
  · exact hwithin.trans (within_append part layout)

/-- **What each added layout keeps holds of the final table**; a layout may be added knowing that it stays. -/
theorem foldlM_add_induct (P : LayoutTable → Prop) (h : decls.foldlM add before = .ok table) (h0 : P before)
    (hadd : ∀ part decl layout, decl ∈ decls → part.get? decl.name = none → part.layout decl = .ok layout →
      LayoutTable.Within { part with layouts := part.layouts ++ [layout] } table → P part →
        P { part with layouts := part.layouts ++ [layout] }) : P table := by
  induction decls generalizing before with
  | nil =>
    rw [foldlM_nil_eq_ok] at h
    exact h ▸ h0
  | cons d rest ih =>
    obtain ⟨after, hstep, hrest⟩ := foldlM_cons_eq_ok.1 h
    refine ih hrest ?_ fun part decl layout hd => hadd part decl layout (List.mem_cons_of_mem d hd)
    rcases add_eq_ok.1 hstep with ⟨-, rfl⟩ | ⟨hnone, layout, hlayout, rfl⟩
    · exact h0
    · exact hadd before d layout List.mem_cons_self hnone hlayout (within_of_foldlM hrest) h0

/-- **Each layout was computed over a part of the final table**, from a declaration of its name. -/
theorem laidOut_of_mem (h : ofDecls constants decls = .ok table) :
    ∀ layout ∈ table.layouts, ∃ (part : LayoutTable) (decl : StructDecl),
      decl ∈ decls ∧ part.Within table ∧ part.layout decl = .ok layout := by
  refine foldlM_add_induct (fun t => ∀ layout ∈ t.layouts, ∃ (part : LayoutTable) (decl : StructDecl),
    decl ∈ decls ∧ part.Within table ∧ part.layout decl = .ok layout) h (List.forall_mem_nil _) ?_
  intro part decl new hd _ hnew hwithin hall
  have hpart : part.Within table := (within_append part new).trans hwithin
  exact List.forall_mem_append.2 ⟨hall, List.forall_mem_singleton.2 ⟨part, decl, hd, hpart, hnew⟩⟩

/-! ## Layouts seen from the final table -/

/-- the layout is what the members make with the extents that the table gives their types -/
structure Builds (table : LayoutTable) (extents : List (Member × Extent)) (layout : StructLayout) : Prop where
  members : extents.map Prod.fst = layout.members
  describe : ∀ m ∈ extents, table.describe m.1.type = .ok m.2
  build : StructLayout.build layout.name layout.maxAlign extents = .ok layout

theorem describe_of_memberExtents {owner : String} {members : List Member} {extents : List (Member × Extent)}
    (hwithin : part.Within table) (h : part.memberExtents owner members = .ok extents) :
    ∀ m ∈ extents, table.describe m.1.type = .ok m.2 := by
  induction members generalizing extents with
  | nil =>
    obtain rfl := Except.ok.inj h
    exact List.forall_mem_nil _
  | cons m rest ih =>
    obtain ⟨-, e, others, he, hothers, rfl⟩ := memberExtents_cons_eq_ok.1 h
    exact List.forall_mem_cons.2 ⟨hwithin.describe he, ih hothers⟩

/-- the largest alignment among types is the alignment of one of them, and no other is larger -/
theorem maxAlign_spec {types : List TypeExpr} {block : Nat} (hwithin : part.Within table)
    (h : part.maxAlign decl types = .ok block) :
    (∀ type ∈ types, ∃ e, table.describe type = .ok e ∧ e.align ≤ block) ∧
      (block = 0 ∨ ∃ type ∈ types, ∃ e, table.describe type = .ok e ∧ e.align = block) := by
  induction types generalizing block with
  | nil =>
    obtain rfl := Except.ok.inj h
    exact ⟨List.forall_mem_nil _, .inl rfl⟩
  | cons type rest ih =>
    obtain ⟨e, others, he, hothers, rfl⟩ := maxAlign_cons_eq_ok.1 h
    have hdescribe := hwithin.describe he
    obtain ⟨hbound, hreached⟩ := ih hothers
    refine ⟨List.forall_mem_cons.2 ⟨⟨e, hdescribe, Nat.le_max_left _ _⟩, ?_⟩, ?_⟩
    · intro other hother
      obtain ⟨e', he', hle⟩ := hbound other hother
      exact ⟨e', he', Nat.le_trans hle (Nat.le_max_right _ _)⟩
    · rcases Nat.le_total others e.align with hle | hle
      · exact .inr ⟨type, List.mem_cons_self, e, hdescribe, (Nat.max_eq_left hle).symm⟩
      · rw [Nat.max_eq_right hle]
        rcases hreached with hzero | ⟨other, hother, hreached⟩
        · exact .inl hzero
        · exact .inr ⟨other, List.mem_cons_of_mem type hother, hreached⟩

/-- the largest alignment among the listed types is the largest among the members -/
theorem maxAlign_eq_largestAlign (hwithin : part.Within table) (hlists : decl.ListsTypes) {block : Nat}
    (h : part.maxAlign decl decl.types = .ok block) {extents : List (Member × Extent)}
    (hmembers : extents.map Prod.fst = decl.members)
    (hdescribe : ∀ m ∈ extents, table.describe m.1.type = .ok m.2) :
    block = largestAlign (extents.map Prod.snd) := by
  have htypes : ∀ type, type ∈ decl.types ↔ ∃ m ∈ extents, m.1.type = type := by
    intro type
    rw [hlists, mem_distinctAfter, ← hmembers, List.map_map, List.mem_map]
    simp
  obtain ⟨hbound, hreached⟩ := maxAlign_spec hwithin h
  apply Nat.le_antisymm
  · rcases hreached with rfl | ⟨type, htype, e, he, rfl⟩
    · exact Nat.zero_le _
    · obtain ⟨m, hm, rfl⟩ := (htypes type).1 htype
      obtain rfl := Except.ok.inj (he.symm.trans (hdescribe m hm))
      exact le_largestAlign (List.mem_map.2 ⟨m, hm, rfl⟩)
  · refine largestAlign_le (List.forall_mem_map.2 fun m hm => ?_)
    obtain ⟨e, he, hle⟩ := hbound m.1.type ((htypes _).2 ⟨m, hm, rfl⟩)
    obtain rfl := Except.ok.inj (he.symm.trans (hdescribe m hm))
    exact hle

/-- **Each layout is what its members make in the final table.** -/
theorem builds_of_mem (h : ofDecls constants decls = .ok table) (hl : layout ∈ table.layouts) :
    ∃ extents, table.Builds extents layout ∧
      ((∀ decl ∈ decls, decl.name = layout.name → decl.ListsTypes) →
        layout.maxAlign = largestAlign (extents.map Prod.snd)) := by
  obtain ⟨part, decl, hd, hwithin, hlayout⟩ := laidOut_of_mem h layout hl
  obtain ⟨hname, hmembers⟩ := layout_members hlayout
  obtain ⟨block, extents, hblock, hextents, hbuild⟩ := layout_eq_ok.1 hlayout
  obtain ⟨-, -, -, -, -, -, halign⟩ := build_eq_ok.1 hbuild
  have hfst := memberExtents_members hextents
  have hdescribe := describe_of_memberExtents hwithin hextents
  refine ⟨extents, ⟨hfst.trans hmembers.symm, hdescribe, by rwa [hname, halign]⟩, fun hlists => ?_⟩
  rw [halign]
  exact maxAlign_eq_largestAlign hwithin (hlists decl hd hname.symm) hblock hfst hdescribe

/-- each member has the size of its type -/
theorem Builds.sizes {extents : List (Member × Extent)} (h : table.Builds extents layout) :
    List.Forall₂ (fun p e => table.describe p.member.type = .ok e ∧ e.size = p.size) layout.placements
      (extents.map Prod.snd) := by
  obtain ⟨stop, hplace, -⟩ := build_eq_ok.1 h.build
  have hplaced := (place_members hplace).symm
  rw [← List.forall₂_eq_eq_eq, List.forall₂_map_left_iff, List.forall₂_map_right_iff] at hplaced
  have hdescribed := ((List.forall₂_and_left _ _).2 ⟨h.describe, hplaced⟩).flip
  rw [List.forall₂_map_right_iff]
  refine hdescribed.imp ?_
  rintro p m ⟨hm, hpm⟩
  obtain ⟨hmember, hsize⟩ := Prod.mk.inj hpm
  exact ⟨hmember ▸ hm, hsize⟩

end LayoutTable

/-- **Layouts compose.** The layouts of a front of the declarations are a front of all layouts, and what it says of a
type is final. In the complete table each member of a struct has the size of its type, and the alignment of a struct
whose declaration lists the types of its members is the largest among them. -/
theorem layouts_compose {constants : Table String Nat} {decls : List StructDecl} {table : LayoutTable}
    (h : LayoutTable.ofDecls constants decls = .ok table) :
    (∀ front, front <+: decls → ∃ part, LayoutTable.ofDecls constants front = .ok part ∧
        part.layouts <+: table.layouts ∧
        ∀ type extent, part.describe type = .ok extent → table.describe type = .ok extent) ∧
      ∀ layout ∈ table.layouts, ∃ extents,
        List.Forall₂ (fun p e => table.describe p.member.type = .ok e ∧ e.size = p.size) layout.placements extents ∧
        ((∀ decl ∈ decls, decl.name = layout.name → decl.ListsTypes) → layout.maxAlign = largestAlign extents) := by
  constructor
  · rintro front ⟨back, rfl⟩
    rw [LayoutTable.ofDecls, List.foldlM_append] at h
    obtain ⟨part, hpart, hback⟩ := bind_eq_ok.1 h
    have hwithin := LayoutTable.within_of_foldlM hback
    exact ⟨part, hpart, hwithin.layouts, fun type extent he => hwithin.describe he⟩
  · intro layout hl
    obtain ⟨extents, hbuilds, halign⟩ := LayoutTable.builds_of_mem h hl
    exact ⟨_, hbuilds.sizes, halign⟩

theorem scene_layouts_compose :
    ∃ table, LayoutTable.ofDecls sceneConstants sceneDecls = .ok table ∧ sceneLayout ∈ table.layouts ∧
      (∃ part, LayoutTable.ofDecls sceneConstants (sceneDecls.take 1) = .ok part ∧ part.layouts <+: table.layouts) ∧
      ∃ extents,
        List.Forall₂ (fun p e => table.describe p.member.type = .ok e ∧ e.size = p.size) sceneLayout.placements extents ∧
        sceneLayout.maxAlign = largestAlign extents := by
  have hscene : sceneLayout ∈ [lightLayout, sceneLayout] := List.mem_cons_of_mem _ List.mem_cons_self
  have hlists : ∀ decl ∈ sceneDecls, decl.types = distinctAfter [] (decl.members.map (·.type)) := by decide
  obtain ⟨hfront, hlayouts⟩ := layouts_compose ofDecls_scene
  obtain ⟨part, hpart, hprefix, -⟩ := hfront (sceneDecls.take 1) (List.take_prefix _ _)
  obtain ⟨extents, hsizes, halign⟩ := hlayouts sceneLayout hscene
  exact ⟨_, ofDecls_scene, hscene, ⟨part, hpart, hprefix⟩, extents, hsizes, halign fun decl hd _ => hlists decl hd⟩

end ShaderInterface
