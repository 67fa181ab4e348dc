/-
Which layout a declaration gets.

The extent of a type depends on the structs that a table finds (`KnownIn.extentOf`), and a table only ever grows at its
end, so what a type resolves to does not change later (`Within.extentOf`).

- `layout_of_mem`: of declarations with distinct names each has the layout that was computed for it, under its name.
- `layout_members`: a layout places the members of its declaration, in order.
- `layout_agree`: two tables that give the types of a declaration the same extents lay it out alike.
-/
import Mathlib.Data.List.Nodup
import ShaderInterface.Proofs.Layout.Declared

namespace ShaderInterface

open Outcome

/-- the members that a layout places, in order -/
def StructLayout.members (layout : StructLayout) : List Member := layout.placements.map (·.member)

namespace LayoutTable

/-! ## Growing tables -/

/-- `table` lays out the structs of `before` first, with the same constants -/
structure Within (before table : LayoutTable) : Prop where
  layouts : before.layouts <+: table.layouts
  constants : before.constants = table.constants

variable {before table : LayoutTable} {owner member owner' member' : String} {decl : StructDecl} {layout : StructLayout}

theorem Within.refl (table : LayoutTable) : table.Within table := ⟨List.prefix_rfl, rfl⟩

theorem within_append (table : LayoutTable) (layout : StructLayout) :
    table.Within { table with layouts := table.layouts ++ [layout] } := ⟨List.prefix_append _ _, rfl⟩

theorem Within.trans {after : LayoutTable} (h : before.Within table) (h' : table.Within after) :
    before.Within after := ⟨h.layouts.trans h'.layouts, h.constants.trans h'.constants⟩

theorem Within.get? (h : before.Within table) {name : String} (hget : before.get? name = some layout) :
    table.get? name = some layout := by
  obtain ⟨more, hmore⟩ := h.layouts
  rw [LayoutTable.get?, ← hmore, List.find?_append]
  rw [LayoutTable.get?] at hget
  rw [hget, Option.some_or]

/-- a struct that `before` finds is found by `table` as well, and the constants are the same -/
structure KnownIn (before table : LayoutTable) : Prop where
  get? : ∀ {name : String} {layout : StructLayout}, before.get? name = some layout → table.get? name = some layout
  constants : before.constants = table.constants

theorem Within.knownIn (h : before.Within table) : before.KnownIn table := ⟨h.get?, h.constants⟩

theorem KnownIn.namedExtent? (h : before.KnownIn table) {name : String} {e : Extent}
    (he : before.namedExtent? name = some e) : table.namedExtent? name = some e := by
  rw [namedExtent?_eq_some] at he ⊢
  rcases he with hprimitive | ⟨hnone, layout, hget, rfl⟩
  · exact .inl hprimitive
  · exact .inr ⟨hnone, layout, h.get? hget, rfl⟩

theorem KnownIn.elementCount (h : before.KnownIn table) {type : TypeExpr} {length : ArrayLength} {count : Option Nat}
    (hcount : before.elementCount type length = .ok count) : table.elementCount type length = .ok count := by
  cases length with
  | constant name => rwa [LayoutTable.elementCount, ← h.constants]
  | _ => exact hcount

/-- **The extent of a type depends on the structs that are found**, not on where they stand in the table; for whom it is
computed matters to errors only. -/
theorem KnownIn.extentOf (h : before.KnownIn table) {type : TypeExpr} {e : Extent}
    (he : before.extentOf owner member type = .ok e) : table.extentOf owner' member' type = .ok e := by
  induction type generalizing e with
  | named name => exact extentOf_named_eq_ok.2 (h.namedExtent? (extentOf_named_eq_ok.1 he))
  | array element length ih =>
    obtain ⟨count, hcount, hextent⟩ := extentOf_array_eq_ok.1 he
    refine extentOf_array_eq_ok.2 ⟨count, h.elementCount hcount, ?_⟩
    rcases hextent with hruntime | ⟨n, of, hn, hof, hlimit, hextent⟩
    · exact .inl hruntime
    · exact .inr ⟨n, of, hn, ih hof, hlimit, hextent⟩

/-- **The extent of a type is final.** -/
theorem Within.extentOf (h : before.Within table) {type : TypeExpr} {e : Extent}
    (he : before.extentOf owner member type = .ok e) : table.extentOf owner' member' type = .ok e :=
  h.knownIn.extentOf he

theorem Within.describe (h : before.Within table) {type : TypeExpr} {e : Extent}
    (he : before.extentOf owner member type = .ok e) : table.describe type = .ok e := h.extentOf he

/-! ## Members -/

theorem memberExtents_members {members : List Member} {extents : List (Member × Extent)}
    (h : table.memberExtents owner members = .ok extents) : extents.map Prod.fst = members := by
  induction members generalizing extents with
  | nil =>
    obtain rfl := Except.ok.inj h
    rfl
  | cons m rest ih =>
    obtain ⟨-, e, others, -, hothers, rfl⟩ := memberExtents_cons_eq_ok.1 h
    rw [List.map_cons, ih hothers]

/-- **A layout places the members of its declaration**, in order, under the declaration's name. -/
theorem layout_members (h : table.layout decl = .ok layout) :
    layout.name = decl.name ∧ layout.members = decl.members := by
  obtain ⟨block, extents, -, hextents, hbuild⟩ := layout_eq_ok.1 h
  obtain ⟨stop, hplace, -, -, -, hname, -⟩ := build_eq_ok.1 hbuild
  refine ⟨hname, ?_⟩
  calc layout.members
      = (layout.placements.map fun p => (p.member, p.size)).map Prod.fst := by
        rw [List.map_map]
        rfl
    _ = extents.map Prod.fst := by
        rw [place_members hplace, List.map_map]
        rfl
    _ = decl.members := memberExtents_members hextents

/-! ## Declarations with distinct names -/

theorem layout_of_foldlM {decls : List StructDecl}
    (hn : (before.layouts.map (·.name) ++ decls.map (·.name)).Nodup) (h : decls.foldlM add before = .ok table) :
    before.Within table ∧ ∀ d ∈ decls, ∃ (part : LayoutTable) (layout : StructLayout),
      part.layout d = .ok layout ∧ part.Within table ∧ table.get? d.name = some layout := by
  induction decls generalizing before with
  | nil =>
    rw [foldlM_nil_eq_ok] at h
    subst h
    exact ⟨.refl _, by simp⟩
  | cons d rest ih =>
    obtain ⟨after, hadd, hrest⟩ := foldlM_cons_eq_ok.1 h
    have hnew : d.name ∉ before.layouts.map (·.name) := by
      intro hmem
      exact (List.nodup_append.1 hn).2.2 _ hmem d.name (by simp) rfl
    rcases add_eq_ok.1 hadd with ⟨hold, -⟩ | ⟨hnone, layout, hlayout, rfl⟩
    · obtain ⟨old, hold⟩ := Option.isSome_iff_exists.1 hold
      exact absurd (List.mem_map.2 ⟨old, mem_of_get? hold⟩) hnew
    · have hname := (layout_members hlayout).1
      have hnames : ((before.layouts ++ [layout]).map (·.name) ++ rest.map (·.name)).Nodup := by
        simpa [hname] using hn
      obtain ⟨hwithin, hlater⟩ := ih hnames hrest
      have hbefore : before.Within table := (within_append before layout).trans hwithin
      refine ⟨hbefore, List.forall_mem_cons.2 ⟨⟨before, layout, hlayout, hbefore, hwithin.get? ?_⟩, hlater⟩⟩
      rw [LayoutTable.get?, List.find?_append, show before.layouts.find? (·.name = d.name) = none from hnone]
      simp [hname]

/-- **Each declaration has its layout** under its name, computed over a part of the table. -/
theorem layout_of_mem {constants : Table String Nat} {decls : List StructDecl} (hn : (decls.map (·.name)).Nodup)
    (h : ofDecls constants decls = .ok table) {d : StructDecl} (hd : d ∈ decls) :
    ∃ (part : LayoutTable) (layout : StructLayout),
      part.layout d = .ok layout ∧ part.Within table ∧ table.get? d.name = some layout :=
  (layout_of_foldlM (by simpa using hn) h).2 d hd

/-! ## Equal extents -/

section Congruence

variable {other : LayoutTable}

theorem maxAlign_congr {types : List TypeExpr} {block block' : Nat}
    (hagree : ∀ type ∈ types, ∀ e e', table.describe type = .ok e → other.describe type = .ok e' → e = e')
    (h : table.maxAlign decl types = .ok block) (h' : other.maxAlign decl types = .ok block') : block = block' := by
  induction types generalizing block block' with
  | nil => exact Except.ok.inj (h.symm.trans h')
  | cons type rest ih =>
    obtain ⟨e, align, he, halign, rfl⟩ := maxAlign_cons_eq_ok.1 h
    obtain ⟨e', align', he', halign', rfl⟩ := maxAlign_cons_eq_ok.1 h'
    obtain ⟨hhead, htail⟩ := List.forall_mem_cons.1 hagree
    rw [hhead e e' ((Within.refl table).describe he) ((Within.refl other).describe he'), ih htail halign halign']

theorem memberExtents_congr {members : List Member} {extents extents' : List (Member × Extent)}
    (hagree : ∀ m ∈ members, ∀ e e', table.describe m.type = .ok e → other.describe m.type = .ok e' → e = e')
    (h : table.memberExtents owner members = .ok extents) (h' : other.memberExtents owner members = .ok extents') :
    extents = extents' := by
  induction members generalizing extents extents' with
  | nil => exact Except.ok.inj (h.symm.trans h')
  | cons m rest ih =>
    obtain ⟨-, e, others, he, hothers, rfl⟩ := memberExtents_cons_eq_ok.1 h
    obtain ⟨-, e', others', he', hothers', rfl⟩ := memberExtents_cons_eq_ok.1 h'
    obtain ⟨hhead, htail⟩ := List.forall_mem_cons.1 hagree
    rw [hhead e e' ((Within.refl table).describe he) ((Within.refl other).describe he'), ih htail hothers hothers']

theorem mem_distinctAfter {α : Type} [DecidableEq α] {seen l : List α} {a : α} :
    a ∈ distinctAfter seen l ↔ a ∈ l ∧ a ∉ seen := by
  induction l generalizing seen with
  | nil => simp [distinctAfter]
  | cons b rest ih =>
    rw [distinctAfter]
    by_cases hb : b ∈ seen
    · rw [if_pos hb, ih, List.mem_cons]
      constructor
      · exact fun ⟨ha, hseen⟩ => ⟨.inr ha, hseen⟩
      · rintro ⟨rfl | ha, hseen⟩
        · exact absurd hb hseen
        · exact ⟨ha, hseen⟩
    · rw [if_neg hb, List.mem_cons, List.mem_cons, ih, List.mem_cons, not_or]
      constructor
      · rintro (rfl | ⟨ha, -, hseen⟩)
        · exact ⟨.inl rfl, hb⟩
        · exact ⟨.inr ha, hseen⟩
      · rintro ⟨rfl | ha, hseen⟩
        · exact .inl rfl
        · by_cases hab : a = b
          · exact .inl hab
          · exact .inr ⟨ha, hab, hseen⟩

/-- **Equal extents give equal layouts**: a struct is laid out alike over tables that give the types that it lists and
those of its members the same extents. -/
theorem layout_agree {layout' : StructLayout}
    (htypes : ∀ type ∈ decl.types, ∀ e e', table.describe type = .ok e → other.describe type = .ok e' → e = e')
    (hmembers : ∀ m ∈ decl.members, ∀ e e', table.describe m.type = .ok e → other.describe m.type = .ok e' → e = e')
    (h : table.layout decl = .ok layout) (h' : other.layout decl = .ok layout') : layout = layout' := by
  obtain ⟨block, extents, hblock, hextents, hbuild⟩ := layout_eq_ok.1 h
  obtain ⟨block', extents', hblock', hextents', hbuild'⟩ := layout_eq_ok.1 h'
  obtain rfl := maxAlign_congr htypes hblock hblock'
  obtain rfl := memberExtents_congr hmembers hextents hextents'
  exact Except.ok.inj (hbuild.symm.trans hbuild')

/-- a declaration of members lists their types only -/
theorem layout_congr {name : String} {members : List Member} {layout' : StructLayout}
    (hagree : ∀ m ∈ members, ∀ e e', table.describe m.type = .ok e → other.describe m.type = .ok e' → e = e')
    (h : table.layout (.ofMembers name members) = .ok layout)
    (h' : other.layout (.ofMembers name members) = .ok layout') : layout = layout' := by
  have htypes : ∀ type ∈ (StructDecl.ofMembers name members).types, ∀ e e', table.describe type = .ok e →
      other.describe type = .ok e' → e = e' := by
    intro type htype
    obtain ⟨m, hm, rfl⟩ := List.mem_map.1 (mem_distinctAfter.1 htype).1
    exact hagree m hm
  exact layout_agree htypes hagree h h'

end Congruence

end LayoutTable
end ShaderInterface
