/-
Which members are reported to lie elsewhere than WGSL puts them.

The report compares each offset with the member's place when every member is aligned to its own type, but with the sizes
of this library: a nested struct counts with its size rounded up to 16 bytes. WGSL rounds it up to its own alignment only,
so a member behind a nested struct of 4 bytes is 12 bytes off and not reported (`unreported_offset`).

- `confirms_of_endorsed`: a struct without reported members whose size by the WGSL rule is a multiple of 16 has the same
  extent by the rule.
- `ruleExtents_of_nested`: if all structs nested in a struct are of this kind, its members have the extents of the rule.
- `disagreements_exact`: then exactly the members that lie elsewhere than the rule puts them are reported.
-/
import Mathlib.Logic.Relation
import ShaderInterface.Proofs.Layout.WgslRule

namespace ShaderInterface

open Outcome

/-! ## Placing by the rule -/

section Placing

variable {owner : String} {block offset canonical finish : Nat} {members : List (Member × Extent)}
  {placements : List Placement}

/-- the canonical offsets follow the rule, with the extents that the members have here -/
theorem canonicalOffsets_of_place (h : place owner block offset canonical members = .ok (placements, finish)) :
    placements.map (·.canonicalOffset) = alignedOffsets canonical (members.map Prod.snd) := by
  induction members generalizing offset canonical placements with
  | nil =>
    obtain ⟨rfl, -⟩ := place_nil_eq_ok.1 h
    rfl
  | cons m rest ih =>
    obtain ⟨-, -, -, padding, others, -, hrest, rfl⟩ := place_cons_eq_ok.1 h
    rw [List.map_cons, List.map_cons, alignedOffsets, ih hrest]

/-- members that all lie where the rule puts them end where it ends them -/
theorem alignedStop_of_place (h : place owner block offset canonical members = .ok (placements, finish))
    (hstart : members = [] → canonical = offset) (hagree : ∀ p ∈ placements, p.canonicalOffset = p.offset) :
    alignedStop canonical (members.map Prod.snd) = finish := by
  induction members generalizing offset canonical placements with
  | nil =>
    obtain ⟨-, rfl⟩ := place_nil_eq_ok.1 h
    exact hstart rfl
  | cons m rest ih =>
    obtain ⟨-, -, -, padding, others, hpadding, hrest, rfl⟩ := place_cons_eq_ok.1 h
    obtain ⟨hm, hothers⟩ := List.forall_mem_cons.1 hagree
    have hm : Size.roundUp canonical m.2.align = offset := hm
    rw [List.map_cons, alignedStop]
    refine ih hrest ?_ hothers
    rintro rfl
    -- nothing is padded behind the last member
    obtain rfl : 0 = padding := Except.ok.inj hpadding
    omega

end Placing

namespace StructLayout

variable {layout : StructLayout}

theorem disagreements_eq_nil :
    layout.disagreements = [] ↔ ∀ p ∈ layout.placements, p.canonicalOffset = p.offset := by
  simp [disagreements]

/-- the reported members, by their canonical offsets -/
theorem disagreements_eq_zip {offsets : List Nat} (h : layout.placements.map (·.canonicalOffset) = offsets) :
    layout.disagreements = ((layout.placements.zip offsets).filter fun q => q.2 ≠ q.1.offset).map (·.1.member.name) := by
  subst h
  rw [disagreements]
  induction layout.placements with
  | nil => rfl
  | cons p rest ih =>
    by_cases hp : p.canonicalOffset = p.offset
    · simpa [hp] using ih
    · simpa [hp] using ih

end StructLayout

/-- no member is reported, and the size by the rule is a multiple of the granule -/
structure WgslTable.Endorses (wgsl : WgslTable) (layout : StructLayout) : Prop where
  agrees : layout.disagreements = []
  granular : ∀ rule ∈ wgsl.structs.get? layout.name, structGranule ∣ rule.extent.size

namespace LayoutTable

variable {table part : LayoutTable} {wgsl : WgslTable} {constants : Table String Nat} {decls : List StructDecl}
  {layout : StructLayout}

/-! ## Structs that the rule confirms -/

/-- the rule gives the types of the members the extents that the table gives them -/
def RuleExtents (table : LayoutTable) (wgsl : WgslTable) (layout : StructLayout) : Prop :=
  ∀ m ∈ layout.members, ∀ e, table.describe m.type = .ok e → wgsl.extent? m.type = some e

theorem RuleExtents.mapM_extent? (h : table.RuleExtents wgsl layout) {pairs : List (Member × Extent)}
    (hbuilds : table.Builds pairs layout) :
    layout.members.mapM (fun m => wgsl.extent? m.type) = some (pairs.map Prod.snd) := by
  have hpairs : ∀ m ∈ pairs, wgsl.extent? m.1.type = some m.2 := by
    intro m hm
    exact h m.1 (hbuilds.members ▸ List.mem_map_of_mem hm) m.2 (hbuilds.describe m hm)
  rw [← hbuilds.members]
  exact WgslTable.mapM_extent?_of_forall hpairs

/-- the layout by the rule, of a struct whose members have the extents of the rule -/
theorem RuleExtents.rule (h : table.RuleExtents wgsl layout) (hmirrors : table.Mirrors wgsl)
    (hl : layout ∈ table.layouts) {pairs : List (Member × Extent)} (hbuilds : table.Builds pairs layout) :
    wgsl.structs.get? layout.name = some (.ofExtents (pairs.map Prod.snd)) ∧
      largestAlign (pairs.map Prod.snd) = layout.maxAlign := by
  obtain ⟨extents, hextents, hrule, halign⟩ := hmirrors.layouts layout hl
  obtain rfl := Option.some.inj (hextents.symm.trans (h.mapM_extent? hbuilds))
  exact ⟨hrule, halign⟩

/-- **The rule confirms a struct that it endorses**: without reported members the last one ends where the rule ends it,
and rounding up to the struct's own alignment already gives a multiple of the granule. -/
theorem confirms_of_endorsed (h : ofDecls constants decls = .ok table) (hmirrors : table.Mirrors wgsl)
    (hl : layout ∈ table.layouts) (hextents : table.RuleExtents wgsl layout) (hendorses : wgsl.Endorses layout) :
    wgsl.Confirms layout := by
  obtain ⟨pairs, hbuilds, -⟩ := builds_of_mem h hl
  obtain ⟨hrule, halign⟩ := hextents.rule hmirrors hl hbuilds
  obtain ⟨stop, hplace, -, hsize, -⟩ := build_eq_ok.1 hbuilds.build
  have hagree := StructLayout.disagreements_eq_nil.1 hendorses.agrees
  have hstop : alignedStop 0 (pairs.map Prod.snd) = stop := alignedStop_of_place hplace (fun _ => rfl) hagree
  have hgranular : structGranule ∣ Size.roundUp stop layout.maxAlign := by
    have hdvd := hendorses.granular _ hrule
    rwa [WgslLayout.ofExtents, hstop, halign] at hdvd
  have hregular : layout.maxAlign ∈ [0, 2, 4, 8, 16] := (ofDecls_regular h layout hl).align
  have hround := Size.roundUp_eq_of_dvd (align_dvd_granule hregular) (by decide) hgranular
  rw [WgslTable.Confirms, hrule, Option.map_some, WgslLayout.ofExtents, hstop, halign, hround, ← hsize,
    StructLayout.extent]

/-! ## Nested structs -/

/-- `inner` is the struct that a member of `outer` names -/
def Nests (table : LayoutTable) (outer inner : StructLayout) : Prop :=
  ∃ m ∈ outer.members, table.named? m.type = some inner

/-- the struct that a counted type names is one of those that the type was resolved over -/
theorem mem_of_named? (hwithin : part.Within table) {owner member : String} {type : TypeExpr} {e : Extent}
    {inner : StructLayout} (hcounted : type.isCounted = true) (he : part.extentOf owner member type = .ok e)
    (hnamed : table.named? type = some inner) : inner ∈ part.layouts := by
  induction type generalizing e with
  | named name =>
    rw [named?, TypeExpr.leaf] at hnamed
    rcases namedExtent?_eq_some.1 (extentOf_named_eq_ok.1 he) with ⟨p, hp, -⟩ | ⟨hnone, found, hfound, -⟩
    · simp [hp] at hnamed
    · rw [hnone] at hnamed
      obtain rfl := Option.some.inj ((hwithin.get? hfound).symm.trans hnamed)
      exact (mem_of_get? hfound).1
  | array element length ih =>
    obtain ⟨hcounted, -, of, -, hof, -⟩ := extentOf_counted hcounted he
    exact ih hcounted hof hnamed

/-- **Extents of the rule spread outwards**: the members of a struct have them if the rule endorses whatever is nested in
the struct. The induction is along the declarations, since a struct nests only those in front of it. -/
theorem ruleExtents_of_nested (h : ofDecls constants decls = .ok table) (hmirrors : table.Mirrors wgsl)
    (hcounted : ∀ decl ∈ decls, decl.Counted) :
    ∀ layout ∈ table.layouts, (∀ inner, Relation.TransGen table.Nests layout inner → wgsl.Endorses inner) →
      table.RuleExtents wgsl layout := by
  refine foldlM_add_induct (fun t => ∀ layout ∈ t.layouts,
    (∀ inner, Relation.TransGen table.Nests layout inner → wgsl.Endorses inner) → table.RuleExtents wgsl layout) h
    (List.forall_mem_nil _) ?_
  intro part decl layout hd _ hlayout hwithin hall
  have hpart : part.Within table := (within_append part layout).trans hwithin
  refine List.forall_mem_append.2 ⟨hall, List.forall_mem_singleton.2 fun hnested m hm e he => ?_⟩
  obtain ⟨-, pairs, -, hpairs, -⟩ := layout_eq_ok.1 hlayout
  have hmem : m ∈ decl.members := (layout_members hlayout).2 ▸ hm
  obtain ⟨e', he'⟩ := extentOf_of_memberExtents hpairs m hmem
  obtain ⟨rule, hrule, -, hsame⟩ := hmirrors.extent? (hcounted decl hd m hmem) he
  obtain rfl : rule = e := by
    refine hsame fun inner hinner => ?_
    have hnests : table.Nests layout inner := ⟨m, hm, hinner⟩
    have hin := mem_of_named? hpart (hcounted decl hd m hmem) he' hinner
    have hextents := hall inner hin fun deeper hdeeper => hnested deeper (.head hnests hdeeper)
    exact confirms_of_endorsed h hmirrors (hpart.layouts.subset hin) hextents (hnested inner (.single hnests))
  exact hrule

end LayoutTable

/-- **Reports are exact around structs that the rule endorses.** Where no member of a nested struct is reported, and the
sizes of nested structs by the rule are multiples of 16, a struct reports exactly the members that lie elsewhere than the
rule puts them; without a report all lie where the rule puts them. -/
theorem disagreements_exact {constants : Table String Nat} {decls : List StructDecl} {table : LayoutTable}
    (h : LayoutTable.ofDecls constants decls = .ok table) (hdecls : ∀ decl ∈ decls, decl.ListsTypes ∧ decl.Counted)
    {layout : StructLayout} (hl : layout ∈ table.layouts)
    (hnested : ∀ inner, Relation.TransGen table.Nests layout inner → (WgslTable.ofDecls constants decls).Endorses inner) :
    ∃ rule, (WgslTable.ofDecls constants decls).structs.get? layout.name = some rule ∧
      layout.disagreements =
        ((layout.placements.zip rule.offsets).filter fun q => q.2 ≠ q.1.offset).map (·.1.member.name) ∧
      (layout.disagreements = [] ↔ layout.placements.map (·.offset) = rule.offsets) := by
  have hmirrors := LayoutTable.mirrors_ofDecls hdecls h
  have hextents := LayoutTable.ruleExtents_of_nested h hmirrors (fun decl hd => (hdecls decl hd).2) layout hl hnested
  obtain ⟨pairs, hbuilds, -⟩ := LayoutTable.builds_of_mem h hl
  obtain ⟨hrule, -⟩ := hextents.rule hmirrors hl hbuilds
  obtain ⟨stop, hplace, -⟩ := build_eq_ok.1 hbuilds.build
  have hoffsets : layout.placements.map (·.canonicalOffset) = (WgslLayout.ofExtents (pairs.map Prod.snd)).offsets :=
    canonicalOffsets_of_place hplace
  refine ⟨_, hrule, StructLayout.disagreements_eq_zip hoffsets, ?_⟩
  rw [StructLayout.disagreements_eq_nil, ← hoffsets, List.map_inj_left]
  exact forall₂_congr fun p _ => eq_comm

/-! ## A world with endorsed structs inside -/

/-- `Ray` and `Scene` have 32 and 64 bytes by the rule; the vector behind the time in `World` is not aligned -/
def worldSource : String :=
  "struct Ray \x7b at: vec3f, to: vec4f \x7d struct Scene \x7b rays: array<Ray,2> \x7d
   struct World \x7b time: f32, offset: vec3f, scene: Scene \x7d"

def worldDecls : List StructDecl :=
  [.ofMembers "Ray" [⟨"at", .named "vec3f"⟩, ⟨"to", .named "vec4f"⟩],
    .ofMembers "Scene" [⟨"rays", .array (.named "Ray") (.fixed 2)⟩],
    .ofMembers "World" [⟨"time", .named "f32"⟩, ⟨"offset", .named "vec3f"⟩, ⟨"scene", .named "Scene"⟩]]

def worldRay : StructLayout :=
  ⟨"Ray", 16, [⟨⟨"at", .named "vec3f"⟩, 0, 12, 0, 1⟩, ⟨⟨"to", .named "vec4f"⟩, 16, 16, 16, 0⟩], 32, 0⟩

def worldScene : StructLayout :=
  ⟨"Scene", 16, [⟨⟨"rays", .array (.named "Ray") (.fixed 2)⟩, 0, 64, 0, 0⟩], 64, 0⟩

def worldLayout : StructLayout :=
  ⟨"World", 16, [⟨⟨"time", .named "f32"⟩, 0, 4, 0, 0⟩, ⟨⟨"offset", .named "vec3f"⟩, 4, 12, 16, 0⟩,
    ⟨⟨"scene", .named "Scene"⟩, 16, 64, 32, 0⟩], 80, 0⟩

def worldTable : LayoutTable := ⟨[worldRay, worldScene, worldLayout], .empty⟩

theorem nested_in_world {inner : StructLayout} (h : Relation.TransGen worldTable.Nests worldLayout inner) :
    inner ∈ [worldRay, worldScene] := by
  have hstep : ∀ outer ∈ worldTable.layouts, ∀ m ∈ outer.members, ∀ inner ∈ worldTable.named? m.type,
      inner ∈ [worldRay, worldScene] := by decide +kernel
  induction h with
  | single hnests =>
    obtain ⟨m, hm, hnamed⟩ := hnests
    exact hstep worldLayout (by decide) m hm _ hnamed
  | @tail outer inner _ hnests ih =>
    obtain ⟨m, hm, hnamed⟩ := hnests
    have houter : outer ∈ worldTable.layouts := List.mem_append_left [worldLayout] ih
    exact hstep outer houter m hm _ hnamed

theorem parseAll_world : StructDecl.parseAll worldSource = .ok worldDecls := by decide +kernel

theorem world_disagreements :
    ∃ rule, StructDecl.parseAll worldSource = .ok worldDecls ∧
      LayoutTable.ofDecls .empty worldDecls = .ok worldTable ∧
      (WgslTable.ofDecls .empty worldDecls).structs.get? "World" = some rule ∧ rule.offsets = [0, 16, 32] ∧
      worldLayout.disagreements =
        ((worldLayout.placements.zip rule.offsets).filter fun q => q.2 ≠ q.1.offset).map (·.1.member.name) ∧
      worldLayout.disagreements = ["offset", "scene"] := by
  have h : LayoutTable.ofDecls .empty worldDecls = .ok worldTable := by decide +kernel
  have hcounted : ∀ decl ∈ worldDecls, ∀ m ∈ decl.members, m.type.isCounted = true := by decide
  have hdecls : ∀ decl ∈ worldDecls, decl.ListsTypes ∧ decl.Counted := fun decl hd =>
    ⟨listsTypes_of_parseAll parseAll_world decl hd, hcounted decl hd⟩
  have hagrees : ∀ inner ∈ [worldRay, worldScene], inner.disagreements = [] := by decide
  have hgranular : ∀ inner ∈ [worldRay, worldScene],
      ∀ rule ∈ (WgslTable.ofDecls .empty worldDecls).structs.get? inner.name, structGranule ∣ rule.extent.size := by
    decide +kernel
  have hworld : worldLayout ∈ worldTable.layouts := by decide
  obtain ⟨rule, hrule, hexact, -⟩ := disagreements_exact h hdecls hworld fun inner hinner =>
    ⟨hagrees inner (nested_in_world hinner), hgranular inner (nested_in_world hinner)⟩
  have hplaces : ((WgslTable.ofDecls .empty worldDecls).structs.get? worldLayout.name).map (·.offsets) =
      some [0, 16, 32] := by decide +kernel
  rw [hrule] at hplaces
  exact ⟨rule, parseAll_world, h, hrule, Option.some.inj hplaces, hexact, by decide⟩

/-! ## A member that is not reported -/

/-- a struct of 4 bytes that the library pads to 16 -/
def paddedSource : String := "struct Inner \x7b a: f32 \x7d struct Outer \x7b inner: Inner, b: f32 \x7d"

/-- `b` is 12 bytes behind its place by the rule, and no struct of the source reports a member -/
theorem unreported_offset :
    ∃ decls table rule, StructDecl.parseAll paddedSource = .ok decls ∧ (∀ decl ∈ decls, decl.Counted) ∧
      LayoutTable.ofDecls .empty decls = .ok table ∧ (∀ layout ∈ table.layouts, layout.disagreements = []) ∧
      (table.get? "Outer").map (fun layout => layout.placements.map (·.offset)) = some [0, 16] ∧
      (WgslTable.ofDecls .empty decls).structs.get? "Outer" = some rule ∧ rule.offsets = [0, 4] := by
  obtain ⟨decls, hparse, hcounted, hrest⟩ := exists_of_any (x := StructDecl.parseAll paddedSource)
    (p := fun decls => (∀ decl ∈ decls, ∀ m ∈ decl.members, m.type.isCounted = true) ∧
      (LayoutTable.ofDecls .empty decls).toOption.any (fun table =>
        (∀ layout ∈ table.layouts, layout.disagreements = []) ∧
        (table.get? "Outer").map (fun layout => layout.placements.map (·.offset)) = some [0, 16]) = true ∧
      ((WgslTable.ofDecls .empty decls).structs.get? "Outer").map (·.offsets) = some [0, 4]) (by decide +kernel)
  obtain ⟨htable, hrule⟩ := hrest
  obtain ⟨table, h, hagrees, hoffsets⟩ := exists_of_any htable
  obtain ⟨rule, hget, hplaces⟩ := Option.map_eq_some_iff.1 hrule
  exact ⟨decls, table, rule, hparse, hcounted, h, hagrees, hoffsets, hget, hplaces⟩

end ShaderInterface
