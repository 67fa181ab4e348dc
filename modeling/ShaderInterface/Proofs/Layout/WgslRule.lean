/-
The layout rule of WGSL, computed beside the layouts of this library.

WGSL aligns each member of a struct to the member's own type and rounds the struct up to its largest alignment, where
this library packs members up to block boundaries and rounds every struct up to 16 bytes. `WgslTable.ofDecls` is that
rule over a list of declarations, in unbounded numbers; a runtime array has no WGSL extent.

- `mirrors_ofDecls`: declarations without runtime arrays that are laid out have a layout by the WGSL rule as well, under
  the same names and with the same alignments.
- `Mirrors.extent?`: a type has the same extent in both if the struct that it names does.
-/
import ShaderInterface.Proofs.Layout.Composition

namespace ShaderInterface

open Outcome

/-! ## The rule -/

/-- where the members of a struct lie, and the extent of the struct -/
structure WgslLayout where
  offsets : List Nat
  extent : Extent
deriving DecidableEq, Repr

/-- the offsets of members placed from `stop` on, each aligned to its own type -/
def alignedOffsets : Nat → List Extent → List Nat
  | _, [] => []
  | stop, e :: rest => Size.roundUp stop e.align :: alignedOffsets (Size.roundUp stop e.align + e.size) rest

/-- the end of the last of these members -/
def alignedStop : Nat → List Extent → Nat
  | stop, [] => stop
  | stop, e :: rest => alignedStop (Size.roundUp stop e.align + e.size) rest

/-- the layout of a struct whose members have these extents -/
def WgslLayout.ofExtents (extents : List Extent) : WgslLayout :=
  ⟨alignedOffsets 0 extents, Size.roundUp (alignedStop 0 extents) (largestAlign extents), largestAlign extents⟩

/-- the layouts of structs by name, with the constants that array lengths may name -/
structure WgslTable where
  structs : Table String WgslLayout := .empty
  constants : Table String Nat := .empty

namespace WgslTable

def elementCount? (table : WgslTable) : ArrayLength → Option Nat
  | .fixed count => some count
  | .constant name => table.constants.get? name
  | .runtime => none

/-- the extent of a type: a primitive, a struct, or so many elements at their aligned stride -/
def extent? (table : WgslTable) : TypeExpr → Option Extent
  | .named name => ((Primitive.ofName? name).map (·.extent)).or ((table.structs.get? name).map (·.extent))
  | .array element length =>
    (table.elementCount? length).bind fun count =>
      (table.extent? element).map fun e => ⟨count * Size.roundUp e.size e.align, e.align⟩

def layout? (table : WgslTable) (members : List Member) : Option WgslLayout :=
  (members.mapM fun m => table.extent? m.type).map .ofExtents

/-- the table with one more struct; the first of a name counts -/
def add (table : WgslTable) (decl : StructDecl) : WgslTable :=
  match table.structs.get? decl.name, table.layout? decl.members with
  | none, some layout => { table with structs := table.structs.insert decl.name layout }
  | _, _ => table

def ofDecls (constants : Table String Nat) (decls : List StructDecl) : WgslTable := decls.foldl add ⟨.empty, constants⟩

end WgslTable

/-! ## Declarations without runtime arrays -/

/-- no runtime array is in the type, at any depth -/
def TypeExpr.isCounted : TypeExpr → Bool
  | .named _ => true
  | .array _ .runtime => false
  | .array element _ => element.isCounted

/-- no member holds a runtime array -/
def StructDecl.Counted (decl : StructDecl) : Prop := ∀ m ∈ decl.members, m.type.isCounted = true

theorem TypeExpr.isCounted_array {element : TypeExpr} {length : ArrayLength}
    (h : (TypeExpr.array element length).isCounted = true) : element.isCounted = true ∧ length ≠ .runtime := by
  cases length with
  | runtime => simp [isCounted] at h
  | _ => exact ⟨h, nofun⟩

/-! ## Growing tables -/

namespace WgslTable

variable {wgsl : WgslTable} {name : String} {rule : WgslLayout}

/-- a new struct changes no extent that the table has -/
theorem extent?_insert (hnew : wgsl.structs.get? name = none) {type : TypeExpr} {e : Extent}
    (he : wgsl.extent? type = some e) :
    WgslTable.extent? { wgsl with structs := wgsl.structs.insert name rule } type = some e := by
  induction type generalizing e with
  | named other =>
    simp only [extent?, Option.or_eq_some_iff] at he ⊢
    rcases he with he | ⟨hnone, he⟩
    · exact .inl he
    · obtain ⟨found, hfound, rfl⟩ := Option.map_eq_some_iff.1 he
      have hne : other ≠ name := by
        rintro rfl
        rw [hnew] at hfound
        simp at hfound
      refine .inr ⟨hnone, Option.map_eq_some_iff.2 ⟨found, ?_, rfl⟩⟩
      rw [Table.get?_insert, if_neg hne, hfound]
  | array element length ih =>
    obtain ⟨count, hcount, he⟩ := Option.bind_eq_some_iff.1 he
    obtain ⟨of, hof, rfl⟩ := Option.map_eq_some_iff.1 he
    have hcount' : WgslTable.elementCount? { wgsl with structs := wgsl.structs.insert name rule } length = some count := by
      cases length <;> exact hcount
    rw [extent?, hcount', Option.bind_some, ih hof, Option.map_some]

theorem mapM_extent?_of_forall {pairs : List (Member × Extent)} (h : ∀ m ∈ pairs, wgsl.extent? m.1.type = some m.2) :
    (pairs.map Prod.fst).mapM (fun m => wgsl.extent? m.type) = some (pairs.map Prod.snd) := by
  induction pairs with
  | nil => rfl
  | cons m rest ih =>
    obtain ⟨hm, hrest⟩ := List.forall_mem_cons.1 h
    rw [List.map_cons, List.mapM_cons, hm, ih hrest]
    rfl

theorem mapM_extent?_insert (hnew : wgsl.structs.get? name = none) {members : List Member} {extents : List Extent}
    (h : members.mapM (fun m => wgsl.extent? m.type) = some extents) :
    members.mapM (fun m => WgslTable.extent? { wgsl with structs := wgsl.structs.insert name rule } m.type)
      = some extents := by
  induction members generalizing extents with
  | nil => exact h
  | cons m rest ih =>
    simp only [List.mapM_cons, Option.bind_eq_bind, Option.bind_eq_some_iff, Option.pure_def] at h ⊢
    obtain ⟨e, he, others, hothers, hextents⟩ := h
    exact ⟨e, extent?_insert hnew he, others, ih hothers, hextents⟩

end WgslTable

/-! ## Layouts beside the rule -/

/-- the rule gives the struct the same extent -/
def WgslTable.Confirms (wgsl : WgslTable) (layout : StructLayout) : Prop :=
  (wgsl.structs.get? layout.name).map (·.extent) = some layout.extent

namespace LayoutTable

/-- the struct that a type names below all arrays -/
def named? (table : LayoutTable) (type : TypeExpr) : Option StructLayout :=
  if (Primitive.ofName? type.leaf).isSome then none else table.get? type.leaf

theorem mem_of_named?_eq_some {table : LayoutTable} {type : TypeExpr} {layout : StructLayout}
    (h : table.named? type = some layout) : layout ∈ table.layouts := by
  rw [named?] at h
  split at h
  · simp at h
  · exact (mem_of_get? h).1

/-- each struct has a layout by the rule with the same alignment, and the rule has no others -/
structure Mirrors (table : LayoutTable) (wgsl : WgslTable) : Prop where
  layouts : ∀ layout ∈ table.layouts, ∃ extents,
    layout.members.mapM (fun m => wgsl.extent? m.type) = some extents ∧
      wgsl.structs.get? layout.name = some (.ofExtents extents) ∧ largestAlign extents = layout.maxAlign
  unknown : ∀ name, table.get? name = none → wgsl.structs.get? name = none
  constants : table.constants = wgsl.constants

variable {table after : LayoutTable} {wgsl : WgslTable} {decl : StructDecl}

/-- a constant has the same value on both sides, and a runtime array no count on either -/
theorem Mirrors.elementCount? (h : table.Mirrors wgsl) {type : TypeExpr} {length : ArrayLength} {count : Option Nat}
    (hcount : table.elementCount type length = .ok count) : wgsl.elementCount? length = count := by
  cases length with
  | constant name =>
    rw [WgslTable.elementCount?, ← h.constants]
    rw [elementCount] at hcount
    cases hget : table.constants.get? name with
    | some n =>
      rw [hget] at hcount
      exact Except.ok.inj hcount
    | none =>
      rw [hget] at hcount
      simp at hcount
  | _ => exact Except.ok.inj hcount

/-- a counted array has the extent of its elements -/
theorem extentOf_counted {owner member : String} {element : TypeExpr} {length : ArrayLength} {e : Extent}
    (hcounted : (TypeExpr.array element length).isCounted = true)
    (he : table.extentOf owner member (.array element length) = .ok e) :
    element.isCounted = true ∧ ∃ n of, table.elementCount (.array element length) length = .ok (some (n + 1)) ∧
      table.extentOf owner member element = .ok of ∧ e = ⟨Size.roundUp of.size of.align * (n + 1), of.align⟩ := by
  obtain ⟨helement, hlength⟩ := TypeExpr.isCounted_array hcounted
  obtain ⟨count, hcount, ⟨rfl, -⟩ | ⟨n, of, rfl, hof, -, rfl⟩⟩ := extentOf_array_eq_ok.1 he
  · cases length with
    | runtime => exact absurd rfl hlength
    | fixed count => simp [elementCount] at hcount
    | constant name =>
      rw [elementCount] at hcount
      split at hcount <;> simp at hcount
  · exact ⟨helement, n, of, hcount, hof, rfl⟩

/-- **A counted type has an extent by the rule**, of the same alignment, and the same extent if the rule confirms the
struct that the type names. -/
theorem Mirrors.extent? (h : table.Mirrors wgsl) {owner member : String} {type : TypeExpr} {e : Extent}
    (hcounted : type.isCounted = true) (he : table.extentOf owner member type = .ok e) :
    ∃ e', wgsl.extent? type = some e' ∧ e'.align = e.align ∧
      ((∀ inner, table.named? type = some inner → wgsl.Confirms inner) → e' = e) := by
  induction type generalizing e with
  | named name =>
    rw [WgslTable.extent?]
    rcases namedExtent?_eq_some.1 (extentOf_named_eq_ok.1 he) with ⟨p, hp, rfl⟩ | ⟨hnone, layout, hget, rfl⟩
    · refine ⟨p.extent, ?_, rfl, fun _ => rfl⟩
      rw [hp, Option.map_some, Option.some_or]
    · obtain ⟨hl, rfl⟩ := mem_of_get? hget
      obtain ⟨extents, -, hrule, halign⟩ := h.layouts layout hl
      refine ⟨(WgslLayout.ofExtents extents).extent, ?_, halign, fun hinner => ?_⟩
      · rw [hnone, hrule, Option.map_none, Option.none_or, Option.map_some]
      · have hnamed : table.named? (.named layout.name) = some layout := by
          rw [named?, TypeExpr.leaf, hnone, hget]
          rfl
        have hconfirms := hinner layout hnamed
        rw [WgslTable.Confirms, hrule] at hconfirms
        exact Option.some.inj hconfirms
  | array element length ih =>
    obtain ⟨hcounted, n, of, hcount, hof, rfl⟩ := extentOf_counted hcounted he
    obtain ⟨of', hof', halign, hinner⟩ := ih hcounted hof
    refine ⟨⟨(n + 1) * Size.roundUp of'.size of'.align, of'.align⟩, ?_, halign, fun hnamed => ?_⟩
    · rw [WgslTable.extent?, h.elementCount? hcount, Option.bind_some, hof', Option.map_some]
    · rw [hinner hnamed, Nat.mul_comm]

/-- the members of a struct that is laid out have extents by the rule, of the same alignments -/
theorem Mirrors.mapM_extent? (h : table.Mirrors wgsl) {owner : String} {members : List Member}
    {pairs : List (Member × Extent)} (hcounted : ∀ m ∈ members, m.type.isCounted = true)
    (hpairs : table.memberExtents owner members = .ok pairs) :
    ∃ extents, members.mapM (fun m => wgsl.extent? m.type) = some extents ∧
      extents.map (·.align) = pairs.map (·.2.align) := by
  induction members generalizing pairs with
  | nil =>
    obtain rfl := Except.ok.inj hpairs
    exact ⟨[], rfl, rfl⟩
  | cons m rest ih =>
    obtain ⟨-, e, others, he, hothers, rfl⟩ := memberExtents_cons_eq_ok.1 hpairs
    obtain ⟨hm, hrest⟩ := List.forall_mem_cons.1 hcounted
    obtain ⟨e', he', halign, -⟩ := h.extent? hm he
    obtain ⟨extents, hextents, haligns⟩ := ih hrest hothers
    refine ⟨e' :: extents, ?_, ?_⟩
    · rw [List.mapM_cons, he', hextents]
      rfl
    · rw [List.map_cons, List.map_cons, halign, haligns]

/-- a struct that is laid out has the same largest alignment by the rule -/
theorem Mirrors.largestAlign_of_layout (h : table.Mirrors wgsl) (hlists : decl.ListsTypes) (hcounted : decl.Counted)
    {layout : StructLayout} (hlayout : table.layout decl = .ok layout) :
    ∃ extents, decl.members.mapM (fun m => wgsl.extent? m.type) = some extents ∧
      largestAlign extents = layout.maxAlign := by
  obtain ⟨block, pairs, hblock, hpairs, hbuild⟩ := layout_eq_ok.1 hlayout
  obtain ⟨-, -, -, -, -, -, hmax⟩ := build_eq_ok.1 hbuild
  obtain ⟨extents, hextents, haligns⟩ := h.mapM_extent? hcounted hpairs
  refine ⟨extents, hextents, ?_⟩
  calc largestAlign extents = largestAlign (pairs.map Prod.snd) := by
        rw [largestAlign, largestAlign, haligns, List.map_map]
        rfl
    _ = block := (maxAlign_eq_largestAlign (.refl table) hlists hblock (memberExtents_members hpairs)
        (describe_of_memberExtents (.refl table) hpairs)).symm
    _ = layout.maxAlign := hmax.symm

/-- one more struct on both sides -/
theorem Mirrors.add (h : table.Mirrors wgsl) (hlists : decl.ListsTypes) (hcounted : decl.Counted)
    (hadd : table.add decl = .ok after) : after.Mirrors (wgsl.add decl) := by
  rcases add_eq_ok.1 hadd with ⟨hold, rfl⟩ | ⟨hnone, layout, hlayout, rfl⟩
  · obtain ⟨old, hget⟩ := Option.isSome_iff_exists.1 hold
    obtain ⟨hl, hname⟩ := mem_of_get? hget
    obtain ⟨extents, -, hrule, -⟩ := h.layouts old hl
    have hkept : wgsl.add decl = wgsl := by rw [WgslTable.add, ← hname, hrule]
    rwa [hkept]
  · obtain ⟨hname, hmembers⟩ := layout_members hlayout
    obtain ⟨extents, hextents, hlargest⟩ := h.largestAlign_of_layout hlists hcounted hlayout
    have hnew := h.unknown decl.name hnone
    have hrule : wgsl.layout? decl.members = some (.ofExtents extents) := by
      rw [WgslTable.layout?, hextents, Option.map_some]
    rw [WgslTable.add, hnew, hrule]
    refine ⟨List.forall_mem_append.2 ⟨?_, List.forall_mem_singleton.2 ⟨extents, ?_, ?_, hlargest⟩⟩, ?_, h.constants⟩
    · intro old hl
      obtain ⟨oldExtents, holdExtents, holdRule, holdAlign⟩ := h.layouts old hl
      have hne : old.name ≠ decl.name := get?_eq_none.1 hnone old hl
      refine ⟨oldExtents, WgslTable.mapM_extent?_insert hnew holdExtents, ?_, holdAlign⟩
      rw [Table.get?_insert, if_neg hne, holdRule]
    · rw [hmembers]
      exact WgslTable.mapM_extent?_insert hnew hextents
    · rw [Table.get?_insert, if_pos hname]
    · intro name hget
      obtain ⟨hold, hlast⟩ := List.forall_mem_append.1 (get?_eq_none.1 hget)
      have hne : layout.name ≠ name := hlast layout List.mem_cons_self
      rw [Table.get?_insert, if_neg (hname ▸ hne.symm), h.unknown name (get?_eq_none.2 hold)]

theorem mirrors_foldlM {decls : List StructDecl} (h : table.Mirrors wgsl)
    (hdecls : ∀ decl ∈ decls, decl.ListsTypes ∧ decl.Counted) (hrun : decls.foldlM LayoutTable.add table = .ok after) :
    after.Mirrors (decls.foldl WgslTable.add wgsl) := by
  induction decls generalizing table wgsl with
  | nil =>
    rw [foldlM_nil_eq_ok] at hrun
    exact hrun ▸ h
  | cons decl rest ih =>
    obtain ⟨next, hadd, hrest⟩ := foldlM_cons_eq_ok.1 hrun
    obtain ⟨⟨hlists, hcounted⟩, hdecls⟩ := List.forall_mem_cons.1 hdecls
    exact ih (h.add hlists hcounted hadd) hdecls hrest

/-- **The rule lays out what is laid out**: declarations without runtime arrays have layouts by the rule. -/
theorem mirrors_ofDecls {constants : Table String Nat} {decls : List StructDecl}
    (hdecls : ∀ decl ∈ decls, decl.ListsTypes ∧ decl.Counted) (h : ofDecls constants decls = .ok table) :
    table.Mirrors (WgslTable.ofDecls constants decls) :=
  mirrors_foldlM ⟨List.forall_mem_nil _, fun _ _ => rfl, rfl⟩ hdecls h

end LayoutTable

end ShaderInterface
