/-
What holds of the size and the alignment of every struct.

The alignment of a struct comes from the types that its declaration lists, its size from the walk over its members, and
structs around it read both. They fit together: the alignment divides the size, so the elements of an array of structs
follow each other without gaps.

Only the alignment 0 needs an argument, since no rounding helps there. A struct has it if all its members do, and then
nothing in it has bytes: members are empty structs, arrays of them, or structs of those.

- `grounded_of_extentOf`, `grounded_of_layout`: types without an alignment have no bytes, structs included.
- `Fills.sum_le`: the members of a struct fit into it together.
- `layouts_well_sized`: size and alignment of every struct of a computed table, and the arrays of it.
-/
import ShaderInterface.Proofs.Layout.ArraySizes
import ShaderInterface.Proofs.Layout.SizeLimits

namespace ShaderInterface

open Outcome

/-! ## Types without an alignment -/

/-- a type without an alignment has no bytes -/
def Extent.Grounded (e : Extent) : Prop := e.align = 0 → e.size = 0

theorem grounded_of_align_ne_zero {e : Extent} (h : e.align ≠ 0) : e.Grounded := fun halign => absurd halign h

theorem align_primitive_ne_zero (p : Primitive) : p.extent.align ≠ 0 := by
  obtain ⟨shape, kind⟩ := p
  cases shape with
  | scalar => cases kind <;> decide
  | atomic => cases kind <;> decide
  | vector n => cases n <;> cases kind <;> decide
  | matrix c r => cases c <;> cases r <;> cases kind <;> decide

/-- where no block is, no padding is -/
theorem PaddingRule.finish_zero (stop : Nat) (extents : List Extent) :
    finish 0 stop extents = stop + (extents.map (·.size)).sum := by
  induction extents generalizing stop with
  | nil => rfl
  | cons e rest ih =>
    have hstart : start 0 stop e.size = stop := if_neg fun hcross => hcross.1 (Size.roundUp_zero stop).symm
    rw [finish, hstart, ih, List.map_cons, List.sum_cons, Nat.add_assoc]

/-- members without alignments make a struct without bytes -/
theorem PaddingRule.structSize_of_grounded {extents : List Extent} (h : ∀ e ∈ extents, e.Grounded)
    (halign : largestAlign extents = 0) : structSize extents = 0 := by
  have hsizes : (extents.map (·.size)).sum = 0 := by
    refine List.sum_eq_zero_iff_forall_eq_nat.2 (List.forall_mem_map.2 fun e he => ?_)
    have hle := le_largestAlign he
    exact h e he (Nat.le_zero.1 (halign ▸ hle))
  rw [structSize, halign, finish_zero, hsizes]
  rfl

namespace LayoutTable

/-- every struct without an alignment has no bytes -/
def Grounded (table : LayoutTable) : Prop := ∀ layout ∈ table.layouts, layout.extent.Grounded

variable {table : LayoutTable} {owner member : String} {decl : StructDecl} {layout : StructLayout}

theorem grounded_of_extentOf (ht : table.Grounded) {type : TypeExpr} {e : Extent}
    (h : table.extentOf owner member type = .ok e) : e.Grounded := by
  induction type generalizing e with
  | named name =>
    rcases namedExtent?_eq_some.1 (extentOf_named_eq_ok.1 h) with ⟨p, -, rfl⟩ | ⟨-, layout, hget, rfl⟩
    · exact grounded_of_align_ne_zero (align_primitive_ne_zero p)
    · exact ht layout (mem_of_get? hget).1
  | array element length ih =>
    obtain ⟨count, -, ⟨-, rfl⟩ | ⟨n, of, -, hof, -, rfl⟩⟩ := extentOf_array_eq_ok.1 h
    · exact grounded_of_align_ne_zero (by decide)
    · intro halign
      have hsize : of.size = 0 := ih hof halign
      rw [show of.align = 0 from halign, hsize, Size.roundUp_zero, Nat.zero_mul]

theorem grounded_of_layout (hlists : decl.ListsTypes) (ht : table.Grounded) (h : table.layout decl = .ok layout) :
    layout.extent.Grounded := by
  obtain ⟨-, members, -, hmembers, -⟩ := layout_eq_ok.1 h
  rw [layout_eq_build hlists hmembers] at h
  obtain ⟨-, -, -, -, -, -, halign⟩ := build_eq_ok.1 h
  have hgrounded : ∀ e ∈ members.map Prod.snd, e.Grounded := List.forall_mem_map.2 fun m hm =>
    grounded_of_extentOf ht (describe_of_memberExtents (.refl table) hmembers m hm)
  intro hzero
  have hsize : layout.byteSize = 0 := by
    rw [structSize_of_build rfl h]
    exact PaddingRule.structSize_of_grounded hgrounded (halign.symm.trans hzero)
  exact hsize

/-- **No bytes without an alignment**, in any struct of a computed table. -/
theorem ofDecls_grounded {constants : Table String Nat} {decls : List StructDecl}
    (hdecls : ∀ decl ∈ decls, decl.ListsTypes) (h : ofDecls constants decls = .ok table) : table.Grounded := by
  refine ofDecls_induct Grounded h (List.forall_mem_nil _) fun before decl layout hd hlayout ht => ?_
  exact List.forall_mem_append.2 ⟨ht, List.forall_mem_singleton.2 (grounded_of_layout (hdecls decl hd) ht hlayout)⟩

/-- an array of elements of a known extent -/
theorem describe_array_iff {element : TypeExpr} {length : ArrayLength} {of e : Extent} {count : Nat}
    (helement : table.describe element = .ok of) (hcount : length.count? table.constants = some count) :
    table.describe (.array element length) = .ok e ↔
      count ≠ 0 ∧ of.stride * count < Size.limit ∧ e = ⟨of.stride * count, of.align⟩ := by
  have hlength : length ≠ .runtime := by
    rintro rfl
    exact Option.some_ne_none count hcount.symm
  rw [describe, extentOf_array_iff hlength]
  constructor
  · rintro ⟨count', of', hcount', hne, hof, hextent⟩
    obtain rfl := Option.some.inj (hcount.symm.trans hcount')
    obtain rfl := Except.ok.inj (helement.symm.trans ((Within.refl table).describe hof))
    exact ⟨hne, hextent⟩
  · rintro ⟨hne, hextent⟩
    exact ⟨count, of, hcount, hne, (Within.refl table).extentOf helement, hextent⟩

end LayoutTable

/-! ## The whole struct -/

/-- members that fill a range fit into it together -/
theorem Fills.sum_le {start stop : Nat} {placements : List Placement} (h : Fills start placements stop) :
    start + (placements.map (·.size)).sum ≤ stop := by
  induction placements generalizing start with
  | nil => exact Nat.le_of_eq h
  | cons p rest ih =>
    have hrest := ih h.2.2
    have hstart := h.1
    rw [List.map_cons, List.sum_cons]
    omega

namespace StructLayout

/-- the size and the alignment of the struct fit together, and the members fit in -/
structure WellSized (layout : StructLayout) : Prop where
  granule : 16 ∣ layout.byteSize
  align : layout.maxAlign ∈ [0, 2, 4, 8, 16]
  divides : layout.maxAlign ∣ layout.byteSize
  grounded : layout.maxAlign = 0 → layout.byteSize = 0
  members : (layout.placements.map (·.size)).sum ≤ layout.byteSize
  stride : Size.roundUp layout.byteSize layout.maxAlign = layout.byteSize

variable {layout : StructLayout}

theorem sum_sizes_le (h : layout.Filled) : (layout.placements.map (·.size)).sum ≤ layout.byteSize := by
  obtain ⟨stop, hfills, hsize⟩ := h
  have hsum := hfills.sum_le
  omega

/-- the alignment of a struct without bytes may be 0, any other divides 16 and so the size -/
theorem wellSized_of_computed {decls : List StructDecl} (h : LayoutTable.Computed decls layout)
    (hgrounded : layout.extent.Grounded) : layout.WellSized := by
  have hgranule : structGranule ∣ layout.byteSize := h.granule_dvd
  have halign : layout.maxAlign ∈ [0, 2, 4, 8, 16] := h.regular.align
  have hdivides : layout.maxAlign ∣ layout.byteSize := by
    by_cases hzero : layout.maxAlign = 0
    · have hsize : layout.byteSize = 0 := hgrounded hzero
      exact hsize ▸ Nat.dvd_zero _
    · exact Nat.dvd_trans (align_dvd_granule halign hzero) hgranule
  exact ⟨hgranule, halign, hdivides, hgrounded, sum_sizes_le (filled_of_computed h),
    Size.roundUp_eq_self fun _ => hdivides⟩

end StructLayout

/-- **Structs are well sized.** Size and alignment of every struct fit together, if the declarations list the types of
their members, as those of a source do. So an array of the struct, with a literal or a named length, has the size of its
elements together, if that is a size. -/
theorem layouts_well_sized {constants : Table String Nat} {decls : List StructDecl} {table : LayoutTable}
    (hdecls : ∀ decl ∈ decls, decl.ListsTypes) (h : LayoutTable.ofDecls constants decls = .ok table)
    {layout : StructLayout} (hl : layout ∈ table.layouts) :
    layout.WellSized ∧ ∀ element length count e, table.describe element = .ok layout.extent →
      length.count? table.constants = some count →
        (table.describe (.array element length) = .ok e ↔
          count ≠ 0 ∧ layout.byteSize * count < Size.limit ∧ e = ⟨layout.byteSize * count, layout.maxAlign⟩) := by
  have hgrounded := LayoutTable.ofDecls_grounded hdecls h layout hl
  have hsized := StructLayout.wellSized_of_computed (LayoutTable.computed_of_mem h layout hl) hgrounded
  refine ⟨hsized, fun element length count e helement hcount => ?_⟩
  have hstride : layout.extent.stride = layout.byteSize := hsized.stride
  rw [LayoutTable.describe_array_iff helement hcount, hstride]
  rfl

/-! ## Marks without bytes, and a track behind them -/

/-- a mark has no members, so a row of marks has no bytes and no alignment either -/
def trackSource : String :=
  "struct Mark \x7b \x7d struct Row \x7b marks: array<Mark,3> \x7d struct Track \x7b row: Row, at: vec2h, to: vec4h \x7d"

def trackDecls : List StructDecl :=
  [.ofMembers "Mark" [], .ofMembers "Row" [⟨"marks", .array (.named "Mark") (.fixed 3)⟩],
    .ofMembers "Track" [⟨"row", .named "Row"⟩, ⟨"at", .named "vec2h"⟩, ⟨"to", .named "vec4h"⟩]]

def trackLayout : StructLayout :=
  ⟨"Track", 8, [⟨⟨"row", .named "Row"⟩, 0, 0, 0, 0⟩, ⟨⟨"at", .named "vec2h"⟩, 0, 4, 0, 1⟩,
    ⟨⟨"to", .named "vec4h"⟩, 8, 8, 8, 0⟩], 16, 0⟩

def trackTable : LayoutTable :=
  ⟨[⟨"Mark", 0, [], 0, 0⟩, ⟨"Row", 0, [⟨⟨"marks", .array (.named "Mark") (.fixed 3)⟩, 0, 0, 0, 0⟩], 0, 0⟩, trackLayout],
    sceneConstants⟩

theorem track_well_sized :
    StructDecl.parseAll trackSource = .ok trackDecls ∧
      LayoutTable.ofDecls sceneConstants trackDecls = .ok trackTable ∧
      (∀ layout ∈ trackTable.layouts, layout.WellSized) ∧
      trackTable.describe (.array (.named "Track") (.constant "COUNT")) = .ok ⟨48, 8⟩ := by
  have hparse : StructDecl.parseAll trackSource = .ok trackDecls := by decide +kernel
  have h : LayoutTable.ofDecls sceneConstants trackDecls = .ok trackTable := by decide +kernel
  have hlists := listsTypes_of_parseAll hparse
  have hsized : ∀ layout ∈ trackTable.layouts, layout.WellSized := fun layout hl => (layouts_well_sized hlists h hl).1
  have htrack : trackLayout ∈ trackTable.layouts := by decide
  have helement : trackTable.describe (.named "Track") = .ok trackLayout.extent := by decide +kernel
  have harrays := (layouts_well_sized hlists h htrack).2 (.named "Track") (.constant "COUNT") 3 ⟨48, 8⟩ helement rfl
  exact ⟨hparse, h, hsized, harrays.2 ⟨by decide, by decide, rfl⟩⟩

end ShaderInterface
