/-
Layout tables that were computed from declarations.

- `add_eq_ok`, `layout_eq_ok`: one more struct, with everything that is computed for it.
- `ofDecls_induct`: what holds of the empty table and is kept by each added layout holds of every computed table.
- `computed_of_mem`: each layout of a table was computed from one of the declarations, over an earlier table.
- `faults_memberExtents`: where members have no extents, the error is about the type of one of them.
- `ofDecls_regular`: every struct of a computed table is regular, so it has an even size and one of five alignments.
  Sizes of types are even with it (`regular_of_extentOf`), and an even size is never the largest 32-bit number.
-/
import ShaderInterface.Layout.LayoutTable
import ShaderInterface.Proofs.Layout.Placing

namespace ShaderInterface

open Outcome

/-! ## Regular extents -/

/-- alignments are 2, 4, 8 or 16, or 0 for a struct without members; sizes are even -/
structure Extent.Regular (e : Extent) : Prop where
  align : e.align ∈ [0, 2, 4, 8, 16]
  size : 2 ∣ e.size

theorem two_dvd_align {align : Nat} (h : align ∈ [0, 2, 4, 8, 16]) : 2 ∣ align := by
  simp only [List.mem_cons, List.not_mem_nil, or_false] at h
  omega

theorem align_dvd_granule {align : Nat} (h : align ∈ [0, 2, 4, 8, 16]) (hne : align ≠ 0) : align ∣ structGranule := by
  revert align
  decide

theorem regular_primitive (p : Primitive) : p.extent.Regular := by
  obtain ⟨shape, kind⟩ := p
  cases shape with
  | scalar => cases kind <;> exact ⟨by decide, by decide⟩
  | atomic => cases kind <;> exact ⟨by decide, by decide⟩
  | vector n => cases n <;> cases kind <;> exact ⟨by decide, by decide⟩
  | matrix c r => cases c <;> cases r <;> cases kind <;> exact ⟨by decide, by decide⟩

namespace LayoutTable

/-- every struct of the table is regular as a member or an element -/
def Regular (table : LayoutTable) : Prop := ∀ layout ∈ table.layouts, layout.extent.Regular

variable {table : LayoutTable} {owner member : String}

/-! ## Extents of types -/

/-- a struct that is found is in the table and has the name that was looked up -/
theorem mem_of_get? {name : String} {layout : StructLayout} (h : table.get? name = some layout) :
    layout ∈ table.layouts ∧ layout.name = name :=
  ⟨List.mem_of_find?_eq_some h, by simpa using List.find?_some h⟩

/-- a name that is not found is that of no struct -/
theorem get?_eq_none {name : String} : table.get? name = none ↔ ∀ layout ∈ table.layouts, layout.name ≠ name := by
  simp [get?]

/-- a name has the extent of its primitive type, else of the struct that is found under it -/
theorem namedExtent?_eq_some {name : String} {e : Extent} :
    table.namedExtent? name = some e ↔
      (∃ p, Primitive.ofName? name = some p ∧ p.extent = e) ∨
        (Primitive.ofName? name = none ∧ ∃ layout, table.get? name = some layout ∧ layout.extent = e) := by
  simp [namedExtent?]

theorem extentOf_named_eq_ok {name : String} {e : Extent} :
    table.extentOf owner member (.named name) = .ok e ↔ table.namedExtent? name = some e := by
  rw [extentOf]
  cases table.namedExtent? name with
  | some e' => simp
  | none => simp

/-- an array has the placeholder extent, or that of its counted elements -/
theorem extentOf_array_eq_ok {element : TypeExpr} {length : ArrayLength} {e : Extent} :
    table.extentOf owner member (.array element length) = .ok e ↔
      ∃ count, table.elementCount (.array element length) length = .ok count ∧
        ((count = none ∧ e = runtimeArrayExtent) ∨
          ∃ n of, count = some (n + 1) ∧ table.extentOf owner member element = .ok of ∧
            Size.roundUp of.size of.align * (n + 1) < Size.limit ∧
            e = ⟨Size.roundUp of.size of.align * (n + 1), of.align⟩) := by
  rw [extentOf, bind_eq_ok]
  refine exists_congr fun count => and_congr_right fun _ => ?_
  cases count with
  | none => simp [eq_comm]
  | some count =>
    cases count with
    | zero => simp
    | succ n =>
      simp only [bind_eq_ok, reduceCtorEq, false_and, false_or, Option.some.injEq, Nat.add_right_cancel_iff]
      constructor
      · rintro ⟨of, hof, h⟩
        cases hfit : Size.fits? (Size.roundUp of.size of.align * (n + 1)) with
        | none => simp [hfit] at h
        | some size =>
          obtain ⟨hlimit, rfl⟩ := Size.fits?_eq_some.1 hfit
          rw [hfit] at h
          exact ⟨n, of, rfl, hof, hlimit, (Except.ok.inj h).symm⟩
      · rintro ⟨_, of, rfl, hof, hlimit, rfl⟩
        refine ⟨of, hof, ?_⟩
        rw [Size.fits?_eq_some.2 ⟨hlimit, rfl⟩]

theorem regular_of_namedExtent {name : String} {e : Extent} (ht : table.Regular)
    (h : table.namedExtent? name = some e) : e.Regular := by
  rcases namedExtent?_eq_some.1 h with ⟨p, -, rfl⟩ | ⟨-, layout, hget, rfl⟩
  · exact regular_primitive p
  · exact ht layout (mem_of_get? hget).1

theorem regular_of_extentOf {type : TypeExpr} {e : Extent} (ht : table.Regular)
    (h : table.extentOf owner member type = .ok e) : e.Regular := by
  induction type generalizing e with
  | named name => exact regular_of_namedExtent ht (extentOf_named_eq_ok.1 h)
  | array element length ih =>
    obtain ⟨count, -, ⟨-, rfl⟩ | ⟨n, of, -, hof, -, rfl⟩⟩ := extentOf_array_eq_ok.1 h
    · exact ⟨by decide, by decide⟩
    · have hreg := ih hof
      refine ⟨hreg.align, ?_⟩
      exact Nat.dvd_mul_right_of_dvd (Size.dvd_roundUp_of_dvd hreg.size (two_dvd_align hreg.align)) _

/-! ## Errors about types -/

/-- the error is about a type: what it names or counts, how large it is, or where it stands -/
def OfType : Error → Prop
  | .unknownType _ _ _ | .zeroLengthArray _ | .runtimeArrayNotLast _ _ _ | .typeTooLarge _ | .unknownConstant _ _ => True
  | _ => False

variable (table)

theorem faults_elementCount (type : TypeExpr) (length : ArrayLength) :
    FailsWith OfType (table.elementCount type length) := by
  cases length with
  | runtime => exact failsWith_ok _
  | fixed count => exact failsWith_ok _
  | constant name =>
    rw [elementCount]
    split
    · exact failsWith_ok _
    · exact failsWith_error trivial

theorem faults_extentOf (owner member : String) (type : TypeExpr) :
    FailsWith OfType (table.extentOf owner member type) := by
  induction type with
  | named name =>
    rw [extentOf]
    split
    · exact failsWith_ok _
    · exact failsWith_error trivial
  | array element length ih =>
    rw [extentOf]
    refine (table.faults_elementCount _ _).bind fun count _ => ?_
    split
    · exact failsWith_ok _
    · exact failsWith_error trivial
    · refine ih.bind fun extent _ => ?_
      split
      · exact failsWith_ok _
      · exact failsWith_error trivial

theorem faults_maxAlign (decl : StructDecl) (types : List TypeExpr) : FailsWith OfType (table.maxAlign decl types) := by
  induction types with
  | nil => exact failsWith_ok _
  | cons type rest ih =>
    refine (table.faults_extentOf _ _ _).bind fun extent _ => ?_
    exact ih.bind fun others _ => failsWith_ok _

/-- **Members have no extents for the type of one of them.** -/
theorem faults_memberExtents (owner : String) (members : List Member) :
    FailsWith OfType (table.memberExtents owner members) := by
  induction members with
  | nil => exact failsWith_ok _
  | cons member rest ih =>
    rw [memberExtents]
    split
    · exact failsWith_error trivial
    · refine (table.faults_extentOf _ _ _).bind fun extent _ => ?_
      exact ih.bind fun others _ => failsWith_ok _

variable {table}

/-! ## Layouts -/

theorem layout_eq_ok {decl : StructDecl} {layout : StructLayout} :
    table.layout decl = .ok layout ↔
      ∃ block members, table.maxAlign decl decl.types = .ok block ∧
        table.memberExtents decl.name decl.members = .ok members ∧
        StructLayout.build decl.name block members = .ok layout := by
  simp only [LayoutTable.layout, bind_eq_ok]
  constructor
  · rintro ⟨block, hb, members, hm, h⟩
    exact ⟨block, members, hb, hm, h⟩
  · rintro ⟨block, members, hb, hm, h⟩
    exact ⟨block, hb, members, hm, h⟩

theorem maxAlign_cons_eq_ok {decl : StructDecl} {type : TypeExpr} {rest : List TypeExpr} {block : Nat} :
    table.maxAlign decl (type :: rest) = .ok block ↔
      ∃ e others, table.extentOf decl.name (((decl.members.find? (·.type = type)).map (·.name)).getD "") type = .ok e ∧
        table.maxAlign decl rest = .ok others ∧ block = max e.align others := by
  simp only [maxAlign, bind_eq_ok, Except.ok.injEq, eq_comm (a := block), exists_and_left]

theorem memberExtents_cons_eq_ok {m : Member} {rest : List Member} {extents : List (Member × Extent)} :
    table.memberExtents owner (m :: rest) = .ok extents ↔ ¬ (m.type.isRuntimeArray = true ∧ rest ≠ []) ∧
      ∃ e others, table.extentOf owner m.name m.type = .ok e ∧ table.memberExtents owner rest = .ok others ∧
        extents = (m, e) :: others := by
  rw [memberExtents]
  split
  · next h => simp [h]
  · next h =>
    simp only [bind_eq_ok, Except.ok.injEq, eq_comm (a := extents), h, not_false_iff, true_and]
    constructor
    · rintro ⟨e, he, others, hothers, heq⟩
      exact ⟨e, others, he, hothers, heq⟩
    · rintro ⟨e, others, he, hothers, heq⟩
      exact ⟨e, he, others, hothers, heq⟩

/-- where members have extents, so has the type of each of them -/
theorem extentOf_of_memberExtents {members : List Member} {extents : List (Member × Extent)}
    (h : table.memberExtents owner members = .ok extents) :
    ∀ m ∈ members, ∃ e, table.extentOf owner m.name m.type = .ok e := by
  induction members generalizing extents with
  | nil => exact List.forall_mem_nil _
  | cons m rest ih =>
    obtain ⟨-, e, others, he, hothers, -⟩ := memberExtents_cons_eq_ok.1 h
    exact List.forall_mem_cons.2 ⟨⟨e, he⟩, ih hothers⟩

theorem maxAlign_mem {decl : StructDecl} {types : List TypeExpr} {block : Nat} (ht : table.Regular)
    (h : table.maxAlign decl types = .ok block) : block ∈ [0, 2, 4, 8, 16] := by
  induction types generalizing block with
  | nil =>
    simp only [maxAlign, Except.ok.injEq] at h
    simp [← h]
  | cons type rest ih =>
    obtain ⟨e, others, he, hothers, rfl⟩ := maxAlign_cons_eq_ok.1 h
    rcases Nat.le_total e.align others with hle | hle
    · rw [Nat.max_eq_right hle]
      exact ih hothers
    · rw [Nat.max_eq_left hle]
      exact (regular_of_extentOf ht he).align

theorem memberExtents_regular {members : List Member} {extents : List (Member × Extent)} (ht : table.Regular)
    (h : table.memberExtents owner members = .ok extents) : ∀ m ∈ extents, m.2.Regular := by
  induction members generalizing extents with
  | nil =>
    simp only [memberExtents, Except.ok.injEq] at h
    simp [← h]
  | cons member rest ih =>
    obtain ⟨-, e, others, he, hothers, rfl⟩ := memberExtents_cons_eq_ok.1 h
    exact List.forall_mem_cons.2 ⟨regular_of_extentOf ht he, ih hothers⟩

/-- every struct is padded to whole granules -/
theorem granule_dvd_of_layout {decl : StructDecl} {layout : StructLayout} (h : table.layout decl = .ok layout) :
    structGranule ∣ layout.byteSize := by
  obtain ⟨block, members, -, -, hbuild⟩ := layout_eq_ok.1 h
  obtain ⟨stop, -, -, hsize, -, -, -⟩ := build_eq_ok.1 hbuild
  rw [hsize]
  exact Size.dvd_roundUp stop (by decide)

theorem layout_regular {decl : StructDecl} {layout : StructLayout} (ht : table.Regular)
    (h : table.layout decl = .ok layout) : layout.extent.Regular := by
  obtain ⟨block, members, hb, -, hbuild⟩ := layout_eq_ok.1 h
  obtain ⟨stop, -, -, -, -, -, halign⟩ := build_eq_ok.1 hbuild
  refine ⟨?_, ?_⟩
  · show layout.maxAlign ∈ _
    rw [halign]
    exact maxAlign_mem ht hb
  · show 2 ∣ layout.byteSize
    exact Nat.dvd_trans (by decide) (granule_dvd_of_layout h)

/-! ## Tables -/

theorem add_eq_ok {decl : StructDecl} {after : LayoutTable} :
    table.add decl = .ok after ↔
      ((table.get? decl.name).isSome ∧ after = table) ∨
        (table.get? decl.name = none ∧
          ∃ layout, table.layout decl = .ok layout ∧ after = { table with layouts := table.layouts ++ [layout] }) := by
  rw [add]
  cases hget : table.get? decl.name with
  | some old => simp [eq_comm]
  | none => simp [bind_eq_ok, eq_comm (b := after)]

/-- a struct is not added where its name is new and it is not laid out -/
theorem add_eq_error {decl : StructDecl} {e : Error} :
    table.add decl = .error e ↔ table.get? decl.name = none ∧ table.layout decl = .error e := by
  rw [add]
  cases hget : table.get? decl.name with
  | some old => simp
  | none => simp [bind_eq_error]

variable {constants : Table String Nat} {decls : List StructDecl}

/-- **What each added layout keeps holds of every computed table.** -/
theorem ofDecls_induct (P : LayoutTable → Prop) (h : ofDecls constants decls = .ok table) (h0 : P ⟨[], constants⟩)
    (hadd : ∀ before decl layout, decl ∈ decls → before.layout decl = .ok layout → P before →
      P { before with layouts := before.layouts ++ [layout] }) : P table := by
  apply foldlM_induct P h h0
  intro before decl after hd hstep hp
  rcases add_eq_ok.1 hstep with ⟨-, rfl⟩ | ⟨-, layout, hl, rfl⟩
  · exact hp
  · exact hadd before decl layout hd hl hp

/-- the layout was computed from one of the declarations, over a table of regular structs -/
def Computed (decls : List StructDecl) (layout : StructLayout) : Prop :=
  ∃ (before : LayoutTable) (decl : StructDecl), before.Regular ∧ decl ∈ decls ∧ before.layout decl = .ok layout

theorem Computed.regular {layout : StructLayout} (h : Computed decls layout) : layout.extent.Regular := by
  obtain ⟨before, decl, hreg, -, hlay⟩ := h
  exact layout_regular hreg hlay

theorem Computed.granule_dvd {layout : StructLayout} (h : Computed decls layout) : structGranule ∣ layout.byteSize := by
  obtain ⟨before, decl, -, -, hlay⟩ := h
  exact granule_dvd_of_layout hlay

/-- **Each layout of a computed table was computed from a declaration.** -/
theorem computed_of_mem (h : ofDecls constants decls = .ok table) :
    ∀ layout ∈ table.layouts, Computed decls layout := by
  refine ofDecls_induct (fun t => ∀ layout ∈ t.layouts, Computed decls layout) h (List.forall_mem_nil _) ?_
  intro before decl new hd hnew hall
  have hreg : before.Regular := fun layout hl => (hall layout hl).regular
  exact List.forall_mem_append.2 ⟨hall, List.forall_mem_singleton.2 ⟨before, decl, hreg, hd, hnew⟩⟩

theorem ofDecls_regular (h : ofDecls constants decls = .ok table) : table.Regular :=
  fun layout hl => (computed_of_mem h layout hl).regular

end LayoutTable
end ShaderInterface
