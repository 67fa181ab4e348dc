/-
What the types of an accepted list of declarations are made of.

A declaration is laid out over the structs in front of it. A type has an extent there only if its leaf is a primitive type
or one of these structs, and its lengths are known and not 0. Two things are passed over: a declaration whose name was
declared before, and the element of a runtime array, which has the extent of the placeholder whatever it is.

- `resolves_of_extentOf`: a type that has an extent resolves, as far as it is looked at.
- `members_resolve`: so do the types of the members of each declaration that is the first of its name.
- `unresolved_leaves`: a source that is accepted with unknown names in the two parts that are passed over.
-/
import ShaderInterface.Proofs.Layout.ArraySizes

namespace ShaderInterface

open Outcome

/-- the leaf is a primitive type or one of the structs in front, and the lengths are known and not 0; of the element of a
runtime array nothing is said -/
inductive TypeExpr.Resolves (constants : Table String Nat) (front : List StructDecl) : TypeExpr → Prop where
  | primitive {name : String} {p : Primitive} : Primitive.ofName? name = some p → Resolves constants front (.named name)
  | struct {decl : StructDecl} : decl ∈ front → Resolves constants front (.named decl.name)
  | array {element : TypeExpr} {length : ArrayLength} {count : Nat} : length.count? constants = some count → count ≠ 0 →
      Resolves constants front element → Resolves constants front (.array element length)
  | runtime {element : TypeExpr} : Resolves constants front (.array element .runtime)

namespace LayoutTable

variable {table part : LayoutTable} {constants : Table String Nat} {front : List StructDecl}

/-! ## Types with an extent -/

/-- **A type that has an extent resolves.** The induction is on the type and stops at a runtime array. -/
theorem resolves_of_extentOf (hnames : ∀ layout ∈ part.layouts, ∃ decl ∈ front, decl.name = layout.name)
    {owner member : String} {type : TypeExpr} {e : Extent} (h : part.extentOf owner member type = .ok e) :
    type.Resolves part.constants front := by
  induction type generalizing e with
  | named name =>
    rcases namedExtent?_eq_some.1 (extentOf_named_eq_ok.1 h) with ⟨p, hp, -⟩ | ⟨-, layout, hget, -⟩
    · exact .primitive hp
    · obtain ⟨hl, rfl⟩ := mem_of_get? hget
      obtain ⟨decl, hd, hname⟩ := hnames layout hl
      exact hname ▸ .struct hd
  | array element length ih =>
    by_cases hlength : length = .runtime
    · subst hlength
      exact .runtime
    · obtain ⟨count, of, hcount, hne, hof, -, -⟩ := (extentOf_array_iff hlength).1 h
      exact .array hcount hne (ih hof)

/-! ## Accepted lists -/

/-- each layout of a table has the name of one of the declarations -/
theorem exists_decl_of_mem (h : ofDecls constants front = .ok part) :
    ∀ layout ∈ part.layouts, ∃ decl ∈ front, decl.name = layout.name := by
  intro layout hl
  obtain ⟨before, decl, -, hd, hlayout⟩ := computed_of_mem h layout hl
  exact ⟨decl, hd, (layout_members hlayout).1.symm⟩

/-- **A declaration that is the first of its name is laid out over those in front of it.** -/
theorem layout_of_first {decl : StructDecl} {back : List StructDecl}
    (h : ofDecls constants (front ++ decl :: back) = .ok table) (hfirst : ∀ earlier ∈ front, earlier.name ≠ decl.name) :
    ∃ part layout, ofDecls constants front = .ok part ∧ part.layout decl = .ok layout := by
  rw [ofDecls, List.foldlM_append, bind_eq_ok] at h
  obtain ⟨part, hpart, hrest⟩ := h
  obtain ⟨after, hadd, -⟩ := foldlM_cons_eq_ok.1 hrest
  rcases add_eq_ok.1 hadd with ⟨hold, -⟩ | ⟨-, layout, hlayout, -⟩
  · obtain ⟨old, hold⟩ := Option.isSome_iff_exists.1 hold
    obtain ⟨hl, hname⟩ := mem_of_get? hold
    obtain ⟨earlier, hd, hearlier⟩ := exists_decl_of_mem hpart old hl
    exact absurd (hearlier.trans hname) (hfirst earlier hd)
  · exact ⟨part, layout, hpart, hlayout⟩

end LayoutTable

/-- **Accepted types are resolved.** If a list of declarations is accepted, then the types of the members of each
declaration that is the first of its name resolve over the declarations in front of it. -/
theorem members_resolve {constants : Table String Nat} {front back : List StructDecl} {decl : StructDecl}
    {table : LayoutTable} (h : LayoutTable.ofDecls constants (front ++ decl :: back) = .ok table)
    (hfirst : ∀ earlier ∈ front, earlier.name ≠ decl.name) :
    ∀ m ∈ decl.members, m.type.Resolves constants front := by
  intro m hm
  obtain ⟨part, layout, hpart, hlayout⟩ := LayoutTable.layout_of_first h hfirst
  obtain ⟨-, extents, -, hextents, -⟩ := LayoutTable.layout_eq_ok.1 hlayout
  obtain ⟨e, he⟩ := LayoutTable.extentOf_of_memberExtents hextents m hm
  have hconstants : constants = part.constants := (LayoutTable.within_of_foldlM hpart).constants
  rw [hconstants]
  exact LayoutTable.resolves_of_extentOf (LayoutTable.exists_decl_of_mem hpart) he

/-! ## A harbour, with its ships declared twice -/

def harbourSource : String :=
  "struct Ship \x7b at: vec2f, load: array<f32,COUNT> \x7d
   struct Harbour \x7b docks: array<array<Ship,COUNT>,2>, open: u32, queue: array<Ship> \x7d
   struct Ship \x7b at: Missing \x7d"

def shipDecl : StructDecl :=
  .ofMembers "Ship" [⟨"at", .named "vec2f"⟩, ⟨"load", .array (.named "f32") (.constant "COUNT")⟩]

def harbourDecl : StructDecl :=
  .ofMembers "Harbour" [⟨"docks", .array (.array (.named "Ship") (.constant "COUNT")) (.fixed 2)⟩,
    ⟨"open", .named "u32"⟩, ⟨"queue", .array (.named "Ship") .runtime⟩]

theorem harbour_members_resolve :
    ∃ again table, StructDecl.parseAll harbourSource = .ok ([shipDecl] ++ harbourDecl :: [again]) ∧
      LayoutTable.ofDecls sceneConstants ([shipDecl] ++ harbourDecl :: [again]) = .ok table ∧
      ∀ m ∈ harbourDecl.members, m.type.Resolves sceneConstants [shipDecl] := by
  have hparse : StructDecl.parseAll harbourSource =
      .ok ([shipDecl] ++ harbourDecl :: [.ofMembers "Ship" [⟨"at", .named "Missing"⟩]]) := by decide +kernel
  have haccepts : (LayoutTable.ofDecls sceneConstants
      ([shipDecl] ++ harbourDecl :: [.ofMembers "Ship" [⟨"at", .named "Missing"⟩]])).isOk = true := by decide +kernel
  obtain ⟨table, h⟩ := isOk_iff.1 haccepts
  exact ⟨_, table, hparse, h, members_resolve h (by decide)⟩

/-! ## Names that are not looked up -/

/-- one unknown name in a second declaration of a struct, and one in a runtime array -/
def lostSource : String :=
  "struct Cell \x7b value: f32 \x7d struct Cell \x7b value: Missing \x7d struct Grid \x7b cells: array<Lost> \x7d"

/-- a source is accepted though two leaves of its types are neither primitive types nor structs -/
theorem unresolved_leaves :
    ∃ decls table, StructDecl.parseAll lostSource = .ok decls ∧ LayoutTable.ofDecls .empty decls = .ok table ∧
      ∀ leaf ∈ ["Missing", "Lost"], (∃ decl ∈ decls, ∃ m ∈ decl.members, m.type.leaf = leaf) ∧
        Primitive.ofName? leaf = none ∧ ∀ decl ∈ decls, decl.name ≠ leaf := by
  obtain ⟨decls, hparse, htable, hleaves⟩ := exists_of_any (x := StructDecl.parseAll lostSource)
    (p := fun decls => (LayoutTable.ofDecls .empty decls).isOk = true ∧
      ∀ leaf ∈ ["Missing", "Lost"], (∃ decl ∈ decls, ∃ m ∈ decl.members, m.type.leaf = leaf) ∧
        Primitive.ofName? leaf = none ∧ ∀ decl ∈ decls, decl.name ≠ leaf) (by decide +kernel)
  obtain ⟨table, h⟩ := isOk_iff.1 htable
  exact ⟨decls, table, hparse, h, hleaves⟩

end ShaderInterface
