/-
The order in which structs are declared does not matter, as long as each is declared before it is used.

A struct is laid out over the structs in front of it, and another order puts others there. What it uses is in front of it
in both orders and, by induction along the first order, laid out alike in both (`knownIn_of_ofDecls`). Structs that are
never found, since a primitive type has their name, are laid out alike as well.

- `extentOf_congr`: tables that find the same structs give every type the same extent, or the same error.
- `ofDecls_perm`: two orders that are both accepted give the same layout under every name and describe every type alike.
-/
import ShaderInterface.Proofs.Layout.Composition

namespace ShaderInterface

open Outcome

namespace LayoutTable

variable {table other : LayoutTable} {constants : Table String Nat} {decls decls' : List StructDecl}

/-! ## Tables that find the same structs -/

theorem extentOf_congr (hget : ∀ name, table.get? name = other.get? name) (hconstants : table.constants = other.constants)
    (owner member : String) (type : TypeExpr) : table.extentOf owner member type = other.extentOf owner member type := by
  induction type with
  | named name => rw [extentOf, extentOf, namedExtent?, namedExtent?, hget]
  | array element length ih =>
    have hcount : table.elementCount (.array element length) length = other.elementCount (.array element length) length := by
      cases length with
      | constant name => rw [elementCount, elementCount, hconstants]
      | _ => rfl
    rw [extentOf, extentOf, hcount, ih]

/-- a table is known in another that finds each of its layouts under the name of that layout -/
theorem knownIn_of_layouts (hconstants : table.constants = other.constants)
    (hall : ∀ layout ∈ table.layouts, other.get? layout.name = some layout) : table.KnownIn other := by
  refine ⟨fun {name layout} hget => ?_, hconstants⟩
  obtain ⟨hl, rfl⟩ := mem_of_get? hget
  exact hall layout hl

theorem KnownIn.get?_eq (h : table.KnownIn other) (h' : other.KnownIn table) (name : String) :
    table.get? name = other.get? name :=
  Option.ext fun _ => ⟨h.get?, h'.get?⟩

/-! ## Two orders -/

/-- a declaration is laid out alike over two tables if what the first finds, and what the second finds, is final in one
other table -/
theorem layout_eq_of_knownIn {part part' : LayoutTable} {decl : StructDecl} {layout layout' : StructLayout}
    (hknown : part.KnownIn other) (hknown' : part'.KnownIn other) (h : part.layout decl = .ok layout)
    (h' : part'.layout decl = .ok layout') : layout = layout' := by
  have hagree : ∀ type e e', part.describe type = .ok e → part'.describe type = .ok e' → e = e' := by
    intro type e e' he he'
    have hdescribe : other.describe type = .ok e := hknown.extentOf he
    have hdescribe' : other.describe type = .ok e' := hknown'.extentOf he'
    exact Except.ok.inj (hdescribe.symm.trans hdescribe')
  exact layout_agree (fun type _ => hagree type) (fun m _ => hagree m.type) h h'

/-- **What one order lays out, the other lays out alike.** The induction is along the first order. -/
theorem knownIn_of_ofDecls (hn : (decls'.map (·.name)).Nodup) (hsub : ∀ decl ∈ decls, decl ∈ decls')
    (h : ofDecls constants decls = .ok table) (h' : ofDecls constants decls' = .ok other) : table.KnownIn other := by
  have hconstants : ∀ part : LayoutTable, part.Within table → part.constants = other.constants := by
    intro part hwithin
    calc part.constants = table.constants := hwithin.constants
      _ = constants := (within_of_foldlM h).constants.symm
      _ = other.constants := (within_of_foldlM h').constants
  refine knownIn_of_layouts (hconstants table (.refl table)) ?_
  refine foldlM_add_induct (fun t => ∀ layout ∈ t.layouts, other.get? layout.name = some layout) h
    (List.forall_mem_nil _) ?_
  intro part decl layout hd _ hlayout hwithin hall
  have hknown := knownIn_of_layouts (hconstants part ((within_append part layout).trans hwithin)) hall
  obtain ⟨part', layout', hlayout', hwithin', hget'⟩ := layout_of_mem hn h' (hsub decl hd)
  obtain rfl := layout_eq_of_knownIn hknown hwithin'.knownIn hlayout hlayout'
  refine List.forall_mem_append.2 ⟨hall, List.forall_mem_singleton.2 ?_⟩
  rw [(layout_members hlayout).1, hget']

end LayoutTable

/-- **Declaration order does not matter.** Two orders of declarations with distinct names that are both accepted give the
same layout under every name, and describe every type alike. -/
theorem ofDecls_perm {constants : Table String Nat} {decls decls' : List StructDecl} {table table' : LayoutTable}
    (hn : (decls.map (·.name)).Nodup) (hperm : decls.Perm decls') (h : LayoutTable.ofDecls constants decls = .ok table)
    (h' : LayoutTable.ofDecls constants decls' = .ok table') :
    (∀ name, table.get? name = table'.get? name) ∧ ∀ type, table.describe type = table'.describe type := by
  have hn' : (decls'.map (·.name)).Nodup := (hperm.map (·.name)).nodup_iff.1 hn
  have hknown : table.KnownIn table' := LayoutTable.knownIn_of_ofDecls hn' (fun _ hd => hperm.mem_iff.1 hd) h h'
  have hknown' : table'.KnownIn table := LayoutTable.knownIn_of_ofDecls hn (fun _ hd => hperm.mem_iff.2 hd) h' h
  have hget := hknown.get?_eq hknown'
  exact ⟨hget, fun type => LayoutTable.extentOf_congr hget hknown.constants _ _ type⟩

/-! ## A town in two orders -/

def streetDecl : StructDecl := .ofMembers "Street" [⟨"lamps", .array (.named "vec3f") (.constant "COUNT")⟩]

/-- a struct that no type finds, since the name is that of a primitive type -/
def shadowedDecl : StructDecl := .ofMembers "f32" [⟨"view", .named "mat4x4f"⟩]

def houseDecl : StructDecl := .ofMembers "House" [⟨"height", .named "f32"⟩, ⟨"door", .named "vec3f"⟩]

def townDecl : StructDecl :=
  .ofMembers "Town" [⟨"streets", .array (.named "Street") (.fixed 2)⟩, ⟨"houses", .array (.named "House") .runtime⟩]

theorem town_ofDecls_perm :
    ∃ table table', LayoutTable.ofDecls sceneConstants [streetDecl, shadowedDecl, houseDecl, townDecl] = .ok table ∧
      LayoutTable.ofDecls sceneConstants [houseDecl, streetDecl, townDecl, shadowedDecl] = .ok table' ∧
      table ≠ table' ∧ table.get? "Town" = table'.get? "Town" ∧
      table.describe (.named "f32") = table'.describe (.named "f32") := by
  obtain ⟨table, h, hfirst⟩ := exists_of_any (p := fun table : LayoutTable =>
    table.layouts.head?.map (·.name) = some "Street")
    (x := LayoutTable.ofDecls sceneConstants [streetDecl, shadowedDecl, houseDecl, townDecl]) rfl
  obtain ⟨table', h', hfirst'⟩ := exists_of_any (p := fun table : LayoutTable =>
    table.layouts.head?.map (·.name) = some "House")
    (x := LayoutTable.ofDecls sceneConstants [houseDecl, streetDecl, townDecl, shadowedDecl]) rfl
  have hperm : [streetDecl, shadowedDecl, houseDecl, townDecl].Perm [houseDecl, streetDecl, townDecl, shadowedDecl] := by
    decide
  obtain ⟨hget, hdescribe⟩ := ofDecls_perm (by decide) hperm h h'
  have hne : table ≠ table' := by
    rintro rfl
    rw [hfirst] at hfirst'
    simp at hfirst'
  exact ⟨table, table', h, h', hne, hget "Town", hdescribe (.named "f32")⟩

end ShaderInterface
