/-
The layouts of the structs of one source, in order of declaration, with the integer constants that array lengths may
name.

A type has the extent of its primitive type, else of the struct of that name, and an array the extent of so many
elements, each rounded up to the element's alignment. A runtime array counts as one 16-byte placeholder, whatever its
elements are, and stands only at the end of a struct.
-/
import ShaderInterface.Layout.StructLayout

namespace ShaderInterface

/-- the extent that stands for an array without a length -/
def runtimeArrayExtent : Extent := ⟨16, 16⟩

structure LayoutTable where
  layouts : List StructLayout := []
  constants : Table String Nat := .empty
deriving DecidableEq

namespace LayoutTable

/-- the layout of a struct, the first of that name -/
def get? (table : LayoutTable) (name : String) : Option StructLayout := table.layouts.find? (·.name = name)

/-- the extent of a type that is no array -/
def namedExtent? (table : LayoutTable) (name : String) : Option Extent :=
  ((Primitive.ofName? name).map (·.extent)) <|> ((table.get? name).map (·.extent))

/-- the number of elements of an array, `none` for a runtime array -/
def elementCount (table : LayoutTable) (type : TypeExpr) : ArrayLength → Except Error (Option Nat)
  | .runtime => .ok none
  | .fixed count => .ok (some count)
  | .constant name =>
    match table.constants.get? name with
    | some count => .ok (some count)
    | none => .error (.unknownConstant type name)

/-- the extent of a type; an unknown name is reported for a member of an owner -/
def extentOf (table : LayoutTable) (owner member : String) : TypeExpr → Except Error Extent
  | .named name =>
    match table.namedExtent? name with
    | some extent => .ok extent
    | none => .error (.unknownType owner member name)
  | .array element length => do
    match ← table.elementCount (.array element length) length with
    | none => .ok runtimeArrayExtent
    | some 0 => .error (.zeroLengthArray (.array element length))
    | some count =>
      let extent ← table.extentOf owner member element
      match Size.fits? (Size.roundUp extent.size extent.align * count) with
      | some size => .ok ⟨size, extent.align⟩
      | none => .error (.typeTooLarge (.array element length))

/-- the extent of a type that stands alone -/
def describe (table : LayoutTable) (type : TypeExpr) : Except Error Extent :=
  table.extentOf type.text type.text type

/-! ## Adding structs -/

/-- the largest alignment among types, each reported for the first member that has it -/
def maxAlign (table : LayoutTable) (decl : StructDecl) : List TypeExpr → Except Error Nat
  | [] => .ok 0
  | type :: rest => do
    let member := ((decl.members.find? (·.type = type)).map (·.name)).getD ""
    let extent ← table.extentOf decl.name member type
    let others ← table.maxAlign decl rest
    .ok (max extent.align others)

/-- the members with their extents; only the last may be a runtime array -/
def memberExtents (table : LayoutTable) (owner : String) : List Member → Except Error (List (Member × Extent))
  | [] => .ok []
  | member :: rest =>
    if member.type.isRuntimeArray ∧ rest ≠ [] then
      .error (.runtimeArrayNotLast owner member.name member.type)
    else do
      let extent ← table.extentOf owner member.name member.type
      let others ← table.memberExtents owner rest
      .ok ((member, extent) :: others)

/-- the layout of a struct whose member types are in the table -/
def layout (table : LayoutTable) (decl : StructDecl) : Except Error StructLayout := do
  let block ← table.maxAlign decl decl.types
  let members ← table.memberExtents decl.name decl.members
  StructLayout.build decl.name block members

/-- the table with one more struct; a name that it has already keeps its layout -/
def add (table : LayoutTable) (decl : StructDecl) : Except Error LayoutTable :=
  if (table.get? decl.name).isSome then .ok table
  else do
    let layout ← table.layout decl
    .ok { table with layouts := table.layouts ++ [layout] }

/-- the table of a list of declarations, each of which may name those before it -/
def ofDecls (constants : Table String Nat) (decls : List StructDecl) : Except Error LayoutTable :=
  decls.foldlM add ⟨[], constants⟩

end LayoutTable
end ShaderInterface
