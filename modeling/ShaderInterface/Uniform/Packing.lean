/-
Packing values into a uniform buffer. Each value goes to the offset of the first member of its name; everything else
stays zero. A value must have the scalar kind of the member's type, if that type has one, and exactly the member's
size.
-/
import ShaderInterface.Layout.LayoutTable
import ShaderInterface.Uniform.Value

namespace ShaderInterface

/-- the scalar kind that a type holds, through any arrays -/
def TypeExpr.scalarKind? (type : TypeExpr) : Option ScalarKind := ScalarKind.ofType? type.leaf

/-- the buffer with `data` at `offset` -/
def overwrite (buffer : Bytes) (offset : Nat) (data : Bytes) : Bytes :=
  buffer.take offset ++ data ++ buffer.drop (offset + data.length)

namespace StructLayout

/-- the place of a value of that name, if the value suits the member there -/
def slotFor (layout : StructLayout) (name : String) (value : UniformValue) : Except Error Placement :=
  match layout.find? name with
  | none => .error (.unknownResource name)
  | some place =>
    if place.member.type.scalarKind?.any (· ≠ value.kind) then
      .error (.uniformValueKind name place.member.type value.kind)
    else if value.byteLength ≠ place.size then
      .error (.uniformValueSize name place.size value.byteLength)
    else .ok place

/-- the buffer with one more value -/
def write (layout : StructLayout) (buffer : Bytes) (entry : String × UniformValue) : Except Error Bytes := do
  let place ← layout.slotFor entry.1 entry.2
  .ok (overwrite buffer place.offset entry.2.encode)

/-- the buffer that holds these values, written in order -/
def pack (layout : StructLayout) (values : List (String × UniformValue)) : Except Error Bytes :=
  values.foldlM layout.write (List.replicate layout.byteSize 0)

end StructLayout
end ShaderInterface
