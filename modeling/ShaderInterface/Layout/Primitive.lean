/-
Primitive types: scalars, atomics, vectors and matrices, with their sizes and alignments.

A vector or matrix has two spellings, `vec3<f32>` and `vec3f`; white space inside a name does not count. Three
components hold the data of three scalars but align like four, so `vec3f` has size 12 and alignment 16, and a column
of three rows takes the room of four.
-/
import ShaderInterface.Size
import ShaderInterface.Text.WhiteSpace

namespace ShaderInterface

/-- a size and an alignment, in bytes -/
structure Extent where
  size : Nat
  align : Nat
deriving DecidableEq, Repr

inductive ScalarKind where
  | f32
  | i32
  | u32
  | f16
  | bool
deriving DecidableEq, Repr

namespace ScalarKind

def all : List ScalarKind := [.f32, .i32, .u32, .f16, .bool]

def name : ScalarKind → String
  | .f32 => "f32"
  | .i32 => "i32"
  | .u32 => "u32"
  | .f16 => "f16"
  | .bool => "bool"

/-- bytes that one scalar takes -/
def bytes : ScalarKind → Nat
  | .f16 => 2
  | _ => 4

/-- the letter that stands for the kind at the end of a short spelling -/
def letter : ScalarKind → Option Char
  | .f32 => some 'f'
  | .i32 => some 'i'
  | .u32 => some 'u'
  | .f16 => some 'h'
  | .bool => none

/-- the kind of that name -/
def ofName? (text : List Char) : Option ScalarKind := all.find? fun kind => kind.name.toList = text

/-- how the kind is written after the name of a vector or matrix: `<f32>` or `f` -/
def spellings (kind : ScalarKind) : List (List Char) :=
  ('<' :: kind.name.toList ++ ['>']) :: kind.letter.toList.map fun c => [c]

/-- the kind of that spelling -/
def ofSpelling? (text : List Char) : Option ScalarKind := all.find? fun kind => text ∈ kind.spellings

/-- matrices hold floating-point scalars only -/
def isFloat : ScalarKind → Bool
  | .f32 | .f16 => true
  | _ => false

end ScalarKind

/-- a count of vector components, matrix columns or matrix rows -/
inductive Dimension where
  | two
  | three
  | four
deriving DecidableEq, Repr

namespace Dimension

def ofChar? : Char → Option Dimension
  | '2' => some .two
  | '3' => some .three
  | '4' => some .four
  | _ => none

def count : Dimension → Nat
  | .two => 2
  | .three => 3
  | .four => 4

/-- scalars that the alignment of so many components counts -/
def alignCount : Dimension → Nat
  | .two => 2
  | _ => 4

end Dimension

inductive Shape where
  | scalar
  | atomic
  | vector (components : Dimension)
  | matrix (columns rows : Dimension)
deriving DecidableEq, Repr

structure Primitive where
  shape : Shape
  kind : ScalarKind
deriving DecidableEq, Repr

namespace Primitive

/-! ## Names -/

def scalar? (text : List Char) : Option Primitive := (ScalarKind.ofName? text).map fun kind => ⟨.scalar, kind⟩

/-- an atomic integer, which has the long spelling only -/
def atomic? (text : List Char) : Option Primitive :=
  if text = "atomic<i32>".toList then some ⟨.atomic, .i32⟩
  else if text = "atomic<u32>".toList then some ⟨.atomic, .u32⟩
  else none

def vector? : List Char → Option Primitive
  | 'v' :: 'e' :: 'c' :: n :: rest => do
    let components ← Dimension.ofChar? n
    let kind ← ScalarKind.ofSpelling? rest
    some ⟨.vector components, kind⟩
  | _ => none

def matrix? : List Char → Option Primitive
  | 'm' :: 'a' :: 't' :: c :: 'x' :: r :: rest => do
    let columns ← Dimension.ofChar? c
    let rows ← Dimension.ofChar? r
    let kind ← ScalarKind.ofSpelling? rest
    if kind.isFloat then some ⟨.matrix columns rows, kind⟩ else none
  | _ => none

/-- the primitive type of a name without white space -/
def ofChars? (text : List Char) : Option Primitive :=
  scalar? text <|> atomic? text <|> vector? text <|> matrix? text

/-- the primitive type of a name -/
def ofName? (name : String) : Option Primitive := ofChars? (squeeze name.toList)

/-! ## Extents -/

def vectorExtent (components : Dimension) (scalarBytes : Nat) : Extent :=
  ⟨components.count * scalarBytes, components.alignCount * scalarBytes⟩

def extent (p : Primitive) : Extent :=
  match p.shape with
  | .scalar | .atomic => ⟨p.kind.bytes, p.kind.bytes⟩
  | .vector components => vectorExtent components p.kind.bytes
  | .matrix columns rows =>
    let column := vectorExtent rows p.kind.bytes
    ⟨columns.count * Size.roundUp column.size column.align, column.align⟩

end Primitive

/-- the scalar kind that a primitive type holds, by the type's name -/
def ScalarKind.ofType? (name : String) : Option ScalarKind := (Primitive.ofName? name).map (·.kind)

end ShaderInterface
