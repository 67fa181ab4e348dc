/-
Uniform values and their bytes. Floating-point scalars are bit patterns, which no step looks into.
-/
import ShaderInterface.Layout.Primitive

namespace ShaderInterface

/-- the contents of a buffer -/
abbrev Bytes := List UInt8

inductive UniformValue where
  | f32 (patterns : List UInt32)
  | i32 (values : List Int32)
  | u32 (values : List UInt32)
  | f16 (patterns : List UInt16)
  | bool (values : List Bool)
deriving DecidableEq

/-- the `width` low bytes of `n`, lowest first -/
def littleEndian : (width : Nat) → (n : Nat) → Bytes
  | 0, _ => []
  | width + 1, n => UInt8.ofNat n :: littleEndian width (n / 256)

namespace UniformValue

def kind : UniformValue → ScalarKind
  | .f32 _ => .f32
  | .i32 _ => .i32
  | .u32 _ => .u32
  | .f16 _ => .f16
  | .bool _ => .bool

/-- the scalars as unsigned numbers; truth is 1 -/
def words : UniformValue → List Nat
  | .f32 patterns => patterns.map (·.toNat)
  | .i32 values => values.map (·.toUInt32.toNat)
  | .u32 values => values.map (·.toNat)
  | .f16 patterns => patterns.map (·.toNat)
  | .bool values => values.map (·.toNat)

/-- the bytes in a buffer, each scalar lowest byte first -/
def encode (value : UniformValue) : Bytes := value.words.flatMap (littleEndian value.kind.bytes)

/-- the number of bytes, or the largest size if that is none -/
def byteLength (value : UniformValue) : Nat := Size.clamp (value.words.length * value.kind.bytes)

end UniformValue
end ShaderInterface
