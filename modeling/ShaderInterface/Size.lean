/-
Byte sizes and offsets. They are natural numbers that must stay below 2^32: sums, products and roundings have no bound,
and what does not fit is either no size or clamped to the largest one, so nothing ever wraps.
-/

namespace ShaderInterface.Size

/-- sizes are below this bound, which is 2^32 -/
def limit : Nat := 4294967296

/-- `n` as a size, if it is one -/
def fits? (n : Nat) : Option Nat := if n < limit then some n else none

/-- `n`, or the largest size if `n` is none -/
def clamp (n : Nat) : Nat := min n (limit - 1)

/-- the least multiple of `align` that is at least `n`; no rounding when `align` is 0 -/
def roundUp (n align : Nat) : Nat := if align = 0 then n else (n + align - 1) / align * align

/-- `bytes` as a count of 4-byte words, if it is a whole number of them -/
def words? (bytes : Nat) : Option Nat := if bytes % 4 = 0 then some (bytes / 4) else none

end ShaderInterface.Size
