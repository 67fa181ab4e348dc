/-
Sets of characters as ranges of code points. A property of characters is a list of closed ranges in ascending order,
so a search stops at the first range that starts past the code point.
-/

namespace ShaderInterface

/-- `n` lies in one of the ranges, which ascend -/
def inRanges : List (Nat × Nat) → Nat → Bool
  | [], _ => false
  | (first, last) :: rest, n => if n < first then false else if n ≤ last then true else inRanges rest n

end ShaderInterface
