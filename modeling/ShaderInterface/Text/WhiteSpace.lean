/-
White space: the Unicode property White_Space, and the two ways this library ignores it. A primitive type name drops
every white-space character (`squeeze`); the value text of a constant drops them at its ends (`trim`).
-/
import ShaderInterface.Text.CodeRange

namespace ShaderInterface

/-- the code points of White_Space: 25 in all -/
def whiteSpaceRanges : List (Nat × Nat) :=
  [(0x9, 0xD), (0x20, 0x20), (0x85, 0x85), (0xA0, 0xA0), (0x1680, 0x1680), (0x2000, 0x200A), (0x2028, 0x2029),
   (0x202F, 0x202F), (0x205F, 0x205F), (0x3000, 0x3000)]

/-- `c` is white space -/
def isWhiteSpace (c : Char) : Bool := inRanges whiteSpaceRanges c.toNat

/-- the text without any of its white space -/
def squeeze (text : List Char) : List Char := text.filter fun c => !isWhiteSpace c

/-- the text without the characters at its end that satisfy `p` -/
def dropTrailing (p : Char → Bool) (text : List Char) : List Char := (text.reverse.dropWhile p).reverse

/-- the text without white space at either end -/
def trim (text : List Char) : List Char := dropTrailing isWhiteSpace (text.dropWhile isWhiteSpace)

end ShaderInterface
