/-
Integer literals. Two readers share one idea of a literal: drop the `u` and `i` letters at its end and read the digits,
which must name a number below 2^32. An array length may be hexadecimal; the value of a constant is decimal, may carry
a plus sign, and may have white space around it.
-/
import ShaderInterface.Size
import ShaderInterface.Text.WhiteSpace

namespace ShaderInterface.Numeral

/-- the value of a digit in a base up to 16 -/
def digit? (base : Nat) (c : Char) : Option Nat :=
  let value :=
    if '0' ≤ c ∧ c ≤ '9' then some (c.toNat - '0'.toNat)
    else if 'a' ≤ c ∧ c ≤ 'f' then some (c.toNat - 'a'.toNat + 10)
    else if 'A' ≤ c ∧ c ≤ 'F' then some (c.toNat - 'A'.toNat + 10)
    else none
  value.filter (· < base)

/-- the number that digits spell when they follow the digits of `n` -/
def extend? (base : Nat) : Nat → List Char → Option Nat
  | n, [] => some n
  | n, c :: rest => (digit? base c).bind fun d => extend? base (n * base + d) rest

/-- the number below 2^32 that a non-empty list of digits spells -/
def read? (base : Nat) (digits : List Char) : Option Nat :=
  if digits = [] then none else (extend? base 0 digits).bind Size.fits?

/-- a literal without the letters `u` and `i` at its end -/
def dropSuffix (literal : List Char) : List Char := dropTrailing (fun c => c = 'u' ∨ c = 'i') literal

/-- the array length that a number token spells -/
def arrayLength? (literal : List Char) : Option Nat :=
  match dropSuffix literal with
  | '0' :: 'x' :: digits => read? 16 digits
  | '0' :: 'X' :: digits => read? 16 digits
  | digits => read? 10 digits

/-- the integer that the value text of a constant spells -/
def constantValue? (text : List Char) : Option Nat :=
  match dropSuffix (trim text) with
  | '+' :: digits => read? 10 digits
  | digits => read? 10 digits

end ShaderInterface.Numeral
