/-
Types as a declaration writes them. Arrays are structural, because their lengths decide sizes. Any other type is a
name: a plain identifier, or an identifier with its arguments in the normal form that `TypeExpr.text` also uses for
arrays, with no white space and no number suffixes on lengths.
-/

namespace ShaderInterface

inductive ArrayLength where
  /-- a literal count -/
  | fixed (count : Nat)
  /-- a count that an integer constant names -/
  | constant (name : String)
  /-- as many elements as the bound buffer holds -/
  | runtime
deriving DecidableEq, Repr

inductive TypeExpr where
  | named (name : String)
  | array (element : TypeExpr) (length : ArrayLength)
deriving DecidableEq, Repr

/-- what follows the element in the text of an array type -/
def ArrayLength.text : ArrayLength → String
  | .fixed count => "," ++ toString count
  | .constant name => "," ++ name
  | .runtime => ""

/-- the normal form of a type -/
def TypeExpr.text : TypeExpr → String
  | .named name => name
  | .array element length => "array<" ++ element.text ++ length.text ++ ">"

/-- an array without a length -/
def TypeExpr.isRuntimeArray : TypeExpr → Bool
  | .array _ .runtime => true
  | _ => false

/-- the name below all arrays -/
def TypeExpr.leaf : TypeExpr → String
  | .named name => name
  | .array element _ => element.leaf

end ShaderInterface
