/-
Struct declarations: a name and typed members.
-/
import ShaderInterface.Source.TypeExpr

namespace ShaderInterface

structure Member where
  name : String
  type : TypeExpr
deriving DecidableEq, Repr

structure StructDecl where
  name : String
  members : List Member
  /-- the types of the members, each once -/
  types : List TypeExpr
deriving DecidableEq, Repr

/-- the elements of a list that are not in `seen`, each once, in order of first appearance -/
def distinctAfter {α : Type} [DecidableEq α] (seen : List α) : List α → List α
  | [] => []
  | a :: rest => if a ∈ seen then distinctAfter seen rest else a :: distinctAfter (a :: seen) rest

/-- the declaration of a struct with these members -/
def StructDecl.ofMembers (name : String) (members : List Member) : StructDecl :=
  ⟨name, members, distinctAfter [] (members.map (·.type))⟩

end ShaderInterface
