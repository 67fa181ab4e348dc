/-
What can be wrong with the tokens of a struct or a type, and how a message says it.
-/
import ShaderInterface.Source.Token

namespace ShaderInterface

/-- what the grammar asks for at some place -/
inductive Expected where
  | attributeName
  | memberName
  | typeName
  | arrayLength
  /-- one symbol -/
  | symbol (c : Char)
  /-- a comma or the symbol that ends the list -/
  | commaOr (close : Char)
deriving DecidableEq, Repr

def Expected.text : Expected → String
  | .attributeName => "attribute name"
  | .memberName => "field name"
  | .typeName => "type name"
  | .arrayLength => "array length"
  | .symbol c => quoted (String.ofList [c])
  | .commaOr close => "`,` or " ++ quoted (String.ofList [close])

inductive SyntaxFault where
  /-- another token than the grammar asks for, or the end of the text -/
  | unexpected (expected : Expected) (found : Option Token)
  /-- a number that is no array length -/
  | badLength (literal : String)
  /-- a token after the end of a type that stands alone -/
  | trailing (found : Token)
deriving DecidableEq, Repr

def SyntaxFault.message : SyntaxFault → String
  | .unexpected expected found => "expected " ++ expected.text ++ ", found " ++ Token.describe found
  | .badLength literal => "invalid array length " ++ quoted literal
  | .trailing found => "unexpected " ++ quoted found.text ++ " after type"

end ShaderInterface
