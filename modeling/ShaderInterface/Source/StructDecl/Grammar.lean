/-
Finding the structs that a source declares. This is not a reader of whole WGSL: it looks for `struct`, a name and an
opening brace, reads the body, and skips every other token.

  body      ::= `}` | attribute body | ident `:` type (`,` | `;`) body | ident `:` type `}`
  attribute ::= `@` ident, and then any balanced group in parentheses

An error in a body ends the search and belongs to the struct that was being read. As for types, fuel above the number of
tokens never runs out.
-/
import ShaderInterface.Source.StructDecl
import ShaderInterface.Source.TypeExpr.Grammar

namespace ShaderInterface

/-- the tokens after the parenthesis that closes a group, `outer` parentheses inside it -/
def skipGroup : Nat → List Token → Except SyntaxFault (List Token)
  | _, [] => .error (.unexpected (.symbol ')') none)
  | outer, .punct '(' :: rest => skipGroup (outer + 1) rest
  | 0, .punct ')' :: rest => .ok rest
  | outer + 1, .punct ')' :: rest => skipGroup outer rest
  | outer, _ :: rest => skipGroup outer rest

/-- the tokens after an attribute whose `@` has been read -/
def skipAttribute : List Token → Except SyntaxFault (List Token)
  | .ident _ :: .punct '(' :: rest => skipGroup 0 rest
  | .ident _ :: rest => .ok rest
  | tokens => .error (.unexpected .attributeName tokens.head?)

/-- the tokens after a member: its separator is taken, a closing brace is left for the body -/
def skipSeparator : List Token → Except SyntaxFault (List Token)
  | .punct ',' :: rest => .ok rest
  | .punct ';' :: rest => .ok rest
  | .punct '\x7d' :: rest => .ok (.punct '\x7d' :: rest)
  | tokens => .error (.unexpected (.commaOr '\x7d') tokens.head?)

namespace StructDecl

/-- the members of a body whose opening brace has been read, through the closing brace -/
def readMembers : Nat → List Token → Except SyntaxFault (List Member × List Token)
  | 0, _ => .error (.unexpected .memberName none)
  | _ + 1, .punct '\x7d' :: rest => .ok ([], rest)
  | fuel + 1, .punct '@' :: rest => do
    let rest ← skipAttribute rest
    readMembers fuel rest
  | fuel + 1, .ident name :: rest => do
    let rest ← expectSymbol ':' rest
    let (type, rest) ← TypeExpr.read fuel rest
    let rest ← skipSeparator rest
    let (members, rest) ← readMembers fuel rest
    .ok (⟨name, type⟩ :: members, rest)
  | _ + 1, tokens => .error (.unexpected .memberName tokens.head?)

/-- the structs that a list of tokens declares -/
def readAll : Nat → List Token → Except Error (List StructDecl)
  | 0, _ => .ok []
  | _ + 1, [] => .ok []
  | fuel + 1, .ident "struct" :: .ident name :: .punct '\x7b' :: rest => do
    let (members, rest) ← (readMembers fuel rest).mapError (Error.malformed name)
    let decls ← readAll fuel rest
    .ok (ofMembers name members :: decls)
  | fuel + 1, .ident "struct" :: .ident _ :: rest => readAll fuel rest
  | fuel + 1, _ :: rest => readAll fuel rest

/-- the structs that a source declares, in order -/
def parseAll (source : String) : Except Error (List StructDecl) :=
  let tokens := Token.scan source
  readAll (tokens.length + 1) tokens

end StructDecl
end ShaderInterface
