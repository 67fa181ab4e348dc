/-
Reading a type. The grammar on tokens is

  type     ::= ident | `array` `<` type `>` | `array` `<` type `,` length `>` | ident `<` argument (`,` argument)* `>`
  length   ::= number | ident
  argument ::= number | type

where the last form of a type is for identifiers other than `array`. A reader takes the tokens of one phrase off the
front of the list and answers the rest. Its fuel bounds the nesting; a fuel above the number of tokens never runs out,
because every type takes at least one token.
-/
import ShaderInterface.Error
import ShaderInterface.Text.Numeral

namespace ShaderInterface

/-- the tokens after the symbol that must come first -/
def expectSymbol (c : Char) : List Token → Except SyntaxFault (List Token)
  | .punct d :: rest => if d = c then .ok rest else .error (.unexpected (.symbol c) (some (.punct d)))
  | tokens => .error (.unexpected (.symbol c) tokens.head?)

/-- the length of an array, from after its element up to its closing bracket -/
def ArrayLength.read : List Token → Except SyntaxFault (ArrayLength × List Token)
  | .punct ',' :: .number literal :: rest =>
    match Numeral.arrayLength? literal.toList with
    | some count => .ok (.fixed count, rest)
    | none => .error (.badLength literal)
  | .punct ',' :: .ident name :: rest => .ok (.constant name, rest)
  | .punct ',' :: rest => .error (.unexpected .arrayLength rest.head?)
  | tokens => .ok (.runtime, tokens)

namespace TypeExpr

mutual

/-- the type at the front of the tokens -/
def read : Nat → List Token → Except SyntaxFault (TypeExpr × List Token)
  | 0, _ => .error (.unexpected .typeName none)
  | fuel + 1, .ident name :: .punct '<' :: rest =>
    if name = "array" then do
      let (element, rest) ← read fuel rest
      let (length, rest) ← ArrayLength.read rest
      let rest ← expectSymbol '>' rest
      .ok (.array element length, rest)
    else do
      let (arguments, rest) ← readArguments fuel rest
      .ok (.named (name ++ "<" ++ arguments ++ ">"), rest)
  | _ + 1, .ident name :: rest => .ok (.named name, rest)
  | _ + 1, tokens => .error (.unexpected .typeName tokens.head?)

/-- the text of the arguments up to the closing bracket, which is taken too -/
def readArguments : Nat → List Token → Except SyntaxFault (String × List Token)
  | 0, _ => .error (.unexpected .typeName none)
  | fuel + 1, tokens => do
    let (argument, rest) ← match tokens with
      | .number literal :: rest => .ok (literal, rest)
      | tokens => (read fuel tokens).map fun (type, rest) => (type.text, rest)
    match rest with
    | .punct ',' :: rest => do
      let (arguments, rest) ← readArguments fuel rest
      .ok (argument ++ "," ++ arguments, rest)
    | .punct '>' :: rest => .ok (argument, rest)
    | rest => .error (.unexpected (.commaOr '>') rest.head?)

end

/-- the type that a list of tokens is, with nothing after it -/
def ofTokens (tokens : List Token) : Except SyntaxFault TypeExpr :=
  match read (tokens.length + 1) tokens with
  | .ok (type, []) => .ok type
  | .ok (_, token :: _) => .error (.trailing token)
  | .error fault => .error fault

/-- the type that a text spells -/
def parse (text : String) : Except Error TypeExpr :=
  (ofTokens (Token.scan text)).mapError (Error.malformed text)

end TypeExpr
end ShaderInterface
