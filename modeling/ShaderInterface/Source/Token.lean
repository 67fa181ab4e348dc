/-
Tokens of WGSL source. A text is read one character at a time: `Scanner.feed` is the step and `Token.scan` folds it
over the text.

An identifier starts with an alphabetic character or `_` and goes on with alphabetic and numeric characters and `_`. A
number starts with an ASCII digit and goes on with ASCII letters, digits and `.`. Any other character that is not
white space is a token by itself. A line comment runs from `//` through the end of its line. A block comment runs from
`/*` to the `*/` that balances it, so block comments nest, or to the end of the text. White space and comments leave
no token.
-/
import ShaderInterface.Text.Alphabetic
import ShaderInterface.Text.Numeric
import ShaderInterface.Text.WhiteSpace

namespace ShaderInterface

inductive Token where
  | ident (name : String)
  | number (literal : String)
  | punct (symbol : Char)
deriving DecidableEq, Repr

/-- a text between backquotes, as messages show names and tokens -/
def quoted (text : String) : String := "`" ++ text ++ "`"

/-- the characters of a token -/
def Token.text : Token → String
  | .ident name => name
  | .number literal => literal
  | .punct symbol => String.ofList [symbol]

/-- how a message names what stands at some place: a token, or the end of the text -/
def Token.describe : Option Token → String
  | some token => quoted token.text
  | none => "end of input"

/-- `c` may start an identifier -/
def startsIdent (c : Char) : Bool := isAlphabetic c || c == '_'

/-- `c` may stand in an identifier after its first character -/
def continuesIdent (c : Char) : Bool := isAlphabetic c || isNumeric c || c == '_'

/-- `c` may stand in a number after its first digit -/
def continuesNumber (c : Char) : Bool := c.isAlphanum || c == '.'

/-! ## Scanner -/

/-- what the characters read since the last finished token amount to -/
inductive Pending where
  /-- nothing: between tokens -/
  | nothing
  /-- a `/`, which may open a comment -/
  | slash
  /-- an open line comment -/
  | lineComment
  /-- an open block comment inside `outer` others -/
  | blockComment (outer : Nat)
  /-- in a block comment, after a `/` that may open another -/
  | blockSlash (outer : Nat)
  /-- in a block comment, after a `*` that may close it -/
  | blockStar (outer : Nat)
  /-- an identifier so far, last character first -/
  | ident (reversed : List Char)
  /-- a number so far, last character first -/
  | number (reversed : List Char)
deriving DecidableEq, Repr

/-- a scan in progress: the open end of the text, and the finished tokens, last first -/
structure Scanner where
  pending : Pending
  finished : List Token
deriving DecidableEq, Repr

namespace Scanner

def start : Scanner := ⟨.nothing, []⟩

/-- read `c` between tokens -/
def openWith (finished : List Token) (c : Char) : Scanner :=
  if isWhiteSpace c then ⟨.nothing, finished⟩
  else if c = '/' then ⟨.slash, finished⟩
  else if startsIdent c then ⟨.ident [c], finished⟩
  else if c.isDigit then ⟨.number [c], finished⟩
  else ⟨.nothing, .punct c :: finished⟩

/-- read `c` as the next character of a block comment -/
def inBlock (outer : Nat) (c : Char) : Pending :=
  if c = '/' then .blockSlash outer else if c = '*' then .blockStar outer else .blockComment outer

/-- what is open once a block comment inside `outer` others closes -/
def closeBlock : Nat → Pending
  | 0 => .nothing
  | outer + 1 => .blockComment outer

/-- the token that a reversed identifier spells -/
def identToken (reversed : List Char) : Token := .ident (String.ofList reversed.reverse)

/-- the token that a reversed number spells -/
def numberToken (reversed : List Char) : Token := .number (String.ofList reversed.reverse)

/-- read one character -/
def feed (s : Scanner) (c : Char) : Scanner :=
  match s.pending with
  | .nothing => openWith s.finished c
  | .slash =>
    if c = '/' then ⟨.lineComment, s.finished⟩
    else if c = '*' then ⟨.blockComment 0, s.finished⟩
    else openWith (.punct '/' :: s.finished) c
  | .lineComment => if c = '\n' then ⟨.nothing, s.finished⟩ else s
  | .blockComment outer => ⟨inBlock outer c, s.finished⟩
  | .blockSlash outer => ⟨if c = '*' then .blockComment (outer + 1) else inBlock outer c, s.finished⟩
  | .blockStar outer => ⟨if c = '/' then closeBlock outer else inBlock outer c, s.finished⟩
  | .ident reversed =>
    if continuesIdent c then ⟨.ident (c :: reversed), s.finished⟩
    else openWith (identToken reversed :: s.finished) c
  | .number reversed =>
    if continuesNumber c then ⟨.number (c :: reversed), s.finished⟩
    else openWith (numberToken reversed :: s.finished) c

/-- the tokens, once the text ends; a comment may be left open -/
def finish (s : Scanner) : List Token :=
  match s.pending with
  | .slash => (.punct '/' :: s.finished).reverse
  | .ident reversed => (identToken reversed :: s.finished).reverse
  | .number reversed => (numberToken reversed :: s.finished).reverse
  | _ => s.finished.reverse

/-- read a list of characters -/
def feedAll (s : Scanner) (text : List Char) : Scanner := text.foldl feed s

end Scanner

/-- the tokens of a text, in order -/
def Token.scan (text : String) : List Token := (Scanner.start.feedAll text.toList).finish

end ShaderInterface
