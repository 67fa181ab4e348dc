/-
White space and comments between tokens.

Tokens may be written with any separators between them that begin with white space. Behind it a separator may have more
white space, line comments, and block comments with others inside. A block comment is chunks of text and nested comments
between its marks `/*` and `*/`. A chunk reaches to the next mark: it has no mark in it, and its last character makes none
with the mark that follows.

- `feedAll_inBlock`: in a block comment a text without marks changes only what its last character may begin.
- `feedAll_commentRest`: a comment inside others ends where it is closed, by induction on the comment.
- `scanChars_token`: a token in front of white space is scanned as itself.
- `scan_spacedOut`: so a text that spaces tokens out has these tokens, and readers of tokens do not see the separators.
-/
import Mathlib.Data.List.Chain
import ShaderInterface.Proofs.Source.Scanning
import ShaderInterface.Source.StructDecl.Grammar

namespace ShaderInterface

/-! ## Separators -/

/-- no mark of a block comment stands in the text -/
structure Unmarked (text : List Char) : Prop where
  opens : ¬ ['/', '*'] <:+: text
  closes : ¬ ['*', '/'] <:+: text

/-- what follows the `/*` of a block comment, through the `*/` that balances it; chunks of text may be empty -/
inductive CommentRest : List Char → Prop where
  | close {chunk : List Char} (unmarked : Unmarked chunk) (apart : chunk.getLast? ≠ some '/') :
    CommentRest (chunk ++ ['*', '/'])
  | nested {chunk inner rest : List Char} (unmarked : Unmarked chunk) (apart : chunk.getLast? ≠ some '*')
      (inside : CommentRest inner) (behind : CommentRest rest) :
    CommentRest (chunk ++ '/' :: '*' :: (inner ++ rest))

/-- white space, line comments with their ends of line, and block comments, in any order -/
inductive Trivia : List Char → Prop where
  | nil : Trivia []
  | white {c : Char} {rest : List Char} (white : isWhiteSpace c = true) (behind : Trivia rest) : Trivia (c :: rest)
  | line {text rest : List Char} (inLine : '\n' ∉ text) (behind : Trivia rest) :
    Trivia ('/' :: '/' :: (text ++ '\n' :: rest))
  | block {text rest : List Char} (comment : CommentRest text) (behind : Trivia rest) :
    Trivia ('/' :: '*' :: (text ++ rest))

/-- a separator begins with white space -/
inductive Separator : List Char → Prop where
  | begin {c : Char} {rest : List Char} (white : isWhiteSpace c = true) (trivia : Trivia rest) : Separator (c :: rest)

/-- the characters of the token are those that the scanner takes for such a token -/
def Token.WellFormed : Token → Prop
  | .ident name => isIdentifier name.toList = true
  | .number literal => isNumber literal.toList = true
  | .punct c => isWhiteSpace c = false ∧ startsIdent c = false ∧ c.isDigit = false

instance : DecidablePred Token.WellFormed
  | .ident name => inferInstanceAs (Decidable (isIdentifier name.toList = true))
  | .number literal => inferInstanceAs (Decidable (isNumber literal.toList = true))
  | .punct c => inferInstanceAs (Decidable (isWhiteSpace c = false ∧ startsIdent c = false ∧ c.isDigit = false))

/-- the text is the tokens, with separators before, between and behind them -/
inductive SpacedOut : List Token → List Char → Prop where
  | done {separator : List Char} (separates : Separator separator) : SpacedOut [] separator
  | token {separator rest : List Char} {token : Token} {tokens : List Token} (separates : Separator separator)
      (wellFormed : token.WellFormed) (behind : SpacedOut tokens rest) :
    SpacedOut (token :: tokens) (separator ++ (token.text.toList ++ rest))

/-! ## Block comments -/

/-- the two characters, side by side, are no mark of a block comment -/
def NoMark (a c : Char) : Prop := (a = '/' → c ≠ '*') ∧ (a = '*' → c ≠ '/')

theorem Unmarked.isChain {text : List Char} (h : Unmarked text) : text.IsChain NoMark := by
  rw [List.isChain_iff_forall_rel_of_append_cons_cons]
  rintro a c front back rfl
  have hpair : [a, c] <:+: front ++ a :: c :: back := ⟨front, back, by simp⟩
  constructor
  · rintro rfl rfl
    exact h.opens hpair
  · rintro rfl rfl
    exact h.closes hpair

/-- a chunk in front of a character that makes no mark with it -/
theorem Unmarked.isChain_snoc {text : List Char} (h : Unmarked text) {c : Char}
    (hlast : ∀ a, text.getLast? = some a → NoMark a c) : (text ++ [c]).IsChain NoMark :=
  List.isChain_append.2 ⟨h.isChain, List.isChain_singleton c, by simpa using hlast⟩

namespace Scanner

section Block

variable {outer : Nat} {finished : List Token}

/-- of two characters that are no mark only the second one matters for what follows -/
theorem feed_inBlock {a c : Char} (h : NoMark a c) :
    (⟨inBlock outer a, finished⟩ : Scanner).feed c = ⟨inBlock outer c, finished⟩ := by
  by_cases hslash : a = '/'
  · simp [inBlock, feed, hslash, h.1 hslash]
  · by_cases hstar : a = '*'
    · simp [inBlock, feed, hstar, h.2 hstar]
    · simp [inBlock, feed, hslash, hstar]

theorem feedAll_inBlock {a c : Char} {text : List Char} (h : (a :: (text ++ [c])).IsChain NoMark) :
    (⟨inBlock outer a, finished⟩ : Scanner).feedAll (text ++ [c]) = ⟨inBlock outer c, finished⟩ := by
  induction text generalizing a with
  | nil => exact feed_inBlock (List.isChain_cons_cons.1 h).1
  | cons b text ih =>
    obtain ⟨hab, hrest⟩ := List.isChain_cons_cons.1 h
    calc (⟨inBlock outer a, finished⟩ : Scanner).feedAll (b :: (text ++ [c]))
        = (⟨inBlock outer b, finished⟩ : Scanner).feedAll (text ++ [c]) := by rw [← feed_inBlock hab]; rfl
      _ = ⟨inBlock outer c, finished⟩ := ih hrest

/-- a chunk and the first character of the mark behind it -/
theorem feedAll_chunk {chunk : List Char} (h : Unmarked chunk) {c : Char}
    (hlast : ∀ a, chunk.getLast? = some a → NoMark a c) :
    (⟨.blockComment outer, finished⟩ : Scanner).feedAll (chunk ++ [c]) = ⟨inBlock outer c, finished⟩ := by
  -- a blank in front makes no mark with anything
  have hblank : (' ' :: (chunk ++ [c])).IsChain NoMark :=
    (h.isChain_snoc hlast).cons fun _ _ => ⟨by simp, by simp⟩
  exact feedAll_inBlock hblank

/-- **A block comment ends where it is closed**, whatever comments it is in and whatever comments are in it. -/
theorem feedAll_commentRest {text : List Char} (h : CommentRest text) :
    (⟨.blockComment outer, finished⟩ : Scanner).feedAll text = ⟨closeBlock outer, finished⟩ := by
  induction h generalizing outer with
  | @close chunk unmarked apart =>
    have hlast : ∀ a, chunk.getLast? = some a → NoMark a '*' := by
      rintro a ha
      refine ⟨?_, by simp⟩
      rintro rfl
      exact absurd ha apart
    have htext : chunk ++ ['*', '/'] = chunk ++ ['*'] ++ ['/'] := by simp
    rw [htext, feedAll_append, feedAll_chunk unmarked hlast]
    rfl
  | @nested chunk inner rest unmarked apart inside behind ihinside ihbehind =>
    have hlast : ∀ a, chunk.getLast? = some a → NoMark a '/' := by
      rintro a ha
      refine ⟨by simp, ?_⟩
      rintro rfl
      exact absurd ha apart
    have htext : chunk ++ '/' :: '*' :: (inner ++ rest) = chunk ++ ['/'] ++ '*' :: (inner ++ rest) := by simp
    calc (⟨.blockComment outer, finished⟩ : Scanner).feedAll (chunk ++ '/' :: '*' :: (inner ++ rest))
        = (⟨.blockComment (outer + 1), finished⟩ : Scanner).feedAll (inner ++ rest) := by
          rw [htext, feedAll_append, feedAll_chunk unmarked hlast]
          rfl
      _ = (⟨closeBlock (outer + 1), finished⟩ : Scanner).feedAll rest := by rw [feedAll_append, ihinside]
      _ = ⟨closeBlock outer, finished⟩ := ihbehind

end Block

/-! ## Trivia -/

theorem openWith_white {c : Char} (h : isWhiteSpace c = true) (finished : List Token) :
    openWith finished c = ⟨.nothing, finished⟩ := by rw [openWith, if_pos h]

theorem feedAll_line {text : List Char} (h : '\n' ∉ text) (finished : List Token) :
    (⟨.lineComment, finished⟩ : Scanner).feedAll text = ⟨.lineComment, finished⟩ := by
  induction text with
  | nil => rfl
  | cons c rest ih =>
    rw [List.mem_cons, not_or] at h
    have hstep : (⟨.lineComment, finished⟩ : Scanner).feed c = ⟨.lineComment, finished⟩ := by
      rw [feed, if_neg (Ne.symm h.1)]
    rw [feedAll, List.foldl_cons, hstep]
    exact ih h.2

/-- **Trivia leaves nothing behind.** -/
theorem feedAll_trivia {text : List Char} (h : Trivia text) (finished : List Token) :
    (⟨.nothing, finished⟩ : Scanner).feedAll text = ⟨.nothing, finished⟩ := by
  induction h with
  | nil => rfl
  | @white c rest white behind ih =>
    rw [feedAll, List.foldl_cons, feed, openWith_white white]
    exact ih
  | @line text rest inLine behind ih =>
    calc (⟨.nothing, finished⟩ : Scanner).feedAll ('/' :: '/' :: (text ++ '\n' :: rest))
        = (⟨.lineComment, finished⟩ : Scanner).feedAll (text ++ '\n' :: rest) := rfl
      _ = (⟨.lineComment, finished⟩ : Scanner).feedAll ('\n' :: rest) := by rw [feedAll_append, feedAll_line inLine]
      _ = ⟨.nothing, finished⟩ := ih
  | @block text rest comment behind ih =>
    calc (⟨.nothing, finished⟩ : Scanner).feedAll ('/' :: '*' :: (text ++ rest))
        = (⟨.blockComment 0, finished⟩ : Scanner).feedAll (text ++ rest) := rfl
      _ = (⟨closeBlock 0, finished⟩ : Scanner).feedAll rest := by rw [feedAll_append, feedAll_commentRest comment]
      _ = ⟨.nothing, finished⟩ := ih

end Scanner

/-! ## Tokens between separators -/

namespace Token

open Scanner

theorem reads_separator {separator : List Char} (h : Separator separator) : Reads separator [] := by
  cases h with
  | begin white trivia => exact reads_of_feedAll (feedAll_trivia (.white white trivia) [])

/-- the one symbol that may begin a comment, and does not in front of white space -/
theorem scanChars_slash {c : Char} (hc : isWhiteSpace c = true) (rest : List Char) :
    scanChars ('/' :: c :: rest) = .punct '/' :: scanChars (c :: rest) := by
  have hslash : c ≠ '/' := by
    rintro rfl
    exact absurd hc (by decide)
  have hstar : c ≠ '*' := by
    rintro rfl
    exact absurd hc (by decide)
  have hfeed : (start.feed '/').feed c = (start.feed c).after [.punct '/'] :=
    calc (start.feed '/').feed c = openWith [.punct '/'] c := by
          show feed ⟨.slash, []⟩ c = _
          rw [feed, if_neg hslash, if_neg hstar]
      _ = (start.feed c).after [.punct '/'] := openWith_after [] [.punct '/'] c
  calc scanChars ('/' :: c :: rest) = (((start.feed c).after [.punct '/']).feedAll rest).finish := by rw [← hfeed]; rfl
    _ = .punct '/' :: scanChars (c :: rest) := by rw [feedAll_after, finish_after]; rfl

/-- **A token in front of white space is scanned as itself.** -/
theorem scanChars_token {token : Token} (h : token.WellFormed) {c : Char} (hc : isWhiteSpace c = true)
    (rest : List Char) : scanChars (token.text.toList ++ c :: rest) = token :: scanChars (c :: rest) := by
  have hseparates := separates_of_white hc
  cases token with
  | ident name =>
    have hname : scanChars name.toList = [.ident name] := scan_identifier h
    rw [text, scanChars_append (slash_notMem_identifier h) hseparates, hname, List.singleton_append]
  | number literal =>
    have hliteral : scanChars literal.toList = [.number literal] := scan_number h
    rw [text, scanChars_append (slash_notMem_number h) hseparates, hliteral, List.singleton_append]
  | punct d =>
    obtain ⟨hwhite, hident, hdigit⟩ := h
    rw [text, String.toList_ofList, List.singleton_append]
    by_cases hslash : d = '/'
    · subst hslash
      exact scanChars_slash hc rest
    · exact scanChars_symbol (by simp [isSymbol, hwhite, hident, hdigit, hslash]) _

theorem SpacedOut.begins {tokens : List Token} {text : List Char} (h : SpacedOut tokens text) :
    ∃ c rest, text = c :: rest ∧ isWhiteSpace c = true := by
  cases h with
  | done separates =>
    cases separates with
    | begin white trivia => exact ⟨_, _, rfl, white⟩
  | token separates wellFormed behind =>
    cases separates with
    | begin white trivia => exact ⟨_, _, rfl, white⟩

/-- **The tokens of a text that spaces them out**, by induction on the tokens. -/
theorem scanChars_spacedOut {tokens : List Token} {text : List Char} (h : SpacedOut tokens text) :
    scanChars text = tokens := by
  induction h with
  | @done separator separates =>
    have hreads := reads_separator separates []
    rwa [List.append_nil] at hreads
  | @token separator rest token tokens separates wellFormed behind ih =>
    obtain ⟨c, more, rfl, hc⟩ := SpacedOut.begins behind
    rw [reads_separator separates, List.nil_append, scanChars_token wellFormed hc, ih]

end Token

def spacedTokens : List Token :=
  [.ident "array", .punct '<', .ident "λ₂", .punct ',', .number "0x10u", .punct '>']

/-- block comments inside others, marks of comments in comments of the other kind, and an ideographic space -/
def spacedText : String := " /* / /* **/ * */array\t// */ /*\n< λ₂\n,\u3000/**/0x10u > "

theorem spacedOut_spacedText : SpacedOut spacedTokens spacedText.toList := by
  have hinner : CommentRest [' ', '*', '*', '/'] := @CommentRest.close [' ', '*'] ⟨by decide, by decide⟩ (by decide)
  have hbehind : CommentRest [' ', '*', ' ', '*', '/'] :=
    @CommentRest.close [' ', '*', ' '] ⟨by decide, by decide⟩ (by decide)
  have hnested : CommentRest [' ', '/', ' ', '/', '*', ' ', '*', '*', '/', ' ', '*', ' ', '*', '/'] :=
    @CommentRest.nested [' ', '/', ' '] _ _ ⟨by decide, by decide⟩ (by decide) hinner hbehind
  have hempty : CommentRest ['*', '/'] := @CommentRest.close [] ⟨by decide, by decide⟩ (by decide)
  have hblocks : Separator " /* / /* **/ * */".toList := .begin (by decide) (.block hnested .nil)
  have hline : Separator "\t// */ /*\n".toList :=
    .begin (by decide) (@Trivia.line [' ', '*', '/', ' ', '/', '*'] _ (by decide) .nil)
  have hwide : Separator "\u3000/**/".toList := .begin (by decide) (.block hempty .nil)
  have hblank : Separator [' '] := .begin (by decide) .nil
  have hend : Separator ['\n'] := .begin (by decide) .nil
  have hname : Token.WellFormed (.ident "λ₂") := by decide +kernel
  exact .token hblocks (by decide) <| .token hline (by decide) <| .token hblank hname <| .token hend (by decide) <|
    .token hwide (by decide) <| .token hblank (by decide) <| .done hblank

end ShaderInterface
