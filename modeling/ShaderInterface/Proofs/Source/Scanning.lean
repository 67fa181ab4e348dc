/-
Scanning a text piece by piece.

The scanner never looks back at finished tokens (`feedAll_after`). Without a `/` no comment is open at the end of a
piece, so a character that neither identifiers nor numbers go on with ends the piece's last token: a text is scanned as
its part before the separator and its part from the separator on (`scanChars_append`). `Reads` is the case of a piece
that ends between tokens whatever comes next. Generated source is made of such pieces.

- `scan_identifier`, `scan_number`: an identifier or a number is scanned as itself.
- `proper_of_scan`: identifiers and numbers that a scan finds are spelled like identifiers and numbers.
-/
import Mathlib.Tactic.SplitIfs
import ShaderInterface.Source.Token

namespace ShaderInterface

/-! ## Classes of characters -/

theorem exists_of_inRanges {ranges : List (Nat × Nat)} {n : Nat} (h : inRanges ranges n = true) :
    ∃ r ∈ ranges, r.1 ≤ n ∧ n ≤ r.2 := by
  induction ranges with
  | nil => simp [inRanges] at h
  | cons r rest ih =>
    rw [inRanges] at h
    split at h
    · simp at h
    · split at h
      · next hfirst hlast => exact ⟨r, List.mem_cons_self, by omega, hlast⟩
      · obtain ⟨q, hq, hbounds⟩ := ih h
        exact ⟨q, List.mem_cons_of_mem r hq, hbounds⟩

/-- the code points of white space, one by one -/
def whiteSpacePoints : List Nat := whiteSpaceRanges.flatMap fun r => List.range' r.1 (r.2 + 1 - r.1)

theorem mem_whiteSpacePoints {c : Char} (h : isWhiteSpace c = true) : c.toNat ∈ whiteSpacePoints := by
  obtain ⟨r, hr, hlow, hhigh⟩ := exists_of_inRanges h
  refine List.mem_flatMap.2 ⟨r, hr, ?_⟩
  rw [List.mem_range'_1]
  omega

/-- white space is neither a letter nor a `/` nor a digit -/
theorem startsIdent_of_white {c : Char} (h : isWhiteSpace c = true) : startsIdent c = false := by
  have hletters : ∀ n ∈ whiteSpacePoints, inRanges alphabeticRanges n = false ∧ n ≠ '_'.toNat := by decide +kernel
  obtain ⟨hletter, hline⟩ := hletters c.toNat (mem_whiteSpacePoints h)
  have hne : c ≠ '_' := fun heq => hline (congrArg Char.toNat heq)
  simp [startsIdent, isAlphabetic, hletter, hne]

/-- a digit is neither white space nor a `/` nor a letter -/
theorem classes_of_digit {c : Char} (h : c.isDigit = true) :
    isWhiteSpace c = false ∧ c ≠ '/' ∧ startsIdent c = false := by
  have hdigits : ∀ n ∈ List.range' 48 10, inRanges whiteSpaceRanges n = false ∧ n ≠ '/'.toNat ∧
      inRanges alphabeticRanges n = false ∧ n ≠ '_'.toNat := by decide +kernel
  have hmem : c.toNat ∈ List.range' 48 10 := by
    simp only [Char.isDigit, Bool.and_eq_true, decide_eq_true_eq, UInt32.le_iff_toNat_le] at h
    rw [List.mem_range'_1]
    exact ⟨h.1, Nat.lt_succ_of_le h.2⟩
  obtain ⟨hwhite, hslash, hletter, hline⟩ := hdigits c.toNat hmem
  have hne : c ≠ '_' := fun heq => hline (congrArg Char.toNat heq)
  refine ⟨hwhite, fun heq => hslash (congrArg Char.toNat heq), ?_⟩
  simp [startsIdent, isAlphabetic, hletter, hne]

/-- `c` ends an identifier and a number -/
def separates (c : Char) : Bool := !continuesIdent c && !continuesNumber c

theorem separates_of_white {c : Char} (h : isWhiteSpace c = true) : separates c = true := by
  have hpoints : ∀ n ∈ whiteSpacePoints, separates (Char.ofNat n) = true := by decide +kernel
  have hc := hpoints c.toNat (mem_whiteSpacePoints h)
  rwa [Char.ofNat_toNat] at hc

/-- `c` is a token by itself wherever it stands -/
def isSymbol (c : Char) : Bool := !isWhiteSpace c && c != '/' && !startsIdent c && !c.isDigit

/-- the characters spell an identifier -/
def isIdentifier : List Char → Bool
  | [] => false
  | c :: rest => startsIdent c && rest.all continuesIdent

/-- the characters spell a number -/
def isNumber : List Char → Bool
  | [] => false
  | c :: rest => c.isDigit && rest.all continuesNumber

/-- an identifier or a number is spelled like one -/
def Token.Proper : Token → Prop
  | .ident name => isIdentifier name.toList = true
  | .number literal => isNumber literal.toList = true
  | .punct _ => True

theorem startsIdent_slash : startsIdent '/' = false := by decide

theorem continuesIdent_slash : continuesIdent '/' = false := by decide

theorem continuesNumber_slash : continuesNumber '/' = false := by decide

namespace Scanner

/-! ## Finished tokens -/

/-- the scan with other tokens finished before it, last first -/
def after (s : Scanner) (earlier : List Token) : Scanner := ⟨s.pending, s.finished ++ earlier⟩

theorem openWith_after (finished earlier : List Token) (c : Char) :
    openWith (finished ++ earlier) c = (openWith finished c).after earlier := by
  unfold openWith after
  split_ifs <;> rfl

/-- reading a character does not depend on finished tokens -/
theorem feed_after (s : Scanner) (earlier : List Token) (c : Char) :
    (s.after earlier).feed c = (s.feed c).after earlier := by
  obtain ⟨pending, finished⟩ := s
  cases pending with
  | nothing => exact openWith_after finished earlier c
  | slash =>
    simp only [after, feed]
    split_ifs
    · rfl
    · rfl
    · exact openWith_after (.punct '/' :: finished) earlier c
  | lineComment =>
    simp only [after, feed]
    split_ifs <;> rfl
  | blockComment outer => rfl
  | blockSlash outer => rfl
  | blockStar outer => rfl
  | ident reversed =>
    simp only [after, feed]
    split_ifs
    · rfl
    · exact openWith_after (identToken reversed :: finished) earlier c
  | number reversed =>
    simp only [after, feed]
    split_ifs
    · rfl
    · exact openWith_after (numberToken reversed :: finished) earlier c

theorem feedAll_after (s : Scanner) (earlier : List Token) (text : List Char) :
    (s.after earlier).feedAll text = (s.feedAll text).after earlier := by
  induction text generalizing s with
  | nil => rfl
  | cons c rest ih =>
    simp only [feedAll, List.foldl_cons, feed_after] at ih ⊢
    exact ih (s.feed c)

theorem finish_after (s : Scanner) (earlier : List Token) :
    (s.after earlier).finish = earlier.reverse ++ s.finish := by
  obtain ⟨pending, finished⟩ := s
  cases pending <;> simp [after, finish]

theorem feedAll_append (s : Scanner) (front back : List Char) :
    s.feedAll (front ++ back) = (s.feedAll front).feedAll back := List.foldl_append

/-! ## Between comments -/

/-- no comment is open, and none may be opening -/
def Clear (s : Scanner) : Prop :=
  match s.pending with
  | .nothing | .ident _ | .number _ => True
  | _ => False

theorem clear_openWith {finished : List Token} {c : Char} (hc : c ≠ '/') : (openWith finished c).Clear := by
  unfold openWith
  split_ifs <;> trivial

theorem clear_feed {s : Scanner} (hs : s.Clear) {c : Char} (hc : c ≠ '/') : (s.feed c).Clear := by
  obtain ⟨pending, finished⟩ := s
  cases pending with
  | nothing => exact clear_openWith hc
  | ident reversed =>
    simp only [feed]
    split_ifs
    · trivial
    · exact clear_openWith hc
  | number reversed =>
    simp only [feed]
    split_ifs
    · trivial
    · exact clear_openWith hc
  | _ => exact hs.elim

theorem clear_feedAll {s : Scanner} (hs : s.Clear) {text : List Char} (h : '/' ∉ text) : (s.feedAll text).Clear := by
  induction text generalizing s with
  | nil => exact hs
  | cons c rest ih =>
    rw [List.mem_cons, not_or] at h
    exact ih (clear_feed hs (Ne.symm h.1)) h.2

/-- a separator finishes the open token and is then read between tokens -/
theorem feed_separator {s : Scanner} (hs : s.Clear) {c : Char} (hc : separates c = true) :
    s.feed c = (start.feed c).after s.finish.reverse := by
  obtain ⟨hident, hnumber⟩ : continuesIdent c = false ∧ continuesNumber c = false := by
    simpa [separates] using hc
  have hopen : ∀ finished, openWith finished c = (openWith [] c).after finished := fun finished =>
    openWith_after [] finished c
  obtain ⟨pending, finished⟩ := s
  cases pending with
  | nothing => simpa [feed, start, finish] using hopen finished
  | ident reversed => simpa [feed, start, finish, hident] using hopen (identToken reversed :: finished)
  | number reversed => simpa [feed, start, finish, hnumber] using hopen (numberToken reversed :: finished)
  | _ => exact hs.elim

/-! ## Proper tokens -/

/-- what is read so far are proper tokens and the beginning of one -/
structure Sound (s : Scanner) : Prop where
  finished : ∀ token ∈ s.finished, token.Proper
  ident : ∀ reversed, s.pending = .ident reversed → (identToken reversed).Proper
  number : ∀ reversed, s.pending = .number reversed → (numberToken reversed).Proper

theorem isIdentifier_concat {text : List Char} {c : Char} (h : isIdentifier text = true)
    (hc : continuesIdent c = true) : isIdentifier (text ++ [c]) = true := by
  cases text with
  | nil => simp [isIdentifier] at h
  | cons d rest =>
    simp only [isIdentifier, Bool.and_eq_true, List.cons_append, List.all_append] at h ⊢
    exact ⟨h.1, h.2, by simpa using hc⟩

theorem isNumber_concat {text : List Char} {c : Char} (h : isNumber text = true) (hc : continuesNumber c = true) :
    isNumber (text ++ [c]) = true := by
  cases text with
  | nil => simp [isNumber] at h
  | cons d rest =>
    simp only [isNumber, Bool.and_eq_true, List.cons_append, List.all_append] at h ⊢
    exact ⟨h.1, h.2, by simpa using hc⟩

theorem sound_openWith {finished : List Token} (h : ∀ token ∈ finished, token.Proper) (c : Char) :
    (openWith finished c).Sound := by
  unfold openWith
  split_ifs with hwhite hslash hident hdigit
  · exact ⟨h, nofun, nofun⟩
  · exact ⟨h, nofun, nofun⟩
  · refine ⟨h, ?_, nofun⟩
    rintro _ ⟨⟩
    simpa [identToken, Token.Proper, isIdentifier] using hident
  · refine ⟨h, nofun, ?_⟩
    rintro _ ⟨⟩
    simpa [numberToken, Token.Proper, isNumber] using hdigit
  · exact ⟨List.forall_mem_cons.2 ⟨trivial, h⟩, nofun, nofun⟩

theorem sound_feed {s : Scanner} (h : s.Sound) (c : Char) : (s.feed c).Sound := by
  obtain ⟨pending, finished⟩ := s
  obtain ⟨hfinished, hident, hnumber⟩ := h
  simp only at hfinished hident hnumber
  cases pending with
  | nothing => exact sound_openWith hfinished c
  | slash =>
    simp only [feed]
    split_ifs
    · exact ⟨hfinished, nofun, nofun⟩
    · exact ⟨hfinished, nofun, nofun⟩
    · have hslash : (Token.punct '/').Proper := trivial
      exact sound_openWith (List.forall_mem_cons.2 ⟨hslash, hfinished⟩) c
  | lineComment =>
    simp only [feed]
    split_ifs <;> exact ⟨hfinished, nofun, nofun⟩
  | blockComment outer =>
    simp only [feed, inBlock]
    split_ifs <;> exact ⟨hfinished, nofun, nofun⟩
  | blockSlash outer =>
    simp only [feed, inBlock]
    split_ifs <;> exact ⟨hfinished, nofun, nofun⟩
  | blockStar outer =>
    simp only [feed, inBlock]
    cases outer <;> simp only [closeBlock] <;> split_ifs <;> exact ⟨hfinished, nofun, nofun⟩
  | ident reversed =>
    have hopen := hident reversed rfl
    simp only [feed]
    split_ifs with hc
    · refine ⟨hfinished, ?_, nofun⟩
      rintro _ ⟨⟩
      simp only [identToken, Token.Proper, String.toList_ofList, List.reverse_cons] at hopen ⊢
      exact isIdentifier_concat hopen hc
    · exact sound_openWith (List.forall_mem_cons.2 ⟨hopen, hfinished⟩) c
  | number reversed =>
    have hopen := hnumber reversed rfl
    simp only [feed]
    split_ifs with hc
    · refine ⟨hfinished, nofun, ?_⟩
      rintro _ ⟨⟩
      simp only [numberToken, Token.Proper, String.toList_ofList, List.reverse_cons] at hopen ⊢
      exact isNumber_concat hopen hc
    · exact sound_openWith (List.forall_mem_cons.2 ⟨hopen, hfinished⟩) c

theorem sound_feedAll {s : Scanner} (h : s.Sound) (text : List Char) : (s.feedAll text).Sound := by
  induction text generalizing s with
  | nil => exact h
  | cons c rest ih => exact ih (sound_feed h c)

theorem proper_of_finish {s : Scanner} (h : s.Sound) : ∀ token ∈ s.finish, token.Proper := by
  obtain ⟨pending, finished⟩ := s
  obtain ⟨hfinished, hident, hnumber⟩ := h
  have hreverse : ∀ tokens : List Token, (∀ token ∈ tokens, token.Proper) → ∀ token ∈ tokens.reverse, token.Proper :=
    fun tokens h token ht => h token (List.mem_reverse.1 ht)
  have hcons : ∀ last : Token, last.Proper → ∀ token ∈ (last :: finished).reverse, token.Proper :=
    fun last hlast => hreverse _ (List.forall_mem_cons.2 ⟨hlast, hfinished⟩)
  cases pending with
  | slash => exact hcons (.punct '/') trivial
  | ident reversed => exact hcons _ (hident reversed rfl)
  | number reversed => exact hcons _ (hnumber reversed rfl)
  | _ => exact hreverse _ hfinished

end Scanner

namespace Token

open Scanner

/-- the tokens of a list of characters -/
def scanChars (text : List Char) : List Token := (Scanner.start.feedAll text).finish

theorem scan_eq (text : String) : scan text = scanChars text.toList := rfl

/-- **The tokens that a scan finds are proper.** -/
theorem proper_of_scan (text : String) : ∀ token ∈ scan text, token.Proper := by
  have hstart : start.Sound := ⟨by simp [start], by simp [start], by simp [start]⟩
  exact proper_of_finish (sound_feedAll hstart _)

/-! ## Pieces of a text -/

/-- **A text is scanned up to a separator and from it on**, unless a comment may reach over it. -/
theorem scanChars_append {front back : List Char} {c : Char} (hfront : '/' ∉ front) (hc : separates c = true) :
    scanChars (front ++ c :: back) = scanChars front ++ scanChars (c :: back) := by
  have hstart : start.Clear := trivial
  have hclear : (start.feedAll front).Clear := clear_feedAll hstart hfront
  calc scanChars (front ++ c :: back)
      = (((start.feedAll front).feed c).feedAll back).finish := by rw [scanChars, feedAll_append]; rfl
    _ = (((start.feed c).after (scanChars front).reverse).feedAll back).finish := by
        rw [feed_separator hclear hc]; rfl
    _ = scanChars front ++ scanChars (c :: back) := by
        rw [feedAll_after, finish_after, List.reverse_reverse]; rfl

theorem scanChars_symbol {c : Char} (hc : isSymbol c = true) (rest : List Char) :
    scanChars (c :: rest) = .punct c :: scanChars rest := by
  obtain ⟨⟨⟨hwhite, hslash⟩, hident⟩, hdigit⟩ :
      ((isWhiteSpace c = false ∧ c ≠ '/') ∧ startsIdent c = false) ∧ c.isDigit = false := by
    simpa [isSymbol] using hc
  have hfeed : start.feed c = start.after [.punct c] := by
    simp [start, feed, openWith, after, hwhite, hslash, hident, hdigit]
  have hrest : (start.after [.punct c]).feedAll rest = (start.feedAll rest).after [.punct c] := feedAll_after _ _ _
  calc scanChars (c :: rest) = ((start.after [.punct c]).feedAll rest).finish := by rw [← hfeed]; rfl
    _ = .punct c :: scanChars rest := by rw [hrest, finish_after]; rfl

/-- a symbol between two texts is a token between theirs -/
theorem scan_join {front : String} (hfront : '/' ∉ front.toList) (symbol back : String) {c : Char}
    (hsymbol : symbol.toList = [c]) (hc : isSymbol c = true ∧ separates c = true) :
    scan (front ++ symbol ++ back) = scan front ++ .punct c :: scan back := by
  have htext : (front ++ symbol ++ back).toList = front.toList ++ c :: back.toList := by simp [hsymbol]
  rw [scan_eq, htext, scanChars_append hfront hc.2, scanChars_symbol hc.1, scan_eq, scan_eq]

/-! ## Identifiers and numbers -/

/-- characters that go on with an open token join it -/
theorem feedAll_continues (token : List Char → Pending) {continues : Char → Bool}
    (hfeed : ∀ reversed finished c, continues c = true →
      (⟨token reversed, finished⟩ : Scanner).feed c = ⟨token (c :: reversed), finished⟩)
    {reversed : List Char} {finished : List Token} {rest : List Char} (h : rest.all continues = true) :
    (⟨token reversed, finished⟩ : Scanner).feedAll rest = ⟨token (rest.reverse ++ reversed), finished⟩ := by
  induction rest generalizing reversed with
  | nil => rfl
  | cons c rest ih =>
    rw [List.all_cons, Bool.and_eq_true] at h
    calc (⟨token reversed, finished⟩ : Scanner).feedAll (c :: rest)
        = (⟨token (c :: reversed), finished⟩ : Scanner).feedAll rest := by rw [← hfeed _ _ _ h.1]; rfl
      _ = ⟨token ((c :: rest).reverse ++ reversed), finished⟩ := by rw [ih h.2]; simp

/-- **An identifier is scanned as itself.** -/
theorem scan_identifier {name : String} (h : isIdentifier name.toList = true) : scan name = [.ident name] := by
  cases htext : name.toList with
  | nil => simp [htext, isIdentifier] at h
  | cons c rest =>
    rw [htext, isIdentifier, Bool.and_eq_true] at h
    have hwhite : isWhiteSpace c = false := by
      cases hw : isWhiteSpace c with
      | false => rfl
      | true => simp [startsIdent_of_white hw] at h
    have hslash : c ≠ '/' := by
      rintro rfl
      simp [startsIdent_slash] at h
    have hfeed : start.feed c = ⟨.ident [c], []⟩ := by simp [start, feed, openWith, hwhite, hslash, h.1]
    have hrest : start.feedAll name.toList = ⟨.ident (rest.reverse ++ [c]), []⟩ := by
      rw [htext, feedAll, List.foldl_cons, hfeed]
      exact feedAll_continues .ident (fun _ _ _ hc => if_pos hc) h.2
    rw [scan, hrest]
    simp [finish, identToken, ← htext]

/-- **A number is scanned as itself.** -/
theorem scan_number {literal : String} (h : isNumber literal.toList = true) : scan literal = [.number literal] := by
  cases htext : literal.toList with
  | nil => simp [htext, isNumber] at h
  | cons c rest =>
    rw [htext, isNumber, Bool.and_eq_true] at h
    obtain ⟨hwhite, hslash, hident⟩ := classes_of_digit h.1
    have hfeed : start.feed c = ⟨.number [c], []⟩ := by simp [start, feed, openWith, hwhite, hslash, hident, h.1]
    have hrest : start.feedAll literal.toList = ⟨.number (rest.reverse ++ [c]), []⟩ := by
      rw [htext, feedAll, List.foldl_cons, hfeed]
      exact feedAll_continues .number (fun _ _ _ hc => if_pos hc) h.2
    rw [scan, hrest]
    simp [finish, numberToken, ← htext]

/-- decimal digits spell a number -/
theorem isNumber_toString (n : Nat) : isNumber (toString n).toList = true := by
  have hdigit : ∀ c ∈ (toString n).toList, c.isDigit = true := by
    intro c hc
    rw [Nat.toString_eq_repr, Nat.toList_repr] at hc
    exact Nat.isDigit_of_mem_toDigits (by decide) (by decide) hc
  have hlength : 0 < (toString n).toList.length := by
    rw [Nat.toString_eq_repr, Nat.toList_repr]
    exact Nat.length_toDigits_pos
  cases htext : (toString n).toList with
  | nil =>
    rw [htext] at hlength
    exact absurd hlength (Nat.lt_irrefl 0)
  | cons c rest =>
    rw [htext] at hdigit
    obtain ⟨hc, hrest⟩ := List.forall_mem_cons.1 hdigit
    simp only [isNumber, hc, Bool.true_and, List.all_eq_true]
    intro d hd
    simp [continuesNumber, Char.isAlphanum, hrest d hd]

theorem slash_notMem_number {text : List Char} (h : isNumber text = true) : '/' ∉ text := by
  cases text with
  | nil => simp
  | cons c rest =>
    simp only [isNumber, Bool.and_eq_true, List.all_eq_true] at h
    intro hmem
    rcases List.mem_cons.1 hmem with heq | hmem
    · exact (classes_of_digit h.1).2.1 heq.symm
    · exact absurd (h.2 '/' hmem) (by simp [continuesNumber_slash])

theorem slash_notMem_identifier {text : List Char} (h : isIdentifier text = true) : '/' ∉ text := by
  cases text with
  | nil => simp
  | cons c rest =>
    simp only [isIdentifier, Bool.and_eq_true, List.all_eq_true] at h
    intro hmem
    rcases List.mem_cons.1 hmem with heq | hmem
    · simp [← heq, startsIdent_slash] at h
    · exact absurd (h.2 '/' hmem) (by simp [continuesIdent_slash])

/-! ## Closed pieces -/

/-- whatever follows the piece, it is scanned as these tokens and what follows as if it stood alone -/
def Reads (piece : List Char) (tokens : List Token) : Prop :=
  ∀ rest, scanChars (piece ++ rest) = tokens ++ scanChars rest

theorem reads_of_feedAll {piece : List Char} {tokens : List Token}
    (h : start.feedAll piece = ⟨.nothing, tokens.reverse⟩) : Reads piece tokens := by
  intro rest
  have hafter : (⟨.nothing, tokens.reverse⟩ : Scanner) = start.after tokens.reverse := rfl
  rw [scanChars, feedAll_append, h, hafter, feedAll_after, finish_after, List.reverse_reverse]
  rfl

theorem reads_nil : Reads [] [] := fun _ => rfl

theorem Reads.append {front back : List Char} {tokens tokens' : List Token} (hfront : Reads front tokens)
    (hback : Reads back tokens') : Reads (front ++ back) (tokens ++ tokens') := by
  intro rest
  rw [List.append_assoc, hfront, hback, List.append_assoc]

/-- a piece without comments is closed by a separator behind it -/
theorem Reads.before {front back : List Char} {c : Char} {tokens : List Token} (hfront : '/' ∉ front)
    (hc : separates c = true) (hback : Reads (c :: back) tokens) :
    Reads (front ++ c :: back) (scanChars front ++ tokens) := by
  intro rest
  have hrest := hback rest
  rw [List.cons_append] at hrest
  rw [List.append_assoc, List.cons_append, scanChars_append hfront hc, hrest, List.append_assoc]

end Token
end ShaderInterface
