/-
The normal form of a type, read back.

A type is written without white space, its names and numbers apart by brackets and commas. So the tokens of its text are
those that were printed, and they spell it again: an array as an array, any other generic as the same text, arrays among
its arguments included. Lengths come back from their decimal digits.

- `scan_bracketed`, `scan_counted`: the tokens of what is printed in brackets, and of a length behind an element.
- `rereads_of_spelled`: the text of a phrase spells the phrase again, by induction on the grammar.
- `parse_text`: a parsed type is parsed again from its text, so its text identifies it.
-/
import ShaderInterface.Proofs.Source.InertText
import ShaderInterface.Proofs.Text.Numeral

namespace ShaderInterface

open Token

/-- the text of a type, if it is one, in normal form -/
def TypeExpr.normalize (text : String) : Except Error String := (TypeExpr.parse text).map TypeExpr.text

/-! ## White space -/

/-- no character of the text is white space -/
def Unspaced (text : String) : Prop := ∀ c ∈ text.toList, isWhiteSpace c = false

theorem isWhiteSpace_of_separates {c : Char} (h : separates c = false) : isWhiteSpace c = false := by
  rw [Bool.eq_false_iff]
  intro hwhite
  simp [separates_of_white hwhite] at h

theorem unspaced_identifier {name : String} (h : isIdentifier name.toList = true) : Unspaced name := by
  intro c hc
  cases htext : name.toList with
  | nil => simp [htext] at hc
  | cons first rest =>
    rw [htext, isIdentifier, Bool.and_eq_true, List.all_eq_true] at h
    rw [htext] at hc
    rcases List.mem_cons.1 hc with rfl | hrest
    · rw [Bool.eq_false_iff]
      intro hwhite
      simp [startsIdent_of_white hwhite] at h
    · exact isWhiteSpace_of_separates (by simp [separates, h.2 c hrest])

theorem unspaced_number {literal : String} (h : isNumber literal.toList = true) : Unspaced literal := by
  intro c hc
  cases htext : literal.toList with
  | nil => simp [htext] at hc
  | cons first rest =>
    rw [htext, isNumber, Bool.and_eq_true, List.all_eq_true] at h
    rw [htext] at hc
    rcases List.mem_cons.1 hc with rfl | hrest
    · exact (classes_of_digit h.1).1
    · exact isWhiteSpace_of_separates (by simp [separates, h.2 c hrest])

theorem Unspaced.join {front back : String} (hfront : Unspaced front) (hback : Unspaced back) (symbol : String) {c : Char}
    (hsymbol : symbol.toList = [c]) (hc : isWhiteSpace c = false) : Unspaced (front ++ symbol ++ back) := by
  intro d hd
  simp only [String.toList_append, hsymbol, List.mem_append, List.mem_singleton] at hd
  rcases hd with (hd | rfl) | hd
  · exact hfront d hd
  · exact hc
  · exact hback d hd

theorem Unspaced.bracketed {name text : String} (hname : Unspaced name) (htext : Unspaced text) :
    Unspaced (name ++ "<" ++ text ++ ">") := by
  have hempty : Unspaced "" := fun c hc => by simp at hc
  have hopen : Unspaced (name ++ "<" ++ text) := hname.join htext "<" rfl (by decide)
  have hclose := hopen.join hempty ">" rfl (by decide)
  rwa [String.append_empty] at hclose

/-! ## Tokens of a text in normal form -/

theorem scan_bracketed {name text : String} (hname : Plain name) (htext : Plain text) :
    Token.scan (name ++ "<" ++ text ++ ">") =
      Token.scan name ++ .punct '<' :: (Token.scan text ++ [.punct '>']) := by
  have hopen : Plain (name ++ "<" ++ text) := hname.join htext "<" rfl (by decide)
  have hbracket := scan_join hname.slash "<" text (c := '<') rfl (by decide)
  have hclose := scan_join hopen.slash ">" "" (c := '>') rfl (by decide)
  have hempty : Token.scan "" = [] := rfl
  rw [String.append_empty, hbracket, hempty, List.append_assoc, List.cons_append] at hclose
  exact hclose

/-- a length is written so that it is read back -/
theorem scan_counted {text : String} (htext : Plain text) {length : ArrayLength} {tokens : List Token}
    (count : length.Spelled tokens) (hproper : ∀ token ∈ tokens, token.Proper) :
    ∃ back, length.Spelled back ∧ Token.scan (text ++ length.text) = Token.scan text ++ back := by
  cases count with
  | @fixed literal n value =>
    have hn := Numeral.lt_of_arrayLength? value
    have hscan := scan_join htext.slash "," (toString n) (c := ',') rfl (by decide)
    rw [scan_number (isNumber_toString n), String.append_assoc] at hscan
    exact ⟨_, .fixed (Numeral.arrayLength?_toString hn), hscan⟩
  | constant name =>
    have hname := constant_identifier (.constant name) hproper rfl
    have hscan := scan_join htext.slash "," name (c := ',') rfl (by decide)
    rw [scan_identifier hname, String.append_assoc] at hscan
    exact ⟨_, .constant name, hscan⟩
  | runtime => exact ⟨[], .runtime, by rw [ArrayLength.text, String.append_empty, List.append_nil]⟩

theorem Unspaced.counted {text : String} (htext : Unspaced text) {length : ArrayLength}
    (hlength : ∀ name, length = .constant name → isIdentifier name.toList = true) : Unspaced (text ++ length.text) := by
  cases length with
  | fixed count =>
    have hcount := unspaced_number (isNumber_toString count)
    rw [ArrayLength.text, ← String.append_assoc]
    exact htext.join hcount "," rfl (by decide)
  | constant name =>
    have hname := unspaced_identifier (hlength name rfl)
    rw [ArrayLength.text, ← String.append_assoc]
    exact htext.join hname "," rfl (by decide)
  | runtime =>
    rw [ArrayLength.text, String.append_empty]
    exact htext

/-! ## Texts of phrases -/

/-- the text of a phrase spells the phrase again, without white space -/
structure Rereads (phrase : Phrase) : Prop where
  unspaced : Unspaced phrase.text
  spelled : Phrase.Spelled (Token.scan phrase.text) phrase

theorem rereads_array {element : TypeExpr} (helement : Rereads (.type element)) (hplain : Plain element.text)
    {length : ArrayLength} {tokens : List Token} (count : length.Spelled tokens)
    (hproper : ∀ token ∈ tokens, token.Proper) : Rereads (.type (.array element length)) := by
  have hname : isIdentifier "array".toList = true := by decide
  have hlength : ∀ name, length = .constant name → isIdentifier name.toList = true := fun _ =>
    constant_identifier count hproper
  have htext : (TypeExpr.array element length).text = "array" ++ "<" ++ (element.text ++ length.text) ++ ">" := by
    rw [← String.append_assoc]
    rfl
  have hspaces : Unspaced (element.text ++ length.text) := Unspaced.counted helement.unspaced hlength
  obtain ⟨back, hback, hscan⟩ := scan_counted hplain count hproper
  constructor
  · rw [Phrase.text, htext]
    exact (unspaced_identifier hname).bracketed hspaces
  · rw [Phrase.text, htext, scan_bracketed (plain_identifier hname) (hplain.counted hlength), hscan, scan_identifier hname,
      List.append_assoc]
    exact .array helement.spelled hback

theorem rereads_of_spelled {tokens : List Token} {phrase : Phrase} (h : Phrase.Spelled tokens phrase)
    (hproper : ∀ token ∈ tokens, token.Proper) : Rereads phrase := by
  induction h with
  | named name =>
    have hname : isIdentifier name.toList = true := hproper _ List.mem_cons_self
    refine ⟨unspaced_identifier hname, ?_⟩
    rw [Phrase.text, TypeExpr.text, scan_identifier hname]
    exact .named name
  | @array front back element length of count ih =>
    have hfront : ∀ token ∈ front, token.Proper := fun token ht => hproper token (by simp [ht])
    exact rereads_array (ih hfront) (plain_of_spelled of hfront) count fun token ht => hproper token (by simp [ht])
  | @generic tokens name text other of ih =>
    have hname : isIdentifier name.toList = true := hproper _ List.mem_cons_self
    have htokens : ∀ token ∈ tokens, token.Proper := fun token ht => hproper token (by simp [ht])
    have hplain : Plain text := plain_of_spelled of htokens
    obtain ⟨hspaces, hspelled⟩ := ih htokens
    refine ⟨(unspaced_identifier hname).bracketed hspaces, ?_⟩
    rw [Phrase.text, TypeExpr.text, scan_bracketed (plain_identifier hname) hplain, scan_identifier hname]
    exact .generic other hspelled
  | number literal =>
    have hliteral : isNumber literal.toList = true := hproper _ List.mem_cons_self
    refine ⟨unspaced_number hliteral, ?_⟩
    rw [Phrase.text, scan_number hliteral]
    exact .number literal
  | ofType spelled ih =>
    obtain ⟨hspaces, hspelled⟩ := ih hproper
    exact ⟨hspaces, .ofType hspelled⟩
  | last spelled ih =>
    obtain ⟨hspaces, hspelled⟩ := ih hproper
    exact ⟨hspaces, .last hspelled⟩
  | @more front back text others first behind ihfirst ihothers =>
    have hfront : ∀ token ∈ front, token.Proper := fun token ht => hproper token (by simp [ht])
    have hplain : Plain text := plain_of_spelled first hfront
    obtain ⟨hspaces, hspelled⟩ := ihfirst hfront
    obtain ⟨hspaces', hspelled'⟩ := ihothers fun token ht => hproper token (by simp [ht])
    refine ⟨hspaces.join hspaces' "," rfl (by decide), ?_⟩
    rw [Phrase.text, scan_join hplain.slash "," others (c := ',') rfl (by decide)]
    exact .more hspelled hspelled'

/-! ## Texts of types -/

theorem rereads_of_parse {text : String} {type : TypeExpr} (h : TypeExpr.parse text = .ok type) :
    Rereads (.type type) := rereads_of_spelled (parse_eq_ok.1 h) (proper_of_scan text)

/-- **Type texts read back.** The text of a parsed type has no white space and parses to that type. So two parsed types
with the same text are equal, and the normal form of a text is its own normal form. -/
theorem parse_text {text : String} {type : TypeExpr} (h : TypeExpr.parse text = .ok type) :
    TypeExpr.parse type.text = .ok type ∧ (∀ c ∈ type.text.toList, isWhiteSpace c = false) ∧
      (∀ other same, TypeExpr.parse other = .ok same → same.text = type.text → same = type) ∧
      TypeExpr.normalize text = .ok type.text ∧ TypeExpr.normalize type.text = .ok type.text := by
  have hback : ∀ source parsed, TypeExpr.parse source = .ok parsed → TypeExpr.parse parsed.text = .ok parsed :=
    fun _ _ hparsed => parse_eq_ok.2 (rereads_of_parse hparsed).spelled
  refine ⟨hback text type h, (rereads_of_parse h).unspaced, fun other same hsame htext => ?_, ?_, ?_⟩
  · have hother := hback other same hsame
    rw [htext, hback text type h] at hother
    exact (Except.ok.inj hother).symm
  · rw [TypeExpr.normalize, h]
    rfl
  · rw [TypeExpr.normalize, hback text type h]
    rfl

/-! ## Arrays inside another generic type -/

def ringsText : String := "array< ring <0x2u, array< vec2 <f32>, 0x10u > > /* inner to outer */ ,COUNT>"

/-- the inner array is text, as it is an argument of another type than an array -/
def ringsType : TypeExpr := .array (.named "ring<0x2u,array<vec2<f32>,16>>") (.constant "COUNT")

theorem rings_parse_text :
    TypeExpr.parse ringsText = .ok ringsType ∧ ringsType.text = "array<ring<0x2u,array<vec2<f32>,16>>,COUNT>" ∧
      TypeExpr.parse ringsType.text = .ok ringsType ∧ (∀ c ∈ ringsType.text.toList, isWhiteSpace c = false) ∧
      (∀ other same, TypeExpr.parse other = .ok same → same.text = ringsType.text → same = ringsType) ∧
      TypeExpr.normalize ringsText = .ok ringsType.text ∧ TypeExpr.normalize ringsType.text = .ok ringsType.text := by
  have hparse : TypeExpr.parse ringsText = .ok ringsType := by decide +kernel
  exact ⟨hparse, rfl, parse_text hparse⟩

end ShaderInterface
