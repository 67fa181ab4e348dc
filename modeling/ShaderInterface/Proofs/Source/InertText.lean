/-
Pieces of source that declare no struct and hide none.

An `InertText` may stand in front of any source without changing what that source declares. Generated lines are made of
such pieces: fixed words, names, and the texts of types. A parsed type keeps the spellings of its tokens, so its text
has no comment in it and no two identifiers side by side (`Plain`), and it is inert whatever the names in it are.

- `InertText.declares`: behind an inert text the same structs are declared.
- `plain_of_parse`, `plain_layersType`: the text of a parsed type is plain, and so is that of the layer storage.
-/
import ShaderInterface.Proofs.Source.Scanning
import ShaderInterface.Proofs.Source.StructSearch
import ShaderInterface.Resource.Basic

namespace ShaderInterface

open Token

/-! ## Inert texts -/

/-- whatever follows the text, its tokens are read apart from what follows, and they are inert -/
def InertText (text : List Char) : Prop := ∃ tokens, Reads text tokens ∧ Inert tokens

theorem inertText_nil : InertText [] := ⟨[], reads_nil, inert_nil⟩

theorem InertText.append {front back : List Char} (hfront : InertText front) (hback : InertText back) :
    InertText (front ++ back) := by
  obtain ⟨tokens, hreads, hinert⟩ := hfront
  obtain ⟨tokens', hreads', hinert'⟩ := hback
  exact ⟨tokens ++ tokens', hreads.append hreads', hinert.append hinert'⟩

theorem inertText_join {texts : List String} (h : ∀ text ∈ texts, InertText text.toList) :
    InertText (String.join texts).toList := by
  rw [String.toList_join]
  induction texts with
  | nil => exact inertText_nil
  | cons text rest ih =>
    obtain ⟨htext, hrest⟩ := List.forall_mem_cons.1 h
    exact htext.append (ih hrest)

/-- **An inert text declares nothing and hides nothing.** -/
theorem InertText.declares {text rest : List Char} (h : InertText text) {decls : List StructDecl}
    (hrest : Declares (scanChars rest) decls) : Declares (scanChars (text ++ rest)) decls := by
  obtain ⟨tokens, hreads, hinert⟩ := h
  rw [hreads]
  exact hinert _ _ hrest

/-- a text that ends between tokens, without `struct` among them -/
theorem inertText_of_feedAll {text : List Char} {reversed : List Token}
    (h : Scanner.start.feedAll text = ⟨.nothing, reversed⟩) (hstruct : .ident "struct" ∉ reversed) :
    InertText text := by
  refine ⟨reversed.reverse, reads_of_feedAll (by rw [h, List.reverse_reverse]), inert_of_notMem ?_⟩
  rwa [List.mem_reverse]

/-- a text without `struct` in front of a separator -/
theorem inertText_before {front back : List Char} {c : Char} (hslash : '/' ∉ front)
    (hstruct : .ident "struct" ∉ scanChars front) (hc : separates c = true) (hback : InertText (c :: back)) :
    InertText (front ++ c :: back) := by
  obtain ⟨tokens, hreads, hinert⟩ := hback
  exact ⟨_, .before hslash hc hreads, (inert_of_notMem hstruct).append hinert⟩

/-! ## Plain texts -/

/-- a text without a `/`, no two of whose identifiers stand side by side -/
structure Plain (text : String) : Prop where
  slash : '/' ∉ text.toList
  apart : Apart (Token.scan text)

theorem plain_empty : Plain "" := ⟨by simp, .nil⟩

theorem plain_identifier {name : String} (h : isIdentifier name.toList = true) : Plain name := by
  refine ⟨slash_notMem_identifier h, ?_⟩
  rw [scan_identifier h]
  exact .singleton _

theorem plain_number {literal : String} (h : isNumber literal.toList = true) : Plain literal := by
  refine ⟨slash_notMem_number h, ?_⟩
  rw [scan_number h]
  exact .singleton _

/-- a symbol between two texts keeps their tokens apart -/
theorem Plain.join {front back : String} (hfront : Plain front) (hback : Plain back) (symbol : String) {c : Char}
    (hsymbol : symbol.toList = [c]) (hc : isSymbol c = true ∧ separates c = true) :
    Plain (front ++ symbol ++ back) := by
  have htext : (front ++ symbol ++ back).toList = front.toList ++ c :: back.toList := by simp [hsymbol]
  have hslash : c ≠ '/' := by
    rintro rfl
    exact absurd hc.1 (by decide)
  constructor
  · rw [htext, List.mem_append, List.mem_cons, not_or, not_or]
    exact ⟨hfront.slash, Ne.symm hslash, hback.slash⟩
  · rw [scan_join hfront.slash symbol back hsymbol hc]
    exact apart_append_punct hfront.apart hback.apart

/-- a plain text in front of a symbol is inert, whatever its names are -/
theorem Plain.inertText {text : String} (h : Plain text) {c : Char} (hc : isSymbol c = true ∧ separates c = true) :
    InertText (text.toList ++ [c]) := by
  have hsymbol : Reads [c] [.punct c] := scanChars_symbol hc.1
  exact ⟨_, .before h.slash hc.2 hsymbol, inert_of_apart h.apart c⟩

/-! ## Texts of types -/

/-- a text in brackets behind a name -/
theorem Plain.bracketed {name text : String} (hname : Plain name) (htext : Plain text) :
    Plain (name ++ "<" ++ text ++ ">") := by
  have hopen : Plain (name ++ "<" ++ text) := hname.join htext "<" rfl (by decide)
  have hclose := hopen.join plain_empty ">" rfl (by decide)
  rwa [String.append_empty] at hclose

/-- the length of an array behind its element -/
theorem Plain.counted {text : String} (htext : Plain text) {length : ArrayLength}
    (hlength : ∀ name, length = .constant name → isIdentifier name.toList = true) : Plain (text ++ length.text) := by
  cases length with
  | fixed count =>
    have hcount := plain_number (isNumber_toString count)
    rw [ArrayLength.text, ← String.append_assoc]
    exact htext.join hcount "," rfl (by decide)
  | constant name =>
    have hname := plain_identifier (hlength name rfl)
    rw [ArrayLength.text, ← String.append_assoc]
    exact htext.join hname "," rfl (by decide)
  | runtime =>
    rw [ArrayLength.text, String.append_empty]
    exact htext

theorem plain_array {element : TypeExpr} (helement : Plain element.text) {length : ArrayLength}
    (hlength : ∀ name, length = .constant name → isIdentifier name.toList = true) :
    Plain (TypeExpr.array element length).text := by
  have htext : Plain (element.text ++ length.text) := helement.counted hlength
  have harray : Plain "array" := plain_identifier (by decide)
  have hbracketed := harray.bracketed htext
  rwa [← String.append_assoc] at hbracketed

/-- what a phrase of the grammar is read as, as text -/
def Phrase.text : Phrase → String
  | .type expr => expr.text
  | .argument text => text
  | .arguments text => text

/-- a constant that is spelled has the name of an identifier -/
theorem constant_identifier {tokens : List Token} {length : ArrayLength} (h : length.Spelled tokens)
    (hproper : ∀ token ∈ tokens, token.Proper) {name : String} (hname : length = .constant name) :
    isIdentifier name.toList = true := by
  subst hname
  cases h with
  | constant name => exact hproper (.ident name) (by simp)

theorem plain_of_spelled {tokens : List Token} {phrase : Phrase} (h : Phrase.Spelled tokens phrase)
    (hproper : ∀ token ∈ tokens, token.Proper) : Plain phrase.text := by
  induction h with
  | named name => exact plain_identifier (hproper _ List.mem_cons_self)
  | @array front back element length of count ih =>
    have helement := ih fun token ht => hproper token (by simp [ht])
    exact plain_array helement fun _ => constant_identifier count fun token ht => hproper token (by simp [ht])
  | @generic tokens name text other of ih =>
    have hname : Plain name := plain_identifier (hproper _ List.mem_cons_self)
    exact hname.bracketed (ih fun token ht => hproper token (by simp [ht]))
  | number literal => exact plain_number (hproper _ List.mem_cons_self)
  | ofType spelled ih => exact ih hproper
  | last spelled ih => exact ih hproper
  | @more front back text others first behind ihfirst ihothers =>
    have hfirst := ihfirst fun token ht => hproper token (by simp [ht])
    have hothers := ihothers fun token ht => hproper token (by simp [ht])
    exact hfirst.join hothers "," rfl (by decide)

/-- **The text of a parsed type is plain.** -/
theorem plain_of_parse {text : String} {type : TypeExpr} (h : TypeExpr.parse text = .ok type) : Plain type.text :=
  plain_of_spelled (parse_eq_ok.1 h) (proper_of_scan text)

theorem plain_layersType (count width height : Nat) : Plain (layersType count width height).text := by
  have htexel : Plain (TypeExpr.named "vec4f").text := plain_identifier (by decide)
  exact plain_array (plain_array htexel (by simp)) (by simp)

end ShaderInterface
