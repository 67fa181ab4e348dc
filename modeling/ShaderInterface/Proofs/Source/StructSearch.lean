/-
Where a source declares structs.

`BodyReads` and `Declares` say what the search finds, with no fuel: which tokens are the body of a struct, and which
structs a list of tokens declares.

- `readMembers_eq_ok`, `parseAll_eq_ok`: the search finds exactly that.
- `declares_struct_iff`: a struct at the front of the tokens is found, and then those behind it.
- `Inert`: tokens in front of others that declare nothing and hide nothing. Tokens without `struct` are inert
  (`inert_of_notMem`), and so are tokens no two of which are identifiers side by side (`inert_of_apart`).
-/
import Mathlib.Data.List.Chain
import ShaderInterface.Proofs.Source.TypeGrammar
import ShaderInterface.Source.StructDecl.Grammar

namespace ShaderInterface

open Outcome

/-! ## Bodies -/

/-- the tokens begin with the body of a struct of these members, and `rest` is behind it -/
inductive BodyReads : List Token → List Member → List Token → Prop where
  | close (rest : List Token) : BodyReads (.punct '\x7d' :: rest) [] rest
  | annotated {tokens behind rest : List Token} {members : List Member} (skipped : skipAttribute tokens = .ok behind)
      (body : BodyReads behind members rest) : BodyReads (.punct '@' :: tokens) members rest
  | member {front behind next rest : List Token} {type : TypeExpr} {members : List Member} (name : String)
      (spelled : Phrase.Spelled front (.type type)) (separated : skipSeparator behind = .ok next)
      (body : BodyReads next members rest) :
    BodyReads (.ident name :: .punct ':' :: (front ++ behind)) (⟨name, type⟩ :: members) rest

section Steps

variable {fuel : Nat} {tokens rest : List Token} {members : List Member}

theorem skipSeparator_eq_ok :
    skipSeparator tokens = .ok rest ↔
      tokens = .punct ',' :: rest ∨ tokens = .punct ';' :: rest ∨
        ∃ behind, tokens = .punct '\x7d' :: behind ∧ rest = tokens := by
  unfold skipSeparator
  split
  · simp
  · simp
  · simp [eq_comm]
  · next hcomma hsemicolon hclose =>
    simp only [reduceCtorEq, false_iff, not_or, not_exists, not_and]
    exact ⟨hcomma rest, hsemicolon rest, fun behind h => absurd h (hclose behind)⟩

theorem length_skipSeparator (h : skipSeparator tokens = .ok rest) : rest.length ≤ tokens.length := by
  rcases skipSeparator_eq_ok.1 h with rfl | rfl | ⟨behind, rfl, rfl⟩
  · simp
  · simp
  · exact Nat.le_refl _

/-- no bracket stands behind a type that a separator follows -/
theorem head?_of_skipSeparator (h : skipSeparator tokens = .ok rest) : tokens.head? ≠ some (.punct '<') := by
  rcases skipSeparator_eq_ok.1 h with rfl | rfl | ⟨behind, rfl, -⟩ <;> simp

theorem length_skipGroup {outer : Nat} (h : skipGroup outer tokens = .ok rest) : rest.length ≤ tokens.length := by
  induction outer, tokens using skipGroup.induct with
  | case1 outer => simp [skipGroup] at h
  | case2 outer behind ih =>
    rw [skipGroup] at h
    exact Nat.le_succ_of_le (ih h)
  | case3 behind =>
    rw [skipGroup] at h
    obtain rfl := Except.ok.inj h
    exact Nat.le_succ _
  | case4 outer behind ih =>
    rw [skipGroup] at h
    exact Nat.le_succ_of_le (ih h)
  | case5 outer token behind hopen hlast hclose ih =>
    rw [skipGroup] at h
    · exact Nat.le_succ_of_le (ih h)
    all_goals assumption

theorem length_skipAttribute (h : skipAttribute tokens = .ok rest) : rest.length ≤ tokens.length := by
  unfold skipAttribute at h
  split at h
  · exact Nat.le_succ_of_le (Nat.le_succ_of_le (length_skipGroup h))
  · obtain rfl := Except.ok.inj h
    exact Nat.le_succ _
  · simp at h

theorem readMembers_attribute :
    StructDecl.readMembers (fuel + 1) (.punct '@' :: tokens) = .ok (members, rest) ↔
      ∃ behind, skipAttribute tokens = .ok behind ∧ StructDecl.readMembers fuel behind = .ok (members, rest) := by
  rw [StructDecl.readMembers, bind_eq_ok]

theorem readMembers_member {name : String} :
    StructDecl.readMembers (fuel + 1) (.ident name :: tokens) = .ok (members, rest) ↔
      ∃ typed type behind next others, tokens = .punct ':' :: typed ∧ TypeExpr.read fuel typed = .ok (type, behind) ∧
        skipSeparator behind = .ok next ∧ StructDecl.readMembers fuel next = .ok (others, rest) ∧
        members = ⟨name, type⟩ :: others := by
  rw [StructDecl.readMembers]
  simp only [bind_eq_ok, expectSymbol_eq_ok, Prod.exists, Except.ok.injEq, Prod.mk.injEq, eq_comm (a := members)]
  constructor
  · rintro ⟨typed, htokens, type, behind, htype, next, hnext, others, _, hothers, hmembers, rfl⟩
    exact ⟨typed, type, behind, next, others, htokens, htype, hnext, hothers, hmembers⟩
  · rintro ⟨typed, type, behind, next, others, htokens, htype, hnext, hothers, hmembers⟩
    exact ⟨typed, htokens, type, behind, htype, next, hnext, others, rest, hothers, hmembers, rfl⟩

end Steps

namespace BodyReads

variable {tokens rest : List Token} {members : List Member}

theorem length_le (h : BodyReads tokens members rest) : rest.length ≤ tokens.length := by
  induction h with
  | close rest => exact Nat.le_succ _
  | annotated skipped body ih =>
    have := length_skipAttribute skipped
    rw [List.length_cons]
    omega
  | member name spelled separated body ih =>
    have := length_skipSeparator separated
    rw [List.length_cons, List.length_cons, List.length_append]
    omega

theorem readMembers (h : BodyReads tokens members rest) {fuel : Nat} (hfuel : tokens.length < fuel) :
    StructDecl.readMembers fuel tokens = .ok (members, rest) := by
  induction h generalizing fuel with
  | close rest =>
    cases fuel with
    | zero => simp at hfuel
    | succ fuel => rfl
  | annotated skipped body ih =>
    have hlength := length_skipAttribute skipped
    cases fuel with
    | zero => simp at hfuel
    | succ fuel =>
      rw [List.length_cons] at hfuel
      exact readMembers_attribute.2 ⟨_, skipped, ih (by omega)⟩
  | @member front behind next rest type members name spelled separated body ih =>
    have hlength := length_skipSeparator separated
    cases fuel with
    | zero => simp at hfuel
    | succ fuel =>
      rw [List.length_cons, List.length_cons, List.length_append] at hfuel
      have htype : TypeExpr.read fuel (front ++ behind) = .ok (type, behind) :=
        read_of_spelled spelled (by omega) (head?_of_skipSeparator separated)
      exact readMembers_member.2 ⟨_, _, _, _, _, rfl, htype, separated, ih (by omega), rfl⟩

/-- a body begins the tokens in one way only -/
theorem unique (h : BodyReads tokens members rest) {members' : List Member} {rest' : List Token}
    (h' : BodyReads tokens members' rest') : members' = members ∧ rest' = rest := by
  have hread := h'.readMembers (Nat.lt_succ_self _)
  rw [h.readMembers (Nat.lt_succ_self _)] at hread
  obtain ⟨rfl, rfl⟩ := Prod.mk.inj (Except.ok.inj hread)
  exact ⟨rfl, rfl⟩

end BodyReads

theorem bodyReads_of_readMembers {fuel : Nat} {tokens rest : List Token} {members : List Member}
    (h : StructDecl.readMembers fuel tokens = .ok (members, rest)) : BodyReads tokens members rest := by
  induction fuel generalizing tokens members with
  | zero => simp [StructDecl.readMembers] at h
  | succ fuel ih =>
    rcases tokens with _ | ⟨_ | _ | c, tokens⟩
    · simp [StructDecl.readMembers] at h
    · obtain ⟨typed, type, behind, next, others, rfl, htype, hnext, hothers, rfl⟩ := readMembers_member.1 h
      obtain ⟨front, rfl, hfront⟩ := spelled_of_read htype
      exact .member _ hfront hnext (ih hothers)
    · simp [StructDecl.readMembers] at h
    · by_cases hclose : c = '\x7d'
      · subst hclose
        obtain ⟨rfl, rfl⟩ := Prod.mk.inj (Except.ok.inj h)
        exact .close tokens
      · by_cases hattribute : c = '@'
        · subst hattribute
          obtain ⟨behind, hskip, hbody⟩ := readMembers_attribute.1 h
          exact .annotated hskip (ih hbody)
        · simp [StructDecl.readMembers, hclose, hattribute] at h

/-- **A body is read exactly where there is one**, given fuel. -/
theorem readMembers_eq_ok {fuel : Nat} {tokens rest : List Token} {members : List Member}
    (hfuel : tokens.length < fuel) : StructDecl.readMembers fuel tokens = .ok (members, rest) ↔ BodyReads tokens members rest :=
  ⟨bodyReads_of_readMembers, fun h => h.readMembers hfuel⟩

/-! ## Declared structs -/

/-- the tokens declare these structs, in order -/
inductive Declares : List Token → List StructDecl → Prop where
  | nil : Declares [] []
  | skip {token : Token} {rest : List Token} {decls : List StructDecl} (other : token ≠ .ident "struct")
      (behind : Declares rest decls) : Declares (token :: rest) decls
  | nameless {rest : List Token} {decls : List StructDecl} (bare : ∀ name more, rest ≠ .ident name :: more)
      (behind : Declares rest decls) : Declares (.ident "struct" :: rest) decls
  | bodiless {rest : List Token} {decls : List StructDecl} (name : String) (bare : rest.head? ≠ some (.punct '\x7b'))
      (behind : Declares rest decls) : Declares (.ident "struct" :: .ident name :: rest) decls
  | struct {tokens rest : List Token} {members : List Member} {decls : List StructDecl} (name : String)
      (body : BodyReads tokens members rest) (behind : Declares rest decls) :
    Declares (.ident "struct" :: .ident name :: .punct '\x7b' :: tokens) (.ofMembers name members :: decls)

section Search

variable {fuel : Nat} {tokens rest : List Token} {decls : List StructDecl}

theorem readAll_skip {token : Token} (h : token ≠ .ident "struct") :
    StructDecl.readAll (fuel + 1) (token :: rest) = StructDecl.readAll fuel rest := by
  rw [StructDecl.readAll]
  · rintro name behind rfl rfl
    exact h rfl
  · rintro name behind rfl rfl
    exact h rfl

theorem readAll_nameless (h : ∀ name more, rest ≠ .ident name :: more) :
    StructDecl.readAll (fuel + 1) (.ident "struct" :: rest) = StructDecl.readAll fuel rest := by
  rw [StructDecl.readAll]
  · rintro name behind - rfl
    exact h _ _ rfl
  · rintro name behind - rfl
    exact h _ _ rfl

theorem readAll_bodiless {name : String} (h : rest.head? ≠ some (.punct '\x7b')) :
    StructDecl.readAll (fuel + 1) (.ident "struct" :: .ident name :: rest) = StructDecl.readAll fuel rest := by
  rw [StructDecl.readAll]
  rintro behind rfl
  exact h rfl

theorem readAll_struct {name : String} :
    StructDecl.readAll (fuel + 1) (.ident "struct" :: .ident name :: .punct '\x7b' :: tokens) = .ok decls ↔
      ∃ members behind others, StructDecl.readMembers fuel tokens = .ok (members, behind) ∧
        StructDecl.readAll fuel behind = .ok others ∧ decls = .ofMembers name members :: others := by
  rw [StructDecl.readAll]
  simp only [bind_eq_ok, mapError_eq_ok, Prod.exists, Except.ok.injEq, eq_comm (a := decls), exists_and_left]

theorem Declares.readAll (h : Declares tokens decls) (hfuel : tokens.length < fuel) :
    StructDecl.readAll fuel tokens = .ok decls := by
  induction h generalizing fuel with
  | nil =>
    cases fuel with
    | zero => rfl
    | succ fuel => rfl
  | skip other behind ih =>
    cases fuel with
    | zero => simp at hfuel
    | succ fuel =>
      rw [readAll_skip other]
      exact ih (Nat.lt_of_succ_lt_succ hfuel)
  | nameless bare behind ih =>
    cases fuel with
    | zero => simp at hfuel
    | succ fuel =>
      rw [readAll_nameless bare]
      exact ih (Nat.lt_of_succ_lt_succ hfuel)
  | bodiless name bare behind ih =>
    cases fuel with
    | zero => simp at hfuel
    | succ fuel =>
      rw [List.length_cons, List.length_cons] at hfuel
      rw [readAll_bodiless bare]
      exact ih (by omega)
  | struct name body behind ih =>
    have hlength := body.length_le
    cases fuel with
    | zero => simp at hfuel
    | succ fuel =>
      rw [List.length_cons, List.length_cons, List.length_cons] at hfuel
      exact readAll_struct.2 ⟨_, _, _, body.readMembers (by omega), ih (by omega), rfl⟩

theorem declares_of_readAll (hfuel : tokens.length < fuel) (h : StructDecl.readAll fuel tokens = .ok decls) :
    Declares tokens decls := by
  induction fuel generalizing tokens decls with
  | zero => simp at hfuel
  | succ fuel ih =>
    cases tokens with
    | nil =>
      obtain rfl := Except.ok.inj h
      exact .nil
    | cons token rest =>
      rw [List.length_cons] at hfuel
      by_cases hstruct : token = .ident "struct"
      · subst hstruct
        by_cases hname : ∃ name more, rest = .ident name :: more
        · obtain ⟨name, more, rfl⟩ := hname
          rw [List.length_cons] at hfuel
          by_cases hbody : more.head? = some (.punct '\x7b')
          · obtain ⟨body, rfl⟩ := List.head?_eq_some_iff.1 hbody
            obtain ⟨members, behind, others, hmembers, hothers, rfl⟩ := readAll_struct.1 h
            have hread := bodyReads_of_readMembers hmembers
            have hlength := hread.length_le
            rw [List.length_cons] at hfuel
            exact .struct name hread (ih (by omega) hothers)
          · rw [readAll_bodiless hbody] at h
            exact .bodiless name hbody (ih (by omega) h)
        · have hbare : ∀ name more, rest ≠ .ident name :: more := fun name more heq => hname ⟨name, more, heq⟩
          rw [readAll_nameless hbare] at h
          exact .nameless hbare (ih (by omega) h)
      · rw [readAll_skip hstruct] at h
        exact .skip hstruct (ih (by omega) h)

/-- **The search finds exactly the structs that the tokens of the source declare.** -/
theorem parseAll_eq_ok {source : String} :
    StructDecl.parseAll source = .ok decls ↔ Declares (Token.scan source) decls :=
  ⟨declares_of_readAll (Nat.lt_succ_self _), fun h => h.readAll (Nat.lt_succ_self _)⟩

/-- a declared struct is determined by its name and members -/
theorem Declares.ofMembers (h : Declares tokens decls) :
    ∀ d ∈ decls, d = .ofMembers d.name d.members := by
  induction h with
  | nil => simp
  | skip other behind ih => exact ih
  | nameless bare behind ih => exact ih
  | bodiless name bare behind ih => exact ih
  | struct name body behind ih => exact List.forall_mem_cons.2 ⟨rfl, ih⟩

/-- a struct at the front is found, and then those behind it -/
theorem declares_struct_iff {name : String} {members : List Member} (hbody : BodyReads tokens members rest) :
    Declares (.ident "struct" :: .ident name :: .punct '\x7b' :: tokens) decls ↔
      ∃ others, Declares rest others ∧ decls = .ofMembers name members :: others := by
  constructor
  · intro h
    cases h with
    | skip other => exact absurd rfl other
    | nameless bare => exact absurd rfl (bare _ _)
    | bodiless _ bare => exact absurd rfl bare
    | struct _ body behind =>
      obtain ⟨rfl, rfl⟩ := hbody.unique body
      exact ⟨_, behind, rfl⟩
  · rintro ⟨others, hothers, rfl⟩
    exact .struct name hbody hothers

/-- a struct whose brace is open is found first, whatever its body is -/
theorem declares_structHead {name : String}
    (h : Declares (.ident "struct" :: .ident name :: .punct '\x7b' :: tokens) decls) :
    ∃ members others, decls = .ofMembers name members :: others := by
  cases h with
  | skip other => exact absurd rfl other
  | nameless bare => exact absurd rfl (bare _ _)
  | bodiless _ bare => exact absurd rfl bare
  | struct _ body behind => exact ⟨_, _, rfl⟩

end Search

/-! ## Tokens that declare nothing -/

/-- in front of other tokens these declare nothing and hide nothing -/
def Inert (tokens : List Token) : Prop := ∀ rest decls, Declares rest decls → Declares (tokens ++ rest) decls

theorem inert_nil : Inert [] := fun _ _ h => h

theorem Inert.append {front back : List Token} (hfront : Inert front) (hback : Inert back) :
    Inert (front ++ back) := by
  intro rest decls h
  rw [List.append_assoc]
  exact hfront _ _ (hback _ _ h)

theorem inert_of_notMem {tokens : List Token} (h : .ident "struct" ∉ tokens) : Inert tokens := by
  induction tokens with
  | nil => exact inert_nil
  | cons token rest ih =>
    rw [List.mem_cons, not_or] at h
    intro behind decls hbehind
    exact .skip (Ne.symm h.1) (ih h.2 _ _ hbehind)

def Token.isIdent : Token → Bool
  | .ident _ => true
  | _ => false

/-- no two identifiers stand side by side -/
def Apart (tokens : List Token) : Prop := tokens.IsChain fun a b => ¬ (a.isIdent = true ∧ b.isIdent = true)

/-- a `struct` without a name behind it declares nothing -/
theorem inert_of_apart {tokens : List Token} (h : Apart tokens) (c : Char) : Inert (tokens ++ [.punct c]) := by
  induction tokens with
  | nil => exact inert_of_notMem (by simp)
  | cons token rest ih =>
    have hrest := ih (List.IsChain.tail h)
    intro behind decls hbehind
    have hdeclares := hrest behind decls hbehind
    by_cases hstruct : token = .ident "struct"
    · subst hstruct
      refine .nameless ?_ hdeclares
      intro name more heq
      cases rest with
      | nil => simp at heq
      | cons next rest =>
        obtain ⟨hpair, -⟩ := List.isChain_cons_cons.1 h
        obtain ⟨rfl, -⟩ := List.cons.inj heq
        exact hpair ⟨rfl, rfl⟩
    · exact .skip hstruct hdeclares

theorem apart_append_punct {front back : List Token} {c : Char} (hfront : Apart front) (hback : Apart back) :
    Apart (front ++ .punct c :: back) := by
  unfold Apart
  rw [List.isChain_append]
  refine ⟨hfront, ?_, ?_⟩
  · rw [List.isChain_cons]
    exact ⟨by simp [Token.isIdent], hback⟩
  · simp [Token.isIdent]

end ShaderInterface
