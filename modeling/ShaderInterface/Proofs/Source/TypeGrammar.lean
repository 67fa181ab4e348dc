/-
The grammar of types, and that a type is read exactly where the grammar has one.

`Phrase.Spelled` is the grammar: which tokens spell a type, or the arguments of a generic type, and what they are read
as. It knows neither fuel nor what stands behind the phrase.

- `read_of_spelled`: a type is read off the front of the tokens that spell it, whatever stands behind it but a `<`.
- `spelled_of_read`: what is read as a type is spelled by the tokens that are taken.
- `parse_eq_ok`: so a text parses to the type that its tokens spell.
-/
import ShaderInterface.Proofs.Outcome
import ShaderInterface.Source.TypeExpr.Grammar

namespace ShaderInterface

open Outcome

/-! ## The grammar -/

/-- a phrase, with what it is read as -/
inductive Phrase where
  | type (type : TypeExpr)
  /-- one argument of a generic type, as text -/
  | argument (text : String)
  | arguments (text : String)

/-- the tokens from behind the element of an array up to its closing bracket -/
inductive ArrayLength.Spelled : List Token → ArrayLength → Prop where
  | fixed {literal : String} {count : Nat} (value : Numeral.arrayLength? literal.toList = some count) :
    Spelled [.punct ',', .number literal] (.fixed count)
  | constant (name : String) : Spelled [.punct ',', .ident name] (.constant name)
  | runtime : Spelled [] .runtime

/-- the tokens spell the phrase -/
inductive Phrase.Spelled : List Token → Phrase → Prop where
  | named (name : String) : Spelled [.ident name] (.type (.named name))
  | array {front back : List Token} {element : TypeExpr} {length : ArrayLength} (of : Spelled front (.type element))
      (count : length.Spelled back) :
    Spelled (.ident "array" :: .punct '<' :: (front ++ (back ++ [.punct '>']))) (.type (.array element length))
  | generic {tokens : List Token} {name text : String} (other : name ≠ "array") (of : Spelled tokens (.arguments text)) :
    Spelled (.ident name :: .punct '<' :: (tokens ++ [.punct '>'])) (.type (.named (name ++ "<" ++ text ++ ">")))
  | number (literal : String) : Spelled [.number literal] (.argument literal)
  | ofType {tokens : List Token} {type : TypeExpr} (spelled : Spelled tokens (.type type)) :
    Spelled tokens (.argument type.text)
  | last {tokens : List Token} {text : String} (spelled : Spelled tokens (.argument text)) :
    Spelled tokens (.arguments text)
  | more {front back : List Token} {text rest : String} (first : Spelled front (.argument text))
      (others : Spelled back (.arguments rest)) :
    Spelled (front ++ .punct ',' :: back) (.arguments (text ++ "," ++ rest))

/-! ## Single steps of the reader -/

section Steps

variable {fuel : Nat} {tokens rest : List Token}

theorem expectSymbol_eq_ok {c : Char} : expectSymbol c tokens = .ok rest ↔ tokens = .punct c :: rest := by
  cases tokens with
  | nil => simp [expectSymbol]
  | cons token tokens =>
    cases token with
    | punct d => by_cases h : d = c <;> simp [expectSymbol, h]
    | _ => simp [expectSymbol]

/-- one argument, from which `readArguments` goes on -/
def readArgument (fuel : Nat) : List Token → Except SyntaxFault (String × List Token)
  | .number literal :: rest => .ok (literal, rest)
  | tokens => (TypeExpr.read fuel tokens).map fun (type, rest) => (type.text, rest)

/-- behind an argument the list ends or goes on -/
theorem readArguments_number {literal text : String} {behind : List Token} :
    TypeExpr.readArguments (fuel + 1) (.number literal :: behind) = .ok (text, rest) ↔
      (behind = .punct '>' :: rest ∧ text = literal) ∨
        ∃ others more, behind = .punct ',' :: more ∧ TypeExpr.readArguments fuel more = .ok (others, rest) ∧
          text = literal ++ "," ++ others := by
  rw [TypeExpr.readArguments]
  simp only [bind_eq_ok, Except.ok.injEq, exists_eq_left']
  split
  · simp [bind_eq_ok, eq_comm (b := text)]
  · simp [and_comm, eq_comm (b := text)]
  · next hcomma hclose =>
    simp only [reduceCtorEq, false_iff, not_or, not_and, not_exists]
    exact ⟨fun h => absurd h (hclose rest), fun _ more h => absurd h (hcomma more)⟩

theorem readArguments_eq_ok {text : String} :
    TypeExpr.readArguments (fuel + 1) tokens = .ok (text, rest) ↔
      ∃ argument behind, readArgument fuel tokens = .ok (argument, behind) ∧
        ((behind = .punct '>' :: rest ∧ text = argument) ∨
          ∃ others more, behind = .punct ',' :: more ∧ TypeExpr.readArguments fuel more = .ok (others, rest) ∧
            text = argument ++ "," ++ others) := by
  -- what follows an argument is read alike, whether it was a number or a type
  have hstep : TypeExpr.readArguments (fuel + 1) tokens =
      readArgument fuel tokens >>= fun read => TypeExpr.readArguments (fuel + 1) (.number read.1 :: read.2) := by
    cases tokens with
    | nil => rfl
    | cons token tokens => cases token <;> rfl
  rw [hstep, bind_eq_ok, Prod.exists]
  exact exists_congr fun argument => exists_congr fun behind => and_congr_right fun _ => readArguments_number

theorem read_array_eq_ok {type : TypeExpr} :
    TypeExpr.read (fuel + 1) (.ident "array" :: .punct '<' :: tokens) = .ok (type, rest) ↔
      ∃ element length behind, TypeExpr.read fuel tokens = .ok (element, behind) ∧
        ArrayLength.read behind = .ok (length, .punct '>' :: rest) ∧ type = .array element length := by
  rw [TypeExpr.read, if_pos rfl]
  simp only [bind_eq_ok, Prod.exists, expectSymbol_eq_ok, Except.ok.injEq, Prod.mk.injEq, eq_comm (a := type)]
  constructor
  · rintro ⟨element, behind, helement, length, _, hlength, _, rfl, htype, rfl⟩
    exact ⟨element, length, behind, helement, hlength, htype⟩
  · rintro ⟨element, length, behind, helement, hlength, htype⟩
    exact ⟨element, behind, helement, length, _, hlength, rest, rfl, htype, rfl⟩

theorem read_generic_eq_ok {name : String} (other : name ≠ "array") {type : TypeExpr} :
    TypeExpr.read (fuel + 1) (.ident name :: .punct '<' :: tokens) = .ok (type, rest) ↔
      ∃ text, TypeExpr.readArguments fuel tokens = .ok (text, rest) ∧ type = .named (name ++ "<" ++ text ++ ">") := by
  rw [TypeExpr.read, if_neg other]
  simp only [bind_eq_ok, Prod.exists, Except.ok.injEq, Prod.mk.injEq, eq_comm (a := type)]
  constructor
  · rintro ⟨text, _, htext, htype, rfl⟩
    exact ⟨text, htext, htype⟩
  · rintro ⟨text, htext, htype⟩
    exact ⟨text, rest, htext, htype, rfl⟩

theorem read_named {name : String} (h : tokens.head? ≠ some (.punct '<')) :
    TypeExpr.read (fuel + 1) (.ident name :: tokens) = .ok (.named name, tokens) := by
  rw [TypeExpr.read]
  rintro more rfl
  simp at h

end Steps

/-! ## Lengths -/

theorem ArrayLength.read_of_spelled {tokens : List Token} {length : ArrayLength} (h : length.Spelled tokens)
    (rest : List Token) : ArrayLength.read (tokens ++ .punct '>' :: rest) = .ok (length, .punct '>' :: rest) := by
  cases h with
  | fixed value => simp [ArrayLength.read, value]
  | constant name => rfl
  | runtime => simp [ArrayLength.read]

theorem ArrayLength.spelled_of_read {tokens rest : List Token} {length : ArrayLength}
    (h : ArrayLength.read tokens = .ok (length, rest)) : ∃ front, tokens = front ++ rest ∧ length.Spelled front := by
  unfold ArrayLength.read at h
  split at h
  · next literal behind =>
    split at h
    · next count value =>
      obtain ⟨rfl, rfl⟩ := Prod.mk.inj (Except.ok.inj h)
      exact ⟨_, rfl, .fixed value⟩
    · simp at h
  · next name behind =>
    obtain ⟨rfl, rfl⟩ := Prod.mk.inj (Except.ok.inj h)
    exact ⟨_, rfl, .constant name⟩
  · simp at h
  · obtain ⟨rfl, rfl⟩ := Prod.mk.inj (Except.ok.inj h)
    exact ⟨[], rfl, .runtime⟩

/-! ## What is spelled is read -/

/-- the reader takes the phrase off the front of the tokens, given fuel -/
def Phrase.Taken (tokens : List Token) : Phrase → Prop
  | .type expr => ∀ fuel rest, tokens.length < fuel → rest.head? ≠ some (.punct '<') →
      TypeExpr.read fuel (tokens ++ rest) = .ok (expr, rest)
  | .argument text => ∀ fuel rest, tokens.length < fuel → rest.head? ≠ some (.punct '<') →
      readArgument fuel (tokens ++ rest) = .ok (text, rest)
  | .arguments text => ∀ fuel rest, tokens.length + 1 < fuel →
      TypeExpr.readArguments fuel (tokens ++ .punct '>' :: rest) = .ok (text, rest)

theorem Phrase.Spelled.exists_ident {tokens : List Token} {type : TypeExpr}
    (h : Spelled tokens (.type type)) : ∃ name rest, tokens = .ident name :: rest := by
  cases h with
  | named name => exact ⟨name, [], rfl⟩
  | array of count => exact ⟨"array", _, rfl⟩
  | generic other of => exact ⟨_, _, rfl⟩

theorem Phrase.Spelled.taken {tokens : List Token} {phrase : Phrase} (h : Spelled tokens phrase) :
    phrase.Taken tokens := by
  induction h with
  | named name =>
    rintro (_ | fuel) rest hfuel hrest
    · simp at hfuel
    · exact read_named hrest
  | @array front back element length of count ih =>
    rintro (_ | fuel) rest hfuel hrest
    · simp at hfuel
    · have hbehind : (back ++ .punct '>' :: rest).head? ≠ some (.punct '<') := by cases count <;> simp
      have helement := ih fuel (back ++ .punct '>' :: rest) (by simp at hfuel; omega) hbehind
      have hlength := ArrayLength.read_of_spelled count rest
      simp only [List.cons_append, List.append_assoc, List.nil_append]
      exact read_array_eq_ok.2 ⟨element, length, _, helement, hlength, rfl⟩
  | @generic tokens name text other of ih =>
    rintro (_ | fuel) rest hfuel hrest
    · simp at hfuel
    · have harguments := ih fuel rest (by simp at hfuel; omega)
      simp only [List.cons_append, List.append_assoc, List.nil_append]
      exact (read_generic_eq_ok other).2 ⟨text, harguments, rfl⟩
  | number literal =>
    intro fuel rest hfuel hrest
    rfl
  | ofType spelled ih =>
    intro fuel rest hfuel hrest
    obtain ⟨name, behind, rfl⟩ := spelled.exists_ident
    have hread := ih fuel rest hfuel hrest
    rw [List.cons_append] at hread ⊢
    simp [readArgument, hread, Except.map]
  | @last tokens text spelled ih =>
    rintro (_ | fuel) rest hfuel
    · simp at hfuel
    · have hargument := ih fuel (.punct '>' :: rest) (by omega) (by simp)
      exact readArguments_eq_ok.2 ⟨text, _, hargument, .inl ⟨rfl, rfl⟩⟩
  | @more front back text others first behind ihfirst ihothers =>
    rintro (_ | fuel) rest hfuel
    · simp at hfuel
    · rw [List.length_append, List.length_cons] at hfuel
      have hargument := ihfirst fuel (.punct ',' :: (back ++ .punct '>' :: rest)) (by omega) (by simp)
      have hothers := ihothers fuel rest (by omega)
      rw [List.append_assoc, List.cons_append]
      exact readArguments_eq_ok.2 ⟨text, _, hargument, .inr ⟨others, _, rfl, hothers, rfl⟩⟩

/-- **A type is read where the grammar has one**, given fuel, whatever stands behind it but a bracket. -/
theorem read_of_spelled {tokens rest : List Token} {type : TypeExpr} (h : Phrase.Spelled tokens (.type type))
    {fuel : Nat} (hfuel : tokens.length < fuel) (hrest : rest.head? ≠ some (.punct '<')) :
    TypeExpr.read fuel (tokens ++ rest) = .ok (type, rest) := h.taken fuel rest hfuel hrest

/-! ## What is read is spelled -/

/-- what the readers take with that fuel is spelled by the grammar -/
structure ReadsSpelled (fuel : Nat) : Prop where
  type : ∀ tokens type rest, TypeExpr.read fuel tokens = .ok (type, rest) →
    ∃ front, tokens = front ++ rest ∧ Phrase.Spelled front (.type type)
  arguments : ∀ tokens text rest, TypeExpr.readArguments fuel tokens = .ok (text, rest) →
    ∃ front, tokens = front ++ .punct '>' :: rest ∧ Phrase.Spelled front (.arguments text)

theorem ReadsSpelled.argument {fuel : Nat} (h : ReadsSpelled fuel) {tokens rest : List Token} {text : String}
    (hread : readArgument fuel tokens = .ok (text, rest)) :
    ∃ front, tokens = front ++ rest ∧ Phrase.Spelled front (.argument text) := by
  unfold readArgument at hread
  split at hread
  · next literal behind =>
    obtain ⟨rfl, rfl⟩ := Prod.mk.inj (Except.ok.inj hread)
    exact ⟨[.number literal], rfl, .number literal⟩
  · obtain ⟨⟨type, behind⟩, htype, hpair⟩ := map_eq_ok.1 hread
    obtain ⟨rfl, rfl⟩ := Prod.mk.inj hpair
    obtain ⟨front, hfront, hspelled⟩ := h.type _ _ _ htype
    exact ⟨front, hfront, .ofType hspelled⟩

theorem ReadsSpelled.succ_type {fuel : Nat} (h : ReadsSpelled fuel) {tokens rest : List Token} {type : TypeExpr}
    (hread : TypeExpr.read (fuel + 1) tokens = .ok (type, rest)) :
    ∃ front, tokens = front ++ rest ∧ Phrase.Spelled front (.type type) := by
  obtain ⟨name, behind, rfl⟩ : ∃ name behind, tokens = .ident name :: behind := by
    cases tokens with
    | nil => simp [TypeExpr.read] at hread
    | cons token behind =>
      cases token with
      | ident name => exact ⟨name, behind, rfl⟩
      | _ => simp [TypeExpr.read] at hread
  by_cases hbracket : behind.head? = some (.punct '<')
  · obtain ⟨behind, rfl⟩ := List.head?_eq_some_iff.1 hbracket
    by_cases hname : name = "array"
    · subst hname
      obtain ⟨element, length, _, helement, hlength, rfl⟩ := read_array_eq_ok.1 hread
      obtain ⟨front, rfl, hfront⟩ := h.type _ _ _ helement
      obtain ⟨back, rfl, hback⟩ := ArrayLength.spelled_of_read hlength
      refine ⟨_, ?_, .array hfront hback⟩
      simp
    · obtain ⟨text, htext, rfl⟩ := (read_generic_eq_ok hname).1 hread
      obtain ⟨front, rfl, hfront⟩ := h.arguments _ _ _ htext
      refine ⟨_, ?_, .generic hname hfront⟩
      simp
  · rw [read_named hbracket] at hread
    obtain ⟨rfl, rfl⟩ := Prod.mk.inj (Except.ok.inj hread)
    exact ⟨[.ident name], rfl, .named name⟩

theorem ReadsSpelled.succ_arguments {fuel : Nat} (h : ReadsSpelled fuel) {tokens rest : List Token} {text : String}
    (hread : TypeExpr.readArguments (fuel + 1) tokens = .ok (text, rest)) :
    ∃ front, tokens = front ++ .punct '>' :: rest ∧ Phrase.Spelled front (.arguments text) := by
  obtain ⟨argument, behind, hargument, hbehind⟩ := readArguments_eq_ok.1 hread
  obtain ⟨front, rfl, hfront⟩ := h.argument hargument
  rcases hbehind with ⟨rfl, rfl⟩ | ⟨others, more, rfl, hothers, rfl⟩
  · exact ⟨front, rfl, .last hfront⟩
  · obtain ⟨back, rfl, hback⟩ := h.arguments _ _ _ hothers
    refine ⟨_, ?_, .more hfront hback⟩
    simp

theorem readsSpelled (fuel : Nat) : ReadsSpelled fuel := by
  induction fuel with
  | zero => exact ⟨by simp [TypeExpr.read], by simp [TypeExpr.readArguments]⟩
  | succ fuel ih => exact ⟨fun _ _ _ => ih.succ_type, fun _ _ _ => ih.succ_arguments⟩

/-- **What is read as a type is spelled** by the tokens that are taken. -/
theorem spelled_of_read {fuel : Nat} {tokens rest : List Token} {type : TypeExpr}
    (h : TypeExpr.read fuel tokens = .ok (type, rest)) :
    ∃ front, tokens = front ++ rest ∧ Phrase.Spelled front (.type type) := (readsSpelled fuel).type _ _ _ h

/-! ## Types standing alone -/

theorem ofTokens_eq_ok {tokens : List Token} {type : TypeExpr} :
    TypeExpr.ofTokens tokens = .ok type ↔ Phrase.Spelled tokens (.type type) := by
  constructor
  · intro h
    unfold TypeExpr.ofTokens at h
    split at h
    · next read hread =>
      obtain rfl := Except.ok.inj h
      obtain ⟨front, rfl, hfront⟩ := spelled_of_read hread
      rwa [List.append_nil]
    · simp at h
    · simp at h
  · intro h
    have hread : TypeExpr.read (tokens.length + 1) (tokens ++ []) = .ok (type, []) :=
      read_of_spelled h (Nat.lt_succ_self _) (by simp)
    rw [List.append_nil] at hread
    rw [TypeExpr.ofTokens, hread]

/-- **A text parses to the type that its tokens spell.** -/
theorem parse_eq_ok {text : String} {type : TypeExpr} :
    TypeExpr.parse text = .ok type ↔ Phrase.Spelled (Token.scan text) (.type type) := by
  rw [← ofTokens_eq_ok, TypeExpr.parse, mapError_eq_ok]

end ShaderInterface
