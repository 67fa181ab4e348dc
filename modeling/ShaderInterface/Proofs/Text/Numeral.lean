/-
Integer literals and the numbers that they spell.

A decimal numeral is read back as the number that it was printed from (`arrayLength?_toString`). The readers of lengths
and of constants agree on a literal without a hexadecimal mark, once nothing around it is trimmed: both read the decimal
digits in front of its suffix (`arrayLength?_of_decimal`, `constantValue?_of_bare`). With the mark only the reader of
lengths finds digits (`read?_ten_hexadecimal`).
-/
import Mathlib.Data.List.DropRight
import ShaderInterface.Proofs.Size
import ShaderInterface.Text.Numeral

namespace ShaderInterface

/-! ## Ends of a text -/

/-- what is kept at the front stays at the front -/
theorem dropTrailing_cons {p : Char → Bool} {c : Char} (hc : p c = false) (rest : List Char) :
    dropTrailing p (c :: rest) = c :: dropTrailing p rest := by
  rw [dropTrailing, dropTrailing, List.reverse_cons, List.dropWhile_append]
  split
  · next h => simp [List.isEmpty_iff.1 h, hc]
  · exact List.reverse_append

theorem dropTrailing_eq_self {p : Char → Bool} {text : List Char} (h : ∀ c ∈ text, p c = false) :
    dropTrailing p text = text := by
  induction text with
  | nil => rfl
  | cons c rest ih =>
    obtain ⟨hc, hrest⟩ := List.forall_mem_cons.1 h
    rw [dropTrailing_cons hc, ih hrest]

/-- a text without white space has none to trim -/
theorem trim_eq_self {text : List Char} (h : ∀ c ∈ text, isWhiteSpace c = false) : trim text = text := by
  have hfront : text.dropWhile isWhiteSpace = text := by
    cases text with
    | nil => rfl
    | cons c rest => exact List.dropWhile_cons_of_neg (by simp [h c List.mem_cons_self])
  rw [trim, hfront, dropTrailing_eq_self h]

namespace Numeral

/-! ## Decimal digits -/

theorem digit?_ten {c : Char} (h : c.isDigit = true) : digit? 10 c = some (c.toNat - '0'.toNat) := by
  have hbounds : '0' ≤ c ∧ c ≤ '9' := by simpa [Char.isDigit, Char.le_def] using h
  have hsmall : c.toNat - '0'.toNat < 10 := by
    have hnine : c.toNat ≤ '9'.toNat := hbounds.2
    have hvalue : '9'.toNat = 57 ∧ '0'.toNat = 48 := ⟨rfl, rfl⟩
    omega
  rw [digit?, if_pos hbounds]
  exact Option.filter_some_pos (decide_eq_true hsmall)

theorem extend?_ten {digits : List Char} (h : ∀ c ∈ digits, c.isDigit = true) (n : Nat) :
    extend? 10 n digits = some (Nat.ofDigitChars 10 digits n) := by
  induction digits generalizing n with
  | nil => rfl
  | cons c rest ih =>
    obtain ⟨hc, hrest⟩ := List.forall_mem_cons.1 h
    rw [extend?, digit?_ten hc, Option.bind_some, ih hrest, Nat.ofDigitChars_cons, Nat.mul_comm]

/-- a number below 2^32 is read off its decimal digits -/
theorem read?_toDigits {n : Nat} (h : n < Size.limit) : read? 10 (Nat.toDigits 10 n) = some n := by
  have hdigits : ∀ c ∈ Nat.toDigits 10 n, c.isDigit = true := fun c hc =>
    Nat.isDigit_of_mem_toDigits (by decide) (by decide) hc
  have hne : Nat.toDigits 10 n ≠ [] := List.ne_nil_of_length_pos Nat.length_toDigits_pos
  rw [read?, if_neg hne, extend?_ten hdigits, Nat.ofDigitChars_ten_toDigits, Option.bind_some]
  exact Size.fits?_eq_some.2 ⟨h, rfl⟩

theorem lt_of_read? {base n : Nat} {digits : List Char} (h : read? base digits = some n) : n < Size.limit := by
  rw [read?] at h
  split at h
  · simp at h
  · obtain ⟨m, -, hm⟩ := Option.bind_eq_some_iff.1 h
    obtain ⟨hlt, rfl⟩ := Size.fits?_eq_some.1 hm
    exact hlt

/-! ## Literals -/

/-- the literal begins with a hexadecimal mark -/
def isHexadecimal : List Char → Bool
  | '0' :: 'x' :: _ => true
  | '0' :: 'X' :: _ => true
  | _ => false

theorem isHexadecimal_iff {literal : List Char} :
    isHexadecimal literal = true ↔ ∃ mark rest, (mark = 'x' ∨ mark = 'X') ∧ literal = '0' :: mark :: rest := by
  constructor
  · intro h
    unfold isHexadecimal at h
    split at h
    · exact ⟨'x', _, .inl rfl, rfl⟩
    · exact ⟨'X', _, .inr rfl, rfl⟩
    · simp at h
  · rintro ⟨mark, rest, rfl | rfl, rfl⟩
    · rfl
    · rfl

theorem dropSuffix_prefix (literal : List Char) : dropSuffix literal <+: literal := List.rdropWhile_prefix _ literal

/-- a mark is no suffix -/
theorem dropSuffix_of_mark {mark : Char} (hmark : mark = 'x' ∨ mark = 'X') (rest : List Char) :
    dropSuffix ('0' :: mark :: rest) = '0' :: mark :: dropSuffix rest := by
  have hkept : decide (mark = 'u' ∨ mark = 'i') = false := by rcases hmark with rfl | rfl <;> rfl
  rw [dropSuffix, dropTrailing_cons rfl, dropTrailing_cons hkept, dropSuffix]

theorem lt_of_arrayLength? {literal : List Char} {n : Nat} (h : arrayLength? literal = some n) : n < Size.limit := by
  unfold arrayLength? at h
  split at h <;> exact lt_of_read? h

/-- without a mark a length is decimal -/
theorem arrayLength?_of_decimal {literal : List Char} (h : isHexadecimal literal = false) :
    arrayLength? literal = read? 10 (dropSuffix literal) := by
  have hdrop : ∀ mark digits, (mark = 'x' ∨ mark = 'X') → dropSuffix literal ≠ '0' :: mark :: digits := by
    intro mark digits hmark heq
    obtain ⟨rest, hrest⟩ := dropSuffix_prefix literal
    rw [heq] at hrest
    have hhex := isHexadecimal_iff.2 ⟨mark, digits ++ rest, hmark, hrest.symm⟩
    simp [h] at hhex
  unfold arrayLength?
  split
  · next digits heq => exact absurd heq (hdrop 'x' digits (.inl rfl))
  · next digits heq => exact absurd heq (hdrop 'X' digits (.inr rfl))
  · rfl

/-- a mark is no decimal digit -/
theorem read?_ten_hexadecimal {literal : List Char} (h : isHexadecimal literal = true) :
    read? 10 (dropSuffix literal) = none := by
  obtain ⟨mark, rest, hmark, rfl⟩ := isHexadecimal_iff.1 h
  have hdigit : digit? 10 mark = none := by rcases hmark with rfl | rfl <;> rfl
  have hzero : digit? 10 '0' = some 0 := rfl
  rw [dropSuffix_of_mark hmark, read?, if_neg (List.cons_ne_nil _ _), extend?, hzero, Option.bind_some, extend?, hdigit]
  rfl

/-- the value of a constant without white space and without a sign is decimal -/
theorem constantValue?_of_bare {literal : List Char} (hspace : ∀ c ∈ literal, isWhiteSpace c = false)
    (hsign : literal.head? ≠ some '+') : constantValue? literal = read? 10 (dropSuffix literal) := by
  rw [constantValue?, trim_eq_self hspace]
  split
  · next digits heq =>
    obtain ⟨rest, hrest⟩ := dropSuffix_prefix literal
    rw [heq] at hrest
    exact absurd (congrArg List.head? hrest.symm) hsign
  · rfl

/-- **A decimal numeral is the length that it was printed from.** -/
theorem arrayLength?_toString {n : Nat} (h : n < Size.limit) : arrayLength? (toString n).toList = some n := by
  rw [Nat.toString_eq_repr, Nat.toList_repr]
  have hdigits : ∀ c ∈ Nat.toDigits 10 n, c.isDigit = true := fun c hc =>
    Nat.isDigit_of_mem_toDigits (by decide) (by decide) hc
  have hdecimal : isHexadecimal (Nat.toDigits 10 n) = false := by
    rw [Bool.eq_false_iff]
    intro hhex
    obtain ⟨mark, rest, hmark, heq⟩ := isHexadecimal_iff.1 hhex
    have hdigit := hdigits mark (by simp [heq])
    rcases hmark with rfl | rfl <;> simp [Char.isDigit] at hdigit
  have hsuffix : dropSuffix (Nat.toDigits 10 n) = Nat.toDigits 10 n := by
    refine dropTrailing_eq_self fun c hc => decide_eq_false ?_
    rintro (rfl | rfl) <;> exact absurd (hdigits _ hc) (by decide)
  rw [arrayLength?_of_decimal hdecimal, hsuffix, read?_toDigits h]

end Numeral
end ShaderInterface
