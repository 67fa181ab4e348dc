/-
Array lengths by literal and by name.

A length is a literal, or the name of a constant whose value is a literal. Both are read from text, by two readers: that
of lengths takes hexadecimal literals too, that of constants does not. On decimal literals they agree, and then it makes
no difference to the extent of an array how its length is written, up to the type that an error mentions.

- `get?_integerConstants`: a constant has the integer that its value text spells.
- `extentOf_retyped`: the errors of a type inside another one mention that other one, and are the same else.
- `named_length`: a decimal literal may be named, whatever its suffix, and no other may.
- `hexadecimal_unnamed`: a literal that is a length, and that no constant can give.
-/
import ShaderInterface.Layout.LayoutTable
import ShaderInterface.Proofs.Resource.Evolution
import ShaderInterface.Proofs.Source.TypeText

namespace ShaderInterface

open Outcome Token

/-! ## Literals -/

/-- names identify constants, so each has the integer that its own value spells -/
theorem get?_integerConstants {r : Registry} (hnames : (r.constants.map (·.name)).Nodup) {c : Constant}
    (hc : c ∈ r.constants) : r.integerConstants.get? c.name = Numeral.constantValue? c.value.toList :=
  Table.get?_ofList_filterMap hnames hc

/-- a number token has nothing to trim and no sign -/
theorem constantValue?_of_number {literal : String} (h : isNumber literal.toList = true) :
    Numeral.constantValue? literal.toList = Numeral.read? 10 (Numeral.dropSuffix literal.toList) := by
  refine Numeral.constantValue?_of_bare (unspaced_number h) fun hsign => ?_
  obtain ⟨rest, hrest⟩ := List.head?_eq_some_iff.1 hsign
  rw [hrest, isNumber, Bool.and_eq_true] at h
  exact absurd h.1 (by decide)

/-- the length that a number token spells is that of an array in whose type it stands -/
theorem arrayLength?_of_parse {literal : String} (h : isNumber literal.toList = true) {count : Nat}
    (hparse : TypeExpr.parse ("array<f32," ++ literal ++ ">") = .ok (.array (.named "f32") (.fixed count))) :
    Numeral.arrayLength? literal.toList = some count := by
  have harray : isIdentifier "array".toList = true := by decide
  have hfloat : isIdentifier "f32".toList = true := by decide
  have htext : "array<f32," ++ literal ++ ">" = "array" ++ "<" ++ ("f32" ++ "," ++ literal) ++ ">" := by
    rw [← String.append_assoc, ← String.append_assoc]
    rfl
  have hplain : Plain ("f32" ++ "," ++ literal) := (plain_identifier hfloat).join (plain_number h) "," rfl (by decide)
  have hscan : Token.scan ("array<f32," ++ literal ++ ">") =
      [.ident "array", .punct '<', .ident "f32", .punct ',', .number literal, .punct '>'] := by
    rw [htext, scan_bracketed (plain_identifier harray) hplain, scan_identifier harray,
      scan_join (slash_notMem_identifier hfloat) "," literal (c := ',') rfl (by decide), scan_identifier hfloat,
      scan_number h]
    rfl
  rw [TypeExpr.parse, hscan, mapError_eq_ok, TypeExpr.ofTokens] at hparse
  cases hlength : Numeral.arrayLength? literal.toList with
  | none => simp [TypeExpr.read, ArrayLength.read, hlength, bind, Except.bind] at hparse
  | some n => simpa [TypeExpr.read, ArrayLength.read, hlength, bind, Except.bind, expectSymbol] using hparse

/-! ## Types in errors -/

/-- the error with one type in the place of another -/
def Error.retyped (old new : TypeExpr) : Error → Error
  | .unknownType owner member name =>
    .unknownType (if owner = old.text then new.text else owner) (if member = old.text then new.text else member) name
  | .zeroLengthArray type => .zeroLengthArray (if type = old then new else type)
  | .typeTooLarge type => .typeTooLarge (if type = old then new else type)
  | .unknownConstant type constant => .unknownConstant (if type = old then new else type) constant
  | e => e

/-- an element is smaller than its array -/
theorem TypeExpr.sizeOf_element_lt (element : TypeExpr) (length : ArrayLength) :
    sizeOf element < sizeOf (TypeExpr.array element length) := by
  rw [TypeExpr.array.sizeOf_spec]
  omega

namespace LayoutTable

variable {table : LayoutTable} {old new element : TypeExpr}

/-- arrays of one element fail alike, whose lengths count alike -/
theorem extentOf_array_retyped {first second : ArrayLength}
    (htype : (if TypeExpr.array element first = old then new else .array element first) = .array element second)
    (hcount : table.elementCount (.array element second) second =
      (table.elementCount (.array element first) first).mapError (Error.retyped old new))
    (helement : table.extentOf new.text new.text element =
      (table.extentOf old.text old.text element).mapError (Error.retyped old new)) :
    table.extentOf new.text new.text (.array element second) =
      (table.extentOf old.text old.text (.array element first)).mapError (Error.retyped old new) := by
  rw [extentOf, extentOf, mapError_bind, hcount]
  refine bind_congr fun count => ?_
  match count with
  | none => rfl
  | some 0 => simp only [Except.mapError, Error.retyped, htype]
  | some (n + 1) =>
    simp only [mapError_bind, helement]
    refine bind_congr fun extent => ?_
    cases Size.fits? (Size.roundUp extent.size extent.align * (n + 1)) with
    | some size => rfl
    | none => simp only [Except.mapError, Error.retyped, htype]

theorem elementCount_retyped {type : TypeExpr} (hother : type ≠ old) (length : ArrayLength) :
    table.elementCount type length = (table.elementCount type length).mapError (Error.retyped old new) := by
  cases length with
  | fixed count => rfl
  | runtime => rfl
  | constant name =>
    rw [elementCount]
    cases table.constants.get? name with
    | some count => rfl
    | none => simp [Except.mapError, Error.retyped, hother]

/-- **The errors of a type inside another** mention that other one, and are the same else. -/
theorem extentOf_retyped {type : TypeExpr} (hinside : sizeOf type < sizeOf old) :
    table.extentOf new.text new.text type =
      (table.extentOf old.text old.text type).mapError (Error.retyped old new) := by
  induction type with
  | named name =>
    rw [extentOf, extentOf]
    cases table.namedExtent? name with
    | some extent => rfl
    | none => simp [Except.mapError, Error.retyped]
  | array element length ih =>
    have hother : TypeExpr.array element length ≠ old := by
      rintro rfl
      exact absurd hinside (Nat.lt_irrefl _)
    exact extentOf_array_retyped (if_neg hother) (elementCount_retyped hother length)
      (ih (Nat.lt_trans (element.sizeOf_element_lt length) hinside))

/-- an array may be counted by the name of its length -/
theorem describe_named {name : String} {count : Nat} (hname : table.constants.get? name = some count)
    (element : TypeExpr) :
    table.describe (.array element (.constant name)) = (table.describe (.array element (.fixed count))).mapError
      (Error.retyped (.array element (.fixed count)) (.array element (.constant name))) := by
  have hcount : table.elementCount (.array element (.constant name)) (.constant name) = .ok (some count) := by
    rw [elementCount, hname]
  exact extentOf_array_retyped (if_pos rfl) hcount (extentOf_retyped (element.sizeOf_element_lt _))

theorem describe_unnamed {name : String} (hname : table.constants.get? name = none) (element : TypeExpr) :
    table.describe (.array element (.constant name)) =
      .error (.unknownConstant (.array element (.constant name)) name) := by
  rw [describe, extentOf, elementCount, hname]
  rfl

end LayoutTable

/-! ## Named literals -/

/-- the integer of a constant whose value is a number token is the length that the token spells, if it is decimal -/
theorem constantValue?_eq_arrayLength? {literal : String} (h : isNumber literal.toList = true) :
    Numeral.constantValue? literal.toList =
      if Numeral.isHexadecimal literal.toList then none else Numeral.arrayLength? literal.toList := by
  rw [constantValue?_of_number h]
  split
  · next hhex => exact Numeral.read?_ten_hexadecimal hhex
  · next hdecimal => exact (Numeral.arrayLength?_of_decimal (Bool.not_eq_true _ ▸ hdecimal)).symm

/-- **A length by its name.** A constant whose value is a literal that is a length gives that length, with the same
outcome for arrays of whatever element up to the type in errors, unless the literal is hexadecimal: then the constant is
no integer, and an array that names it is refused. -/
theorem named_length (history : List Declaration) {literal name type : String} {count : Nat}
    (hliteral : isNumber literal.toList = true)
    (hparse : TypeExpr.parse ("array<f32," ++ literal ++ ">") = .ok (.array (.named "f32") (.fixed count)))
    (hconstant : ⟨name, type, literal⟩ ∈ (Registry.run history).constants) :
    (Registry.run history).integerConstants.get? name =
        (if Numeral.isHexadecimal literal.toList then none else some count) ∧
      ∀ table : LayoutTable, table.constants = (Registry.run history).integerConstants → ∀ element,
        table.describe (.array element (.constant name)) =
          if Numeral.isHexadecimal literal.toList then
            .error (.unknownConstant (.array element (.constant name)) name)
          else (table.describe (.array element (.fixed count))).mapError
            (Error.retyped (.array element (.fixed count)) (.array element (.constant name))) := by
  have hinteger : (Registry.run history).integerConstants.get? name =
      if Numeral.isHexadecimal literal.toList then none else some count := by
    rw [← arrayLength?_of_parse hliteral hparse, ← constantValue?_eq_arrayLength? hliteral]
    exact get?_integerConstants (Registry.distinct_run history).constants hconstant
  refine ⟨hinteger, fun table htable element => ?_⟩
  rw [← htable] at hinteger
  split
  · next hhex =>
    rw [if_pos hhex] at hinteger
    exact LayoutTable.describe_unnamed hinteger element
  · next hdecimal =>
    rw [if_neg hdecimal] at hinteger
    exact LayoutTable.describe_named hinteger element

/-! ## The colors of a palette -/

def paletteHistory : List Declaration := [.constant "BANDS" "u32" "3", .constant "COLORS" "u32" "0016u"]

theorem colors_named_length :
    TypeExpr.parse ("array<f32," ++ "0016u" ++ ">") = .ok (.array (.named "f32") (.fixed 16)) ∧
      (Registry.run paletteHistory).integerConstants.get? "COLORS" = some 16 ∧
      ∀ table : LayoutTable, table.constants = (Registry.run paletteHistory).integerConstants → ∀ element,
        table.describe (.array element (.constant "COLORS")) = (table.describe (.array element (.fixed 16))).mapError
          (Error.retyped (.array element (.fixed 16)) (.array element (.constant "COLORS"))) := by
  have hparse : TypeExpr.parse ("array<f32," ++ "0016u" ++ ">") = .ok (.array (.named "f32") (.fixed 16)) := by
    decide +kernel
  have hconstant : ⟨"COLORS", "u32", "0016u"⟩ ∈ (Registry.run paletteHistory).constants := by decide +kernel
  have hdecimal : Numeral.isHexadecimal "0016u".toList = false := by decide
  obtain ⟨hinteger, hdescribe⟩ := named_length paletteHistory (by decide) hparse hconstant
  simp only [hdecimal, Bool.false_eq_true, if_false] at hinteger hdescribe
  exact ⟨hparse, hinteger, hdescribe⟩

/-- a hexadecimal literal is a length, and no constant of that value is -/
theorem hexadecimal_unnamed :
    let r := Registry.run [.constant "N" "u32" "0x10"]
    let table : LayoutTable := ⟨[], r.integerConstants⟩
    TypeExpr.parse "array<f32,0x10>" = .ok (.array (.named "f32") (.fixed 16)) ∧
      r.constants = [⟨"N", "u32", "0x10"⟩] ∧ r.integerConstants.get? "N" = none ∧
      table.describe (.array (.named "f32") (.fixed 16)) = .ok ⟨64, 4⟩ ∧
      table.describe (.array (.named "f32") (.constant "N")) =
        .error (.unknownConstant (.array (.named "f32") (.constant "N")) "N") := by
  decide +kernel

end ShaderInterface
