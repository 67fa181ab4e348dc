/-
The names of primitive types, and what they stand for.

`Listed` is the table: every name without white space, with the kind of its scalars, its size and its alignment. The
readers take a name apart from the front. They accept the names of the table and no other text, and answer what the
table says; the letter at the end of a short name stands for the kind that a long name writes out.

- `scalar?_eq_some_iff`, `atomic?_eq_some_iff`, `vector?_eq_some_iff`, `matrix?_eq_some_iff`: what each reader accepts.
- `ofChars?_vector`, `ofChars?_matrix`: the first letter of a name tells its reader.
- `listed_of_ofChars?`, `ofChars?_of_listed`: a name is read if and only if it is listed, and as it is listed.
- `primitive_names`: so for every text, whatever white space is in it.
-/
import ShaderInterface.Layout.Primitive

namespace ShaderInterface

/-! ## The table -/

/-- the names of the scalar kinds -/
inductive ScalarName : String → ScalarKind → Prop where
  | f32 : ScalarName "f32" .f32
  | i32 : ScalarName "i32" .i32
  | u32 : ScalarName "u32" .u32
  | f16 : ScalarName "f16" .f16
  | bool : ScalarName "bool" .bool

/-- the letters that stand for a scalar kind; `bool` has none -/
inductive ScalarLetter : String → ScalarKind → Prop where
  | f : ScalarLetter "f" .f32
  | i : ScalarLetter "i" .i32
  | u : ScalarLetter "u" .u32
  | h : ScalarLetter "h" .f16

/-- how the name of a vector or matrix ends: in the kind written out, or in its letter -/
inductive ElementName : String → ScalarKind → Prop where
  | long {name : String} {kind : ScalarKind} (named : ScalarName name kind) : ElementName ("<" ++ name ++ ">") kind
  | short {letter : String} {kind : ScalarKind} (lettered : ScalarLetter letter kind) : ElementName letter kind

/-- scalars that the alignment of `n` components counts: three align like four -/
def alignedCount (n : Nat) : Nat := if n = 2 then 2 else 4

/-- the primitive types: name without white space, scalar kind, size and alignment -/
inductive Primitive.Listed : String → ScalarKind → Extent → Prop where
  | scalar {name : String} {kind : ScalarKind} (named : ScalarName name kind) :
      Listed name kind ⟨kind.bytes, kind.bytes⟩
  | atomic {name : String} {kind : ScalarKind} (named : ScalarName name kind) (integer : kind = .i32 ∨ kind = .u32) :
      Listed ("atomic<" ++ name ++ ">") kind ⟨kind.bytes, kind.bytes⟩
  | vector {n : Nat} {element : String} {kind : ScalarKind} (components : 2 ≤ n ∧ n ≤ 4)
      (ends : ElementName element kind) :
      Listed ("vec" ++ toString n ++ element) kind ⟨n * kind.bytes, alignedCount n * kind.bytes⟩
  | matrix {c r : Nat} {element : String} {kind : ScalarKind} (columns : 2 ≤ c ∧ c ≤ 4) (rows : 2 ≤ r ∧ r ≤ 4)
      (ends : ElementName element kind) (float : kind = .f32 ∨ kind = .f16) :
      Listed ("mat" ++ toString c ++ "x" ++ toString r ++ element) kind
        ⟨c * Size.roundUp (r * kind.bytes) (alignedCount r * kind.bytes), alignedCount r * kind.bytes⟩

/-- the first name ends in the letter of a scalar kind, and the second one is the same with the kind written out -/
inductive Primitive.Abbreviates : String → String → Prop where
  | vector {n : Nat} {letter name : String} {kind : ScalarKind} (components : 2 ≤ n ∧ n ≤ 4)
      (lettered : ScalarLetter letter kind) (named : ScalarName name kind) :
      Abbreviates ("vec" ++ toString n ++ letter) ("vec" ++ toString n ++ ("<" ++ name ++ ">"))
  | matrix {c r : Nat} {letter name : String} {kind : ScalarKind} (columns : 2 ≤ c ∧ c ≤ 4) (rows : 2 ≤ r ∧ r ≤ 4)
      (lettered : ScalarLetter letter kind) (named : ScalarName name kind) (float : kind = .f32 ∨ kind = .f16) :
      Abbreviates ("mat" ++ toString c ++ "x" ++ toString r ++ letter)
        ("mat" ++ toString c ++ "x" ++ toString r ++ ("<" ++ name ++ ">"))

/-- a short name and the long one are listed with one kind and one extent -/
theorem Primitive.Abbreviates.listed {short long : String} (h : Abbreviates short long) :
    ∃ kind e, Listed short kind e ∧ Listed long kind e := by
  cases h with
  | vector components lettered named =>
    exact ⟨_, _, .vector components (.short lettered), .vector components (.long named)⟩
  | matrix columns rows lettered named float =>
    exact ⟨_, _, .matrix columns rows (.short lettered) float, .matrix columns rows (.long named) float⟩

/-! ## Parts of a name -/

namespace ScalarKind

theorem scalarName_name (kind : ScalarKind) : ScalarName kind.name kind := by
  cases kind <;> constructor

theorem scalarLetter_of_letter {kind : ScalarKind} {c : Char} (h : kind.letter = some c) :
    ScalarLetter (String.singleton c) kind := by
  cases kind with
  | f32 => cases h; exact .f
  | i32 => cases h; exact .i
  | u32 => cases h; exact .u
  | f16 => cases h; exact .h
  | bool => cases h

theorem ofName?_eq_some_iff {name : String} {kind : ScalarKind} :
    ofName? name.toList = some kind ↔ ScalarName name kind := by
  constructor
  · intro h
    have hname : kind.name = name := String.toList_inj.1 (by simpa using List.find?_some h)
    rw [← hname]
    exact scalarName_name kind
  · intro h
    cases h <;> rfl

theorem ofSpelling?_eq_some_iff {element : String} {kind : ScalarKind} :
    ofSpelling? element.toList = some kind ↔ ElementName element kind := by
  constructor
  · intro h
    have hmem : element.toList ∈ kind.spellings := by simpa using List.find?_some h
    rcases List.mem_cons.1 hmem with hlong | hshort
    · have hname : element = "<" ++ kind.name ++ ">" := String.toList_inj.1 (by simp [hlong])
      rw [hname]
      exact .long kind.scalarName_name
    · obtain ⟨c, hc, helement⟩ := List.mem_map.1 hshort
      have hname : element = String.singleton c := String.toList_inj.1 (by simp [← helement])
      rw [hname]
      exact .short (scalarLetter_of_letter (by simpa using hc))
  · intro h
    cases h with
    | long named => cases named <;> rfl
    | short lettered => cases lettered <;> rfl

theorem isFloat_iff {kind : ScalarKind} : kind.isFloat = true ↔ kind = .f32 ∨ kind = .f16 := by
  cases kind <;> decide

end ScalarKind

namespace Dimension

def digit : Dimension → Char
  | .two => '2'
  | .three => '3'
  | .four => '4'

theorem toList_count (d : Dimension) : (toString d.count).toList = [d.digit] := by
  cases d <;> rfl

theorem ofChar?_eq_some_iff {c : Char} {d : Dimension} : ofChar? c = some d ↔ c = d.digit := by
  constructor
  · intro h
    unfold ofChar? at h
    split at h <;> cases h <;> rfl
  · rintro rfl
    cases d <;> rfl

theorem count_bounds (d : Dimension) : 2 ≤ d.count ∧ d.count ≤ 4 := by
  cases d <;> decide

theorem exists_count {n : Nat} (h : 2 ≤ n ∧ n ≤ 4) : ∃ d : Dimension, d.count = n := by
  have hn : n = 2 ∨ n = 3 ∨ n = 4 := by omega
  rcases hn with rfl | rfl | rfl
  · exact ⟨.two, rfl⟩
  · exact ⟨.three, rfl⟩
  · exact ⟨.four, rfl⟩

theorem alignCount_eq (d : Dimension) : d.alignCount = alignedCount d.count := by
  cases d <;> rfl

end Dimension

namespace Primitive

theorem extent_vector (d : Dimension) (kind : ScalarKind) :
    extent ⟨.vector d, kind⟩ = ⟨d.count * kind.bytes, alignedCount d.count * kind.bytes⟩ := by
  rw [← d.alignCount_eq]
  rfl

theorem extent_matrix (c r : Dimension) (kind : ScalarKind) :
    extent ⟨.matrix c r, kind⟩ =
      ⟨c.count * Size.roundUp (r.count * kind.bytes) (alignedCount r.count * kind.bytes),
        alignedCount r.count * kind.bytes⟩ := by
  rw [← r.alignCount_eq]
  rfl

/-! ## The readers -/

variable {name : String} {p : Primitive}

theorem scalar?_eq_some_iff :
    scalar? name.toList = some p ↔ ∃ kind, ScalarName name kind ∧ p = ⟨.scalar, kind⟩ := by
  rw [scalar?, Option.map_eq_some_iff]
  simp only [ScalarKind.ofName?_eq_some_iff, eq_comm (b := p)]

theorem atomic?_eq_some_iff : atomic? name.toList = some p ↔
    ∃ scalar kind, ScalarName scalar kind ∧ (kind = .i32 ∨ kind = .u32) ∧ name = "atomic<" ++ scalar ++ ">" ∧
      p = ⟨.atomic, kind⟩ := by
  constructor
  · intro h
    unfold atomic? at h
    split at h
    · next hname =>
      cases h
      exact ⟨"i32", .i32, .i32, .inl rfl, String.toList_inj.1 hname, rfl⟩
    · split at h
      · next hname =>
        cases h
        exact ⟨"u32", .u32, .u32, .inr rfl, String.toList_inj.1 hname, rfl⟩
      · cases h
  · rintro ⟨scalar, kind, named, integer, rfl, rfl⟩
    rcases integer with rfl | rfl
    · cases named
      rfl
    · cases named
      rfl

theorem toList_vector (d : Dimension) (element : String) :
    ("vec" ++ toString d.count ++ element).toList = 'v' :: 'e' :: 'c' :: d.digit :: element.toList := by
  rw [String.toList_append, String.toList_append, d.toList_count]
  rfl

theorem toList_matrix (c r : Dimension) (element : String) :
    ("mat" ++ toString c.count ++ "x" ++ toString r.count ++ element).toList =
      'm' :: 'a' :: 't' :: c.digit :: 'x' :: r.digit :: element.toList := by
  simp only [String.toList_append, c.toList_count, r.toList_count]
  rfl

theorem vector?_eq_some_iff : vector? name.toList = some p ↔
    ∃ d element kind, ElementName element kind ∧ name = "vec" ++ toString d.count ++ element ∧
      p = ⟨.vector d, kind⟩ := by
  constructor
  · intro h
    unfold vector? at h
    split at h
    · next n rest hname =>
      simp only [Option.bind_eq_bind, Option.bind_eq_some_iff, Option.some.injEq] at h
      obtain ⟨d, hd, kind, hkind, rfl⟩ := h
      rw [← String.toList_ofList (l := rest), ScalarKind.ofSpelling?_eq_some_iff] at hkind
      refine ⟨d, String.ofList rest, kind, hkind, String.toList_inj.1 ?_, rfl⟩
      rw [hname, toList_vector, String.toList_ofList, Dimension.ofChar?_eq_some_iff.1 hd]
    · cases h
  · rintro ⟨d, element, kind, ends, rfl, rfl⟩
    rw [toList_vector]
    simp [vector?, Dimension.ofChar?_eq_some_iff.2 rfl, ScalarKind.ofSpelling?_eq_some_iff.2 ends]

theorem matrix?_eq_some_iff : matrix? name.toList = some p ↔
    ∃ c r element kind, ElementName element kind ∧ (kind = .f32 ∨ kind = .f16) ∧
      name = "mat" ++ toString c.count ++ "x" ++ toString r.count ++ element ∧ p = ⟨.matrix c r, kind⟩ := by
  constructor
  · intro h
    unfold matrix? at h
    split at h
    · next columns rows rest hname =>
      simp only [Option.bind_eq_bind, Option.bind_eq_some_iff, Option.ite_none_right_eq_some, Option.some.injEq] at h
      obtain ⟨c, hc, r, hr, kind, hkind, hfloat, rfl⟩ := h
      rw [← String.toList_ofList (l := rest), ScalarKind.ofSpelling?_eq_some_iff] at hkind
      refine ⟨c, r, String.ofList rest, kind, hkind, ScalarKind.isFloat_iff.1 hfloat, String.toList_inj.1 ?_, rfl⟩
      rw [hname, toList_matrix, String.toList_ofList, Dimension.ofChar?_eq_some_iff.1 hc,
        Dimension.ofChar?_eq_some_iff.1 hr]
    · cases h
  · rintro ⟨c, r, element, kind, ends, float, rfl, rfl⟩
    rw [toList_matrix]
    simp [matrix?, Dimension.ofChar?_eq_some_iff.2 rfl, ScalarKind.ofSpelling?_eq_some_iff.2 ends,
      ScalarKind.isFloat_iff.2 float]

/-! ## The first letter -/

theorem ofChars?_vector (rest : List Char) : ofChars? ('v' :: rest) = vector? ('v' :: rest) := by
  simp [ofChars?, scalar?, ScalarKind.ofName?, ScalarKind.all, ScalarKind.name, atomic?, matrix?]

theorem ofChars?_matrix (rest : List Char) : ofChars? ('m' :: rest) = matrix? ('m' :: rest) := by
  simp [ofChars?, scalar?, ScalarKind.ofName?, ScalarKind.all, ScalarKind.name, atomic?, vector?]

/-! ## The table and the readers -/

/-- what is read is listed -/
theorem listed_of_ofChars? (h : ofChars? name.toList = some p) : Listed name p.kind p.extent := by
  simp only [ofChars?, Option.orElse_eq_orElse, Option.orElse_eq_or, Option.or_eq_some_iff] at h
  rcases h with h | ⟨-, h | ⟨-, h | ⟨-, h⟩⟩⟩
  · obtain ⟨kind, named, rfl⟩ := scalar?_eq_some_iff.1 h
    exact .scalar named
  · obtain ⟨scalar, kind, named, integer, rfl, rfl⟩ := atomic?_eq_some_iff.1 h
    exact .atomic named integer
  · obtain ⟨d, element, kind, ends, rfl, rfl⟩ := vector?_eq_some_iff.1 h
    rw [extent_vector]
    exact .vector d.count_bounds ends
  · obtain ⟨c, r, element, kind, ends, float, rfl, rfl⟩ := matrix?_eq_some_iff.1 h
    rw [extent_matrix]
    exact .matrix c.count_bounds r.count_bounds ends float

/-- what is listed is read, as it is listed -/
theorem ofChars?_of_listed {kind : ScalarKind} {e : Extent} (h : Listed name kind e) :
    ∃ p, ofChars? name.toList = some p ∧ p.kind = kind ∧ p.extent = e := by
  cases h with
  | scalar named =>
    refine ⟨⟨.scalar, kind⟩, ?_, rfl, rfl⟩
    rw [ofChars?, scalar?_eq_some_iff.2 ⟨kind, named, rfl⟩]
    rfl
  | atomic named integer =>
    rcases integer with rfl | rfl
    · cases named
      exact ⟨⟨.atomic, .i32⟩, rfl, rfl, rfl⟩
    · cases named
      exact ⟨⟨.atomic, .u32⟩, rfl, rfl, rfl⟩
  | @vector n element _ components ends =>
    obtain ⟨d, rfl⟩ := Dimension.exists_count components
    refine ⟨⟨.vector d, kind⟩, ?_, rfl, extent_vector d kind⟩
    have hread := vector?_eq_some_iff.2 ⟨d, element, kind, ends, rfl, rfl⟩
    -- the readers in front of this one refuse the first letter
    rw [toList_vector] at hread ⊢
    rw [ofChars?_vector, hread]
  | @matrix c r element _ columns rows ends float =>
    obtain ⟨c, rfl⟩ := Dimension.exists_count columns
    obtain ⟨r, rfl⟩ := Dimension.exists_count rows
    refine ⟨⟨.matrix c r, kind⟩, ?_, rfl, extent_matrix c r kind⟩
    have hread := matrix?_eq_some_iff.2 ⟨c, r, element, kind, ends, float, rfl, rfl⟩
    rw [toList_matrix] at hread ⊢
    rw [ofChars?_matrix, hread]

theorem listed_iff {kind : ScalarKind} {e : Extent} :
    Listed name kind e ↔ ∃ p, ofChars? name.toList = some p ∧ p.kind = kind ∧ p.extent = e := by
  constructor
  · exact ofChars?_of_listed
  · rintro ⟨p, h, rfl, rfl⟩
    exact listed_of_ofChars? h

end Primitive

/-! ## Names with white space -/

/-- the name without its white space -/
def bareName (name : String) : String := String.ofList (squeeze name.toList)

theorem listed_bareName_iff {name : String} {kind : ScalarKind} {e : Extent} : Primitive.Listed (bareName name) kind e ↔
    (Primitive.ofName? name).map Primitive.extent = some e ∧ ScalarKind.ofType? name = some kind := by
  have hread : Primitive.ofChars? (bareName name).toList = Primitive.ofName? name := by
    rw [bareName, String.toList_ofList, Primitive.ofName?]
  rw [Primitive.listed_iff, hread, ScalarKind.ofType?]
  cases Primitive.ofName? name with
  | none => simp
  | some p => simp [and_comm]

theorem isSome_ofType? (name : String) :
    (ScalarKind.ofType? name).isSome = ((Primitive.ofName? name).map Primitive.extent).isSome := by
  rw [ScalarKind.ofType?, Option.isSome_map, Option.isSome_map]

/-- **The table of primitive types.** Whatever the text, it has an extent if and only if it is a name of the table once
its white space is gone, and then it has a scalar kind too; both are those of the table. A name that ends in the letter
of a kind has the extent and the kind of the name that writes the kind out. -/
theorem primitive_names (name : String) :
    (((Primitive.ofName? name).map Primitive.extent).isSome ↔ ∃ kind e, Primitive.Listed (bareName name) kind e) ∧
      ((ScalarKind.ofType? name).isSome ↔ ((Primitive.ofName? name).map Primitive.extent).isSome) ∧
      (∀ kind e, Primitive.Listed (bareName name) kind e ↔
        (Primitive.ofName? name).map Primitive.extent = some e ∧ ScalarKind.ofType? name = some kind) ∧
      ∀ long, Primitive.Abbreviates (bareName name) (bareName long) →
        (Primitive.ofName? name).map Primitive.extent = (Primitive.ofName? long).map Primitive.extent ∧
          ScalarKind.ofType? name = ScalarKind.ofType? long := by
  refine ⟨?_, by rw [isSome_ofType?], fun kind e => listed_bareName_iff, ?_⟩
  · constructor
    · intro hextent
      have hkind := hextent
      rw [← isSome_ofType?] at hkind
      obtain ⟨e, he⟩ := Option.isSome_iff_exists.1 hextent
      obtain ⟨kind, hk⟩ := Option.isSome_iff_exists.1 hkind
      exact ⟨kind, e, listed_bareName_iff.2 ⟨he, hk⟩⟩
    · rintro ⟨kind, e, hlisted⟩
      rw [(listed_bareName_iff.1 hlisted).1]
      rfl
  · intro long h
    obtain ⟨kind, e, hshort, hlong⟩ := h.listed
    obtain ⟨hextent, hkind⟩ := listed_bareName_iff.1 hshort
    obtain ⟨hextent', hkind'⟩ := listed_bareName_iff.1 hlong
    exact ⟨hextent.trans hextent'.symm, hkind.trans hkind'.symm⟩

/-- a matrix of two columns, whose three rows take the room of four -/
theorem mat2x3h_primitive_names :
    Primitive.Abbreviates (bareName "mat2x3\u2003h") (bareName "mat2x3 < f16 >") ∧
      Primitive.Listed (bareName "mat2x3\u2003h") .f16 ⟨16, 8⟩ ∧
      (Primitive.ofName? "mat2x3\u2003h").map Primitive.extent = some ⟨16, 8⟩ ∧
      (Primitive.ofName? "mat2x3 < f16 >").map Primitive.extent = some ⟨16, 8⟩ ∧
      ScalarKind.ofType? "mat2x3\u2003h" = some .f16 ∧ ScalarKind.ofType? "mat2x3 < f16 >" = some .f16 := by
  have hshort : bareName "mat2x3\u2003h" = "mat" ++ toString 2 ++ "x" ++ toString 3 ++ "h" := by decide
  have hlong : bareName "mat2x3 < f16 >" = "mat" ++ toString 2 ++ "x" ++ toString 3 ++ ("<" ++ "f16" ++ ">") := by
    decide
  have habbreviates : Primitive.Abbreviates (bareName "mat2x3\u2003h") (bareName "mat2x3 < f16 >") := by
    rw [hshort, hlong]
    exact .matrix (by decide) (by decide) .h .f16 (.inr rfl)
  obtain ⟨-, -, hentry, halias⟩ := primitive_names "mat2x3\u2003h"
  have hlisted : Primitive.Listed (bareName "mat2x3\u2003h") .f16 ⟨16, 8⟩ := by
    rw [hshort]
    exact .matrix (c := 2) (r := 3) (by decide) (by decide) (.short .h) (.inr rfl)
  obtain ⟨hextent, hkind⟩ := (hentry .f16 ⟨16, 8⟩).1 hlisted
  obtain ⟨hsame, hsameKind⟩ := halias _ habbreviates
  exact ⟨habbreviates, hlisted, hextent, hsame.symm.trans hextent, hkind, hsameKind.symm.trans hkind⟩

/-- names that the table does not have -/
example : ∀ name ∈ ["atomici", "atomic<f32>", "vec5f", "vec2<f32", "vec2ff", "mat2x2", "mat2x2i", "mat2x2<bool>"],
    Primitive.ofName? name = none := by
  decide

end ShaderInterface
