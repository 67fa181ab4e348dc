/-
How large nested arrays are.

An array rounds its element up to the element's alignment, multiplies by its length, and checks that the product is a
size. Arrays inside arrays do so at every level. Rounding changes something at the innermost level only, since an array
has the alignment of its elements, and no level is larger than the one around it. So the size is the stride of the leaf
times the product of all lengths, and this one number decides whether the type fits.

- `Extent.arrays`: the extent of nested arrays in unbounded numbers; `Extent.stride_arrays`: their stride.
- `extentOf_array_iff`: one array, with everything that is checked for it.
- `describe_counted`: nested arrays have an extent exactly if their lengths are known and not 0, their leaf has an extent,
  and the product fits.
- `describe_layersType`: so do layers of texels, though their texel count is clamped before it is multiplied.
-/
import Mathlib.Algebra.GroupWithZero.Nat
import ShaderInterface.Proofs.Layout.WgslRule
import ShaderInterface.Resource.Basic

namespace ShaderInterface

open Outcome

/-! ## Sizes without bounds -/

/-- the bytes from one element of an array to the next -/
def Extent.stride (e : Extent) : Nat := Size.roundUp e.size e.align

/-- the extent of nested arrays of these many elements around a leaf, that of the leaf itself if there are no arrays -/
def Extent.arrays (leaf : Extent) (counts : List Nat) : Extent :=
  ⟨if counts = [] then leaf.size else leaf.stride * counts.prod, leaf.align⟩

/-- the count that a length stands for; a runtime array has none -/
def ArrayLength.count? (constants : Table String Nat) : ArrayLength → Option Nat
  | .fixed count => some count
  | .constant name => constants.get? name
  | .runtime => none

/-- the lengths of nested arrays, the outermost first -/
def TypeExpr.lengths : TypeExpr → List ArrayLength
  | .named _ => []
  | .array element length => length :: element.lengths

theorem Extent.stride_mul_prod_cons (leaf : Extent) (count : Nat) (counts : List Nat) :
    leaf.stride * (count :: counts).prod = leaf.stride * counts.prod * count := by
  rw [List.prod_cons, Nat.mul_assoc, Nat.mul_comm count]

/-- **Only the innermost array rounds**: the stride of nested arrays is so many strides of the leaf. -/
theorem Extent.stride_arrays (leaf : Extent) (counts : List Nat) :
    (leaf.arrays counts).stride = leaf.stride * counts.prod := by
  cases counts with
  | nil => exact (Nat.mul_one leaf.stride).symm
  | cons count counts =>
    rw [arrays, if_neg (List.cons_ne_nil count counts)]
    refine Size.roundUp_eq_self fun hne => ?_
    exact Nat.dvd_mul_right_of_dvd (Size.dvd_roundUp leaf.size hne) _

/-- one more array around nested ones -/
theorem Extent.arrays_cons (leaf : Extent) (count : Nat) (counts : List Nat) :
    leaf.arrays (count :: counts) = ⟨(leaf.arrays counts).stride * count, leaf.align⟩ := by
  rw [stride_arrays, arrays, if_neg (List.cons_ne_nil count counts), stride_mul_prod_cons]

namespace LayoutTable

variable {table : LayoutTable} {owner member : String} {e : Extent}

/-! ## One array -/

theorem elementCount_eq_some {type : TypeExpr} {length : ArrayLength} {count : Nat} :
    table.elementCount type length = .ok (some count) ↔ length.count? table.constants = some count := by
  cases length with
  | fixed n => simp [elementCount, ArrayLength.count?]
  | runtime => simp [elementCount, ArrayLength.count?]
  | constant name =>
    rw [elementCount, ArrayLength.count?]
    cases table.constants.get? name with
    | some n => simp
    | none => simp

/-- a counted array has an extent if its length is known and not 0, its element has an extent, and so many elements fit -/
theorem extentOf_array_iff {element : TypeExpr} {length : ArrayLength} (hlength : length ≠ .runtime) :
    table.extentOf owner member (.array element length) = .ok e ↔
      ∃ count of, length.count? table.constants = some count ∧ count ≠ 0 ∧ table.extentOf owner member element = .ok of ∧
        of.stride * count < Size.limit ∧ e = ⟨of.stride * count, of.align⟩ := by
  rw [extentOf_array_eq_ok]
  constructor
  · rintro ⟨count, hcount, ⟨rfl, -⟩ | ⟨n, of, rfl, hof, hlimit, rfl⟩⟩
    · cases length with
      | runtime => exact absurd rfl hlength
      | fixed n => simp [elementCount] at hcount
      | constant name =>
        rw [elementCount] at hcount
        split at hcount <;> simp at hcount
    · exact ⟨n + 1, of, elementCount_eq_some.1 hcount, Nat.succ_ne_zero n, hof, hlimit, rfl⟩
  · rintro ⟨count, of, hcount, hne, hof, hlimit, rfl⟩
    obtain ⟨n, rfl⟩ := Nat.exists_eq_succ_of_ne_zero hne
    exact ⟨some (n + 1), elementCount_eq_some.2 hcount, .inr ⟨n, of, rfl, hof, hlimit, rfl⟩⟩

/-! ## Nested arrays -/

/-- the type is nested arrays of these many elements, none of them empty, around a leaf of that extent, and they fit -/
structure Counts (table : LayoutTable) (type : TypeExpr) (counts : List Nat) (leaf : Extent) : Prop where
  lengths : type.lengths.mapM (·.count? table.constants) = some counts
  nonempty : ∀ count ∈ counts, count ≠ 0
  known : table.namedExtent? type.leaf = some leaf
  fits : counts ≠ [] → leaf.stride * counts.prod < Size.limit

theorem counts_named {name : String} {counts : List Nat} {leaf : Extent} :
    table.Counts (.named name) counts leaf ↔ counts = [] ∧ table.namedExtent? name = some leaf := by
  constructor
  · intro h
    exact ⟨(Option.some.inj h.lengths).symm, h.known⟩
  · rintro ⟨rfl, hleaf⟩
    exact ⟨rfl, nofun, hleaf, fun hne => absurd rfl hne⟩

theorem mapM_lengths_array {constants : Table String Nat} {element : TypeExpr} {length : ArrayLength}
    {counts : List Nat} :
    (TypeExpr.array element length).lengths.mapM (·.count? constants) = some counts ↔
      ∃ count, length.count? constants = some count ∧
        ∃ inner, element.lengths.mapM (·.count? constants) = some inner ∧ count :: inner = counts := by
  simp only [TypeExpr.lengths, List.mapM_cons, Option.bind_eq_bind, Option.bind_eq_some_iff, Option.pure_def,
    Option.some.injEq]

/-- **One more array around nested ones.** Those inside fit if the whole does, since it has an element at least. -/
theorem counts_array {element : TypeExpr} {length : ArrayLength} {counts : List Nat} {leaf : Extent} :
    table.Counts (.array element length) counts leaf ↔
      ∃ count inner, counts = count :: inner ∧ length.count? table.constants = some count ∧ count ≠ 0 ∧
        table.Counts element inner leaf ∧ (leaf.arrays inner).stride * count < Size.limit := by
  have hwhole : ∀ count inner, leaf.stride * (count :: inner).prod = (leaf.arrays inner).stride * count := by
    intro count inner
    rw [Extent.stride_mul_prod_cons, Extent.stride_arrays]
  constructor
  · intro h
    obtain ⟨count, hcount, inner, hinner, rfl⟩ := mapM_lengths_array.1 h.lengths
    obtain ⟨hne, hnonempty⟩ := List.forall_mem_cons.1 h.nonempty
    have hlimit := h.fits (List.cons_ne_nil count inner)
    rw [hwhole] at hlimit
    refine ⟨count, inner, rfl, hcount, hne, ⟨hinner, hnonempty, h.known, fun _ => ?_⟩, hlimit⟩
    calc leaf.stride * inner.prod = (leaf.arrays inner).stride := (Extent.stride_arrays leaf inner).symm
      _ ≤ (leaf.arrays inner).stride * count := Nat.le_mul_of_pos_right _ (Nat.pos_of_ne_zero hne)
      _ < Size.limit := hlimit
  · rintro ⟨count, inner, rfl, hcount, hne, hinner, hlimit⟩
    refine ⟨mapM_lengths_array.2 ⟨count, hcount, inner, hinner.lengths, rfl⟩, ?_, hinner.known, fun _ => ?_⟩
    · exact List.forall_mem_cons.2 ⟨hne, hinner.nonempty⟩
    · rwa [hwhole]

/-- **The extent of nested arrays**, by induction from the leaf outwards. -/
theorem extentOf_counted_iff {type : TypeExpr} (hcounted : type.isCounted = true) :
    table.extentOf owner member type = .ok e ↔ ∃ counts leaf, table.Counts type counts leaf ∧ e = leaf.arrays counts := by
  induction type generalizing e with
  | named name =>
    rw [extentOf_named_eq_ok]
    constructor
    · intro he
      exact ⟨[], e, counts_named.2 ⟨rfl, he⟩, rfl⟩
    · rintro ⟨counts, leaf, hcounts, rfl⟩
      obtain ⟨rfl, hleaf⟩ := counts_named.1 hcounts
      exact hleaf
  | array element length ih =>
    obtain ⟨helement, hlength⟩ := TypeExpr.isCounted_array hcounted
    rw [extentOf_array_iff hlength]
    constructor
    · rintro ⟨count, of, hcount, hne, hof, hlimit, rfl⟩
      obtain ⟨inner, leaf, hinner, rfl⟩ := (ih helement).1 hof
      have hcounts := counts_array.2 ⟨count, inner, rfl, hcount, hne, hinner, hlimit⟩
      exact ⟨count :: inner, leaf, hcounts, (leaf.arrays_cons count inner).symm⟩
    · rintro ⟨counts, leaf, hcounts, rfl⟩
      obtain ⟨count, inner, rfl, hcount, hne, hinner, hlimit⟩ := counts_array.1 hcounts
      have hof := (ih helement).2 ⟨inner, leaf, hinner, rfl⟩
      exact ⟨count, leaf.arrays inner, hcount, hne, hof, hlimit, leaf.arrays_cons count inner⟩

end LayoutTable

/-- **Array sizes are exact.** Nested arrays with literal or named lengths have an extent exactly if every length is known
and not 0, the leaf is a primitive type or a struct of the table, and with at least one array the stride of the leaf times
all lengths fits. That product is then the size, and the alignment is that of the leaf. -/
theorem describe_counted (table : LayoutTable) {type : TypeExpr} (hcounted : type.isCounted = true) (e : Extent) :
    table.describe type = .ok e ↔
      ∃ counts leaf, type.lengths.mapM (·.count? table.constants) = some counts ∧ (∀ count ∈ counts, count ≠ 0) ∧
        table.namedExtent? type.leaf = some leaf ∧
        (counts ≠ [] → Size.roundUp leaf.size leaf.align * counts.prod < Size.limit) ∧
        e = ⟨if counts = [] then leaf.size else Size.roundUp leaf.size leaf.align * counts.prod, leaf.align⟩ := by
  rw [LayoutTable.describe, LayoutTable.extentOf_counted_iff hcounted]
  refine exists_congr fun counts => exists_congr fun leaf => ?_
  constructor
  · rintro ⟨⟨hlengths, hnonempty, hknown, hfits⟩, he⟩
    exact ⟨hlengths, hnonempty, hknown, hfits, he⟩
  · rintro ⟨hlengths, hnonempty, hknown, hfits, he⟩
    exact ⟨⟨hlengths, hnonempty, hknown, hfits⟩, he⟩

/-- the columns of a panorama, 2^28 - 1 vectors of three floats in rows of a named number -/
def panoramaType : TypeExpr := .array (.array (.named "vec3f") (.fixed 16383)) (.constant "ROWS")

/-- a panorama is the largest array of such vectors; one vector more would have 2^32 bytes -/
theorem panorama_describe_counted :
    ∃ table, LayoutTable.ofDecls (.ofList [("ROWS", 16385)]) [] = .ok table ∧ panoramaType.isCounted = true ∧
      table.describe panoramaType = .ok ⟨4294967280, 16⟩ ∧
      ∀ e, table.describe (.array (.array (.named "vec3f") (.fixed 16384)) (.fixed 16384)) ≠ .ok e := by
  refine ⟨⟨[], .ofList [("ROWS", 16385)]⟩, rfl, rfl, ?_, fun e he => ?_⟩
  · have hleaf : LayoutTable.namedExtent? ⟨[], .ofList [("ROWS", 16385)]⟩ "vec3f" = some ⟨12, 16⟩ := rfl
    exact (describe_counted _ rfl _).2 ⟨[16385, 16383], ⟨12, 16⟩, rfl, by decide, hleaf, by decide, rfl⟩
  · obtain ⟨counts, leaf, hlengths, -, hleaf, hfits, -⟩ := (describe_counted _ rfl _).1 he
    obtain rfl : [16384, 16384] = counts := Option.some.inj hlengths
    obtain rfl : ⟨12, 16⟩ = leaf := Option.some.inj hleaf
    exact absurd (hfits (by decide)) (by decide)

/-! ## Layers of texels -/

/-- a texel is four floats -/
def texelExtent : Extent := ⟨16, 16⟩

theorem namedExtent?_texel (table : LayoutTable) : table.namedExtent? "vec4f" = some texelExtent := rfl

/-- layers of texels in unbounded numbers -/
theorem arrays_texelExtent (count texels : Nat) : texelExtent.arrays [count, texels] = ⟨16 * count * texels, 16⟩ := by
  have hstride : texelExtent.stride = 16 := rfl
  rw [Extent.arrays_cons, Extent.stride_arrays, hstride, List.prod_singleton, Nat.mul_right_comm, texelExtent]

/-- the layer storage is layers of texels, with the texel count as it is clamped -/
theorem counts_layersType {table : LayoutTable} {count width height : Nat} {counts : List Nat} {leaf : Extent} :
    table.Counts (layersType count width height) counts leaf ↔
      counts = [count, Size.clamp (width * height)] ∧ leaf = texelExtent ∧ count ≠ 0 ∧
        Size.clamp (width * height) ≠ 0 ∧ 16 * count * Size.clamp (width * height) < Size.limit := by
  have hwhole : texelExtent.stride * [count, Size.clamp (width * height)].prod =
      16 * count * Size.clamp (width * height) := congrArg Extent.size (arrays_texelExtent _ _)
  constructor
  · intro h
    obtain rfl : [count, Size.clamp (width * height)] = counts := Option.some.inj h.lengths
    obtain rfl : texelExtent = leaf := Option.some.inj ((namedExtent?_texel table).symm.trans h.known)
    have hlimit := h.fits (List.cons_ne_nil _ _)
    rw [hwhole] at hlimit
    exact ⟨rfl, rfl, h.nonempty _ List.mem_cons_self, h.nonempty _ (List.mem_cons_of_mem _ List.mem_cons_self), hlimit⟩
  · rintro ⟨rfl, rfl, hcount, htexels, hlimit⟩
    refine ⟨rfl, ?_, namedExtent?_texel table, fun _ => ?_⟩
    · exact List.forall_mem_cons.2 ⟨hcount, List.forall_mem_singleton.2 htexels⟩
    · rwa [hwhole]

/-- **Layer storage has its exact size or none.** The texel count of a layer is clamped to the largest size. But a texel
has 16 bytes, so a count that was clamped does not fit, and no smaller size is ever taken for the true one. -/
theorem describe_layersType (table : LayoutTable) (count width height : Nat) (e : Extent) :
    table.describe (layersType count width height) = .ok e ↔
      count ≠ 0 ∧ width ≠ 0 ∧ height ≠ 0 ∧ 16 * count * width * height < Size.limit ∧
        e = ⟨16 * count * width * height, 16⟩ := by
  rw [LayoutTable.describe, LayoutTable.extentOf_counted_iff rfl, Nat.mul_assoc (16 * count)]
  constructor
  · rintro ⟨counts, leaf, hcounts, rfl⟩
    obtain ⟨rfl, rfl, hcount, htexels, hlimit⟩ := counts_layersType.1 hcounts
    have hexact := Size.clamp_eq_self_of_mul (by omega) hlimit
    rw [hexact] at htexels hlimit ⊢
    obtain ⟨hwidth, hheight⟩ := Nat.mul_ne_zero_iff.1 htexels
    exact ⟨hcount, hwidth, hheight, hlimit, arrays_texelExtent count (width * height)⟩
  · rintro ⟨hcount, hwidth, hheight, hlimit, rfl⟩
    have htexels : width * height ≤ 16 * count * (width * height) := Nat.le_mul_of_pos_left _ (by omega)
    have hexact := Size.clamp_eq_self (Nat.lt_of_le_of_lt htexels hlimit)
    refine ⟨_, _, counts_layersType.2 ⟨rfl, rfl, hcount, ?_, ?_⟩, ?_⟩
    · rw [hexact]
      exact Nat.mul_ne_zero hwidth hheight
    · rwa [hexact]
    · rw [hexact, arrays_texelExtent]

/-- one layer of 2^32 texels -/
example : LayoutTable.describe ⟨[], .empty⟩ (layersType 1 65536 65536) =
    .error (.typeTooLarge (.array (.named "vec4f") (.fixed 4294967295))) := rfl

end ShaderInterface
