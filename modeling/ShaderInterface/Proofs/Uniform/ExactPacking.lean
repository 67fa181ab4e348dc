/-
What packing does with any list of named values, names repeated or missing.

Values are taken in the order of the list, and each is judged by itself: whether it is accepted depends on the layout and
not on what was written before. So packing fails at the first value that is refused, and otherwise the buffer holds, for
each name, the last value under it. A name stands for the first member that has it; a second member of the same name is
never written.

- `Accepts`, `Refuses`: what becomes of one value (`slotFor_eq_error_iff`).
- `pack_eq_error_iff`: packing fails with the error of the first refused value.
- `pack_exact`: when packing succeeds, with which error it fails, and every byte of the buffer; without repeated names the
  order of the values is of no account.
-/
import ShaderInterface.Proofs.Uniform.PackedBytes
import ShaderInterface.Source.StructDecl.Grammar

namespace ShaderInterface

open Outcome

namespace StructLayout

/-! ## One value -/

/-- there is a member of that name, and the value suits the first one -/
def Accepts (layout : StructLayout) (entry : String × UniformValue) : Prop :=
  ∃ p, layout.find? entry.1 = some p ∧ entry.2.Suits p

/-- why a value is refused: no member has its name, or the first that has it is of another kind, or of another size -/
inductive Refuses (layout : StructLayout) : String × UniformValue → Error → Prop where
  | name {name : String} {value : UniformValue} : layout.find? name = none →
      Refuses layout (name, value) (.unknownResource name)
  | kind {name : String} {value : UniformValue} {p : Placement} {kind : ScalarKind} : layout.find? name = some p →
      p.member.type.scalarKind? = some kind → kind ≠ value.kind →
      Refuses layout (name, value) (.uniformValueKind name p.member.type value.kind)
  | size {name : String} {value : UniformValue} {p : Placement} : layout.find? name = some p →
      (∀ kind, p.member.type.scalarKind? = some kind → kind = value.kind) → value.encode.length ≠ p.size →
      Refuses layout (name, value) (.uniformValueSize name p.size value.byteLength)

variable {layout : StructLayout} {values : List (String × UniformValue)} {bytes : Bytes} {e : Error}

theorem accepts_iff (hplaced : layout.Placed) {v : String × UniformValue} :
    (∃ p, layout.slotFor v.1 v.2 = .ok p) ↔ layout.Accepts v := by
  cases hfind : layout.find? v.1 with
  | none => simp [Accepts, slotFor_eq_ok, hfind]
  | some p => simp [Accepts, slotFor_succeeds_iff hplaced hfind, hfind]

/-- **A value is refused for one reason**, the first of the three that applies. -/
theorem slotFor_eq_error_iff (hplaced : layout.Placed) {name : String} {value : UniformValue} :
    layout.slotFor name value = .error e ↔ layout.Refuses (name, value) e := by
  constructor
  · intro h
    rw [slotFor] at h
    cases hfind : layout.find? name with
    | none =>
      rw [hfind] at h
      obtain rfl := Except.error.inj h
      exact .name hfind
    | some p =>
      have hsize : value.byteLength = p.size ↔ value.encode.length = p.size :=
        byteLength_eq_size_iff hplaced (List.mem_of_find?_eq_some hfind)
      simp only [hfind, any_kind_ne_iff] at h
      split at h
      · next hkind =>
        obtain rfl := Except.error.inj h
        obtain ⟨kind, hsome, hne⟩ : ∃ kind, p.member.type.scalarKind? = some kind ∧ kind ≠ value.kind := by
          simpa using hkind
        exact .kind hfind hsome hne
      · next hkind =>
        split at h
        · next hlength =>
          obtain rfl := Except.error.inj h
          exact .size hfind (Decidable.not_not.1 hkind) (mt hsize.2 hlength)
        · simp at h
  · intro h
    cases h with
    | name hfind => rw [slotFor, hfind]
    | kind hfind hsome hne => simp [slotFor, hfind, hsome, hne]
    | @size _ _ p hfind hkind hlength =>
      have hsize : value.byteLength = p.size ↔ value.encode.length = p.size :=
        byteLength_eq_size_iff hplaced (List.mem_of_find?_eq_some hfind)
      simp only [slotFor, hfind, any_kind_ne_iff]
      rw [if_neg (not_not_intro hkind), if_pos (mt hsize.1 hlength)]

/-! ## A list of values -/

/-- packing succeeds exactly if every value is accepted -/
theorem pack_succeeds_iff_accepts (hplaced : layout.Placed) :
    (∃ bytes, layout.pack values = .ok bytes) ↔ ∀ v ∈ values, layout.Accepts v := by
  rw [pack_succeeds_iff]
  exact forall₂_congr fun v _ => accepts_iff hplaced

/-- **Packing fails at the first value that is refused.** -/
theorem pack_eq_error_iff (hplaced : layout.Placed) :
    layout.pack values = .error e ↔
      ∃ front v back, values = front ++ v :: back ∧ (∀ u ∈ front, layout.Accepts u) ∧ layout.Refuses v e := by
  simp only [pack, foldlM_eq_error, write_eq_error, slotFor_eq_error_iff hplaced]
  constructor
  · rintro ⟨front, v, back, buffer, hvalues, hfront, hrefuses⟩
    exact ⟨front, v, back, hvalues, (pack_succeeds_iff_accepts hplaced).1 ⟨buffer, hfront⟩, hrefuses⟩
  · rintro ⟨front, v, back, hvalues, hfront, hrefuses⟩
    obtain ⟨buffer, hbuffer⟩ := (pack_succeeds_iff_accepts hplaced).2 hfront
    exact ⟨front, v, back, buffer, hvalues, hbuffer, hrefuses⟩

theorem lastValue?_perm {other : List (String × UniformValue)} (hn : (values.map Prod.fst).Nodup)
    (hperm : values.Perm other) (name : String) : lastValue? values name = lastValue? other name := by
  have hn' : (other.map Prod.fst).Nodup := (hperm.map Prod.fst).nodup_iff.1 hn
  apply Option.ext
  intro value
  constructor
  · intro hvalue
    exact lastValue?_of_mem hn' (hperm.mem_iff.1 (mem_of_lastValue? hvalue))
  · intro hvalue
    exact lastValue?_of_mem hn (hperm.mem_iff.2 (mem_of_lastValue? hvalue))

/-- **Values of distinct names may be packed in any order.** -/
theorem pack_perm (hplaced : layout.Placed) {other : List (String × UniformValue)} (hn : (values.map Prod.fst).Nodup)
    (hperm : values.Perm other) (h : layout.pack values = .ok bytes) : layout.pack other = .ok bytes := by
  have haccepts := (pack_succeeds_iff_accepts hplaced).1 ⟨bytes, h⟩
  obtain ⟨bytes', h'⟩ := (pack_succeeds_iff_accepts hplaced).2 fun v hv => haccepts v (hperm.mem_iff.2 hv)
  rw [h', (carries_pack hplaced h).unique (carries_pack hplaced h') (lastValue?_perm hn hperm)]

/-! ## All of it -/

/-- what becomes of a list of values: when they can be packed, which error comes where they cannot, and each byte of the
buffer where they can -/
structure PacksExactly (layout : StructLayout) (values : List (String × UniformValue)) : Prop where
  succeeds : (∃ bytes, layout.pack values = .ok bytes) ↔ ∀ v ∈ values, layout.Accepts v
  fails : ∀ e, layout.pack values = .error e ↔
    ∃ front v back, values = front ++ v :: back ∧ (∀ u ∈ front, layout.Accepts u) ∧ layout.Refuses v e
  /-- every write is inside the buffer -/
  inside : ∀ v ∈ values, ∀ p, layout.find? v.1 = some p → v.2.Suits p →
    p.offset + v.2.encode.length ≤ layout.byteSize
  length : ∀ bytes, layout.pack values = .ok bytes → bytes.length = layout.byteSize
  value : ∀ bytes, layout.pack values = .ok bytes → ∀ name value p, lastValue? values name = some value →
    layout.find? name = some p → (bytes.drop p.offset).take p.size = value.encode
  zero : ∀ bytes, layout.pack values = .ok bytes → ∀ i < layout.byteSize,
    (∀ v ∈ values, ∀ p, layout.find? v.1 = some p → i < p.offset ∨ p.offset + p.size ≤ i) → bytes[i]? = some 0
  order : (values.map Prod.fst).Nodup → ∀ other, values.Perm other → ∀ bytes, layout.pack values = .ok bytes →
    layout.pack other = .ok bytes

theorem packsExactly (hplaced : layout.Placed) (values : List (String × UniformValue)) : layout.PacksExactly values where
  succeeds := pack_succeeds_iff_accepts hplaced
  fails := fun _ => pack_eq_error_iff hplaced
  inside := by
    intro v _ p hp hsuits
    rw [hsuits.length]
    exact hplaced.tiled.inside p (List.mem_of_find?_eq_some hp)
  length := fun _ h => length_pack hplaced h
  value := by
    intro bytes h name value p hlast hp
    have haccepts := (pack_succeeds_iff_accepts hplaced).1 ⟨bytes, h⟩
    obtain ⟨q, hq, hsuits⟩ := haccepts (name, value) (mem_of_lastValue? hlast)
    obtain rfl := Option.some.inj (hp.symm.trans hq)
    exact slice_eq_of_getElem? hsuits.length ((carries_pack hplaced h).value name value p hlast hp)
  zero := fun _ h => (carries_pack hplaced h).zero
  order := fun hn _ hperm _ h => pack_perm hplaced hn hperm h

end StructLayout

/-- **Packing is exact.** For every struct of a computed table and every list of named values, packing succeeds exactly if
each value suits the first member of its name, and else fails with the error of the first value that does not. A packed
buffer has the size of the struct, the last value of each name at the first member of that name, and zeros elsewhere, and
values of distinct names give the same buffer in any order. -/
theorem pack_exact {constants : Table String Nat} {decls : List StructDecl} {table : LayoutTable}
    (h : LayoutTable.ofDecls constants decls = .ok table) {layout : StructLayout} (hl : layout ∈ table.layouts)
    (values : List (String × UniformValue)) : layout.PacksExactly values :=
  StructLayout.packsExactly (StructLayout.placed_of_computed (LayoutTable.computed_of_mem h layout hl)) values

/-! ## Two weights in one struct -/

/-- both weights have one name, so only the first can be written -/
def blendSource : String := "struct Blend \x7b weight: f32, weight: vec2f, tint: vec2h, on: bool \x7d"

def blendDecls : List StructDecl :=
  [.ofMembers "Blend" [⟨"weight", .named "f32"⟩, ⟨"weight", .named "vec2f"⟩, ⟨"tint", .named "vec2h"⟩,
    ⟨"on", .named "bool"⟩]]

def blendWeight : Placement := ⟨⟨"weight", .named "f32"⟩, 0, 4, 0, 1⟩

def blendLayout : StructLayout :=
  ⟨"Blend", 8, [blendWeight, ⟨⟨"weight", .named "vec2f"⟩, 8, 8, 8, 0⟩, ⟨⟨"tint", .named "vec2h"⟩, 16, 4, 16, 0⟩,
    ⟨⟨"on", .named "bool"⟩, 20, 4, 20, 0⟩], 32, 2⟩

/-- the weight is given twice, and the tint holds a NaN -/
def blendValues : List (String × UniformValue) :=
  [("on", .bool [true]), ("weight", .f32 [0x3f800000]), ("tint", .f16 [0x3c00, 0x7e01]), ("weight", .f32 [0x40000000])]

theorem blend_pack_exact :
    StructDecl.parseAll blendSource = .ok blendDecls ∧
      LayoutTable.ofDecls .empty blendDecls = .ok ⟨[blendLayout], .empty⟩ ∧
      (∃ bytes, blendLayout.pack blendValues = .ok bytes ∧ bytes.take 4 = [0, 0, 0, 64] ∧ bytes[8]? = some 0) ∧
      blendLayout.pack [("on", .bool [true]), ("weight", .f32 [1, 2]), ("depth", .f32 [1])] =
        .error (.uniformValueSize "weight" 4 8) ∧
      blendLayout.pack [("tint", .f32 [1]), ("weight", .f32 [1, 2])] =
        .error (.uniformValueKind "tint" (.named "vec2h") .f32) := by
  have hparse : StructDecl.parseAll blendSource = .ok blendDecls := by decide +kernel
  have h : LayoutTable.ofDecls .empty blendDecls = .ok ⟨[blendLayout], .empty⟩ := by decide +kernel
  have hexact := fun values => pack_exact h List.mem_cons_self values
  have hfind : blendLayout.find? "weight" = some blendWeight := rfl
  refine ⟨hparse, h, ?_, ?_, ?_⟩
  · obtain ⟨bytes, hbytes⟩ : ∃ bytes, blendLayout.pack blendValues = .ok bytes := ⟨_, rfl⟩
    have hweight := (hexact blendValues).value bytes hbytes "weight" (.f32 [0x40000000]) blendWeight rfl hfind
    have hgap := (hexact blendValues).zero bytes hbytes 8 (by decide) (by decide)
    exact ⟨bytes, hbytes, hweight, hgap⟩
  · refine ((hexact _).fails _).2 ⟨[("on", .bool [true])], ("weight", .f32 [1, 2]), [("depth", .f32 [1])], rfl, ?_, ?_⟩
    · refine List.forall_mem_singleton.2 ⟨⟨⟨"on", .named "bool"⟩, 20, 4, 20, 0⟩, rfl, ?_, rfl⟩
      intro kind hkind
      exact (Option.some.inj hkind).symm
    · refine .size hfind ?_ (by decide)
      intro kind hkind
      exact (Option.some.inj hkind).symm
  -- the value for the tint has the length of the tint, but not its kind
  · refine ((hexact _).fails _).2 ⟨[], ("tint", .f32 [1]), [("weight", .f32 [1, 2])], rfl, ?_, ?_⟩
    · exact List.forall_mem_nil _
    · exact .kind (p := ⟨⟨"tint", .named "vec2h"⟩, 16, 4, 16, 0⟩) rfl rfl (by decide)

end ShaderInterface
