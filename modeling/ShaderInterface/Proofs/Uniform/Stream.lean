/-
Two packers write the same bytes. `StructLayout.pack` writes each value at the offset of its member into a buffer of
zeros. `streamed` appends the values one after the other, each with its padding behind it, and knows nothing of the
layout but the map of paddings.

- `slotFor_eq_ok`: where a value goes, and what is checked of it.
- `foldlM_write_fills`: writing the values of neighbouring members, in order, extends the part of the buffer that is
  final and leaves zeros behind it.
- `pack_eq_streamed`: with proper names and one value for each member, in order, the two packers agree.
-/
import ShaderInterface.Proofs.Keyed
import ShaderInterface.Proofs.Layout.Tiling
import ShaderInterface.Proofs.Uniform.Encoding
import ShaderInterface.Uniform.Packing

namespace ShaderInterface

open Outcome

/-- so many words of padding -/
def paddingBytes (words : Nat) : Bytes := List.replicate (4 * words) 0

/-- what a packer writes that appends each value with its padding, and the padding at the end of the struct -/
def streamed (paddingAfter : String → Nat) (values : List (String × UniformValue)) : Bytes :=
  values.flatMap (fun v => v.2.encode ++ paddingBytes (paddingAfter v.1)) ++ paddingBytes (paddingAfter "")

/-! ## Writing into zeros -/

/-- data written behind a final part takes the place of as many zeros -/
theorem overwrite_zeros (final data : Bytes) (zeros : Nat) :
    overwrite (final ++ List.replicate zeros 0) final.length data =
      (final ++ data) ++ List.replicate (zeros - data.length) 0 := by
  rw [overwrite, List.take_left, List.drop_append, List.drop_replicate, Nat.add_sub_cancel_left,
    List.drop_eq_nil_of_le (Nat.le_add_right _ _), List.nil_append]

theorem replicate_zeros_split {words zeros : Nat} (h : 4 * words ≤ zeros) :
    List.replicate zeros (0 : UInt8) = paddingBytes words ++ List.replicate (zeros - 4 * words) 0 := by
  rw [paddingBytes, ← List.replicate_add, Nat.add_sub_cancel' h]

namespace StructLayout

variable {layout : StructLayout}

/-! ## The place of a value -/

/-- the check of the kind fails for a member of another kind, and never for one whose type has none -/
theorem any_kind_ne_iff {kind? : Option ScalarKind} {found : ScalarKind} :
    kind?.any (· ≠ found) = true ↔ ¬ ∀ kind, kind? = some kind → kind = found := by
  cases kind? with
  | none => simp
  | some kind => simp

/-- a value goes to the first member of its name, if it has the member's kind and size -/
theorem slotFor_eq_ok {name : String} {value : UniformValue} {p : Placement} :
    layout.slotFor name value = .ok p ↔
      layout.find? name = some p ∧ (∀ kind, p.member.type.scalarKind? = some kind → kind = value.kind) ∧
        value.byteLength = p.size := by
  rw [slotFor]
  cases hfind : layout.find? name with
  | none => simp
  | some q =>
    simp only [any_kind_ne_iff, Option.some.injEq]
    split
    · next hk =>
      simp only [reduceCtorEq, false_iff]
      rintro ⟨rfl, hk', -⟩
      exact hk hk'
    · next hk =>
      split
      · next hlen =>
        simp only [reduceCtorEq, false_iff]
        rintro ⟨rfl, -, hlen'⟩
        exact hlen hlen'
      · next hlen =>
        simp only [Except.ok.injEq]
        constructor
        · rintro rfl
          exact ⟨rfl, Decidable.not_not.1 hk, Decidable.not_not.1 hlen⟩
        · exact fun h => h.1

theorem write_eq_ok {buffer after : Bytes} {entry : String × UniformValue} :
    layout.write buffer entry = .ok after ↔
      ∃ p, layout.slotFor entry.1 entry.2 = .ok p ∧ after = overwrite buffer p.offset entry.2.encode := by
  simp only [write, bind_eq_ok, Except.ok.injEq, eq_comm (a := after)]

/-- writing fails where the value has no place -/
theorem write_eq_error {buffer : Bytes} {entry : String × UniformValue} {e : Error} :
    layout.write buffer entry = .error e ↔ layout.slotFor entry.1 entry.2 = .error e := by
  simp [write, bind_eq_error]

/-- with distinct names every member is the first of its name -/
theorem find?_of_mem (hn : layout.names.Nodup) {p : Placement} (hp : p ∈ layout.placements) :
    layout.find? p.member.name = some p :=
  find?_of_nodup_map hn hp

theorem even_size_of_computed {decls : List StructDecl} (h : LayoutTable.Computed decls layout) :
    ∀ p ∈ layout.placements, 2 ∣ p.size := by
  obtain ⟨before, decl, hreg, -, hlay⟩ := h
  obtain ⟨block, members, -, hmembers, hbuild⟩ := LayoutTable.layout_eq_ok.1 hlay
  obtain ⟨stop, hplace, -⟩ := build_eq_ok.1 hbuild
  intro p hp
  have hmem : (p.member, p.size) ∈ members.map fun m => (m.1, m.2.size) := by
    rw [← place_members hplace]
    exact List.mem_map_of_mem hp
  obtain ⟨m, hm, heq⟩ := List.mem_map.1 hmem
  rw [← (Prod.mk.inj heq).2]
  exact (LayoutTable.memberExtents_regular hreg hmembers m hm).size

/-! ## The two packers -/

/-- **Values of neighbouring members extend the final part of the buffer.** The induction is on the members still to be
written; the final part ends where they start, and behind it there are zeros. -/
theorem foldlM_write_fills {rest : List Placement} {values : List (String × UniformValue)} {start stop zeros : Nat}
    {final bytes : Bytes} (hfills : Fills start rest stop)
    (hfind : ∀ p ∈ rest, layout.find? p.member.name = some p)
    (hpad : ∀ p ∈ rest, layout.paddingAfter p.member.name = p.padding) (heven : ∀ p ∈ rest, 2 ∣ p.size)
    (hnames : values.map Prod.fst = rest.map (·.member.name)) (hfinal : final.length = start)
    (hzeros : stop ≤ start + zeros) (h : values.foldlM layout.write (final ++ List.replicate zeros 0) = .ok bytes) :
    bytes = final ++ values.flatMap (fun v => v.2.encode ++ paddingBytes (layout.paddingAfter v.1)) ++
      List.replicate (start + zeros - stop) 0 := by
  induction rest generalizing values start zeros final with
  | nil =>
    obtain rfl : values = [] := by simpa using hnames
    have hstop : start = stop := hfills
    rw [foldlM_nil_eq_ok] at h
    rw [← h, ← hstop, Nat.add_sub_cancel_left]
    simp
  | cons p rest ih =>
    obtain ⟨v, values, rfl⟩ : ∃ v vs, values = v :: vs := by
      cases values with
      | nil => simp at hnames
      | cons v vs => exact ⟨v, vs, rfl⟩
    obtain ⟨hname, hnames⟩ : v.1 = p.member.name ∧ values.map Prod.fst = rest.map (·.member.name) := by
      simpa using hnames
    obtain ⟨buffer, hwrite, h⟩ := foldlM_cons_eq_ok.1 h
    obtain ⟨q, hslot, rfl⟩ := write_eq_ok.1 hwrite
    obtain ⟨hq, -, hlen⟩ := slotFor_eq_ok.1 hslot
    obtain rfl : p = q := by
      rw [hname, hfind p List.mem_cons_self, Option.some.injEq] at hq
      exact hq
    have hdata := UniformValue.length_encode_of_byteLength hlen (heven p List.mem_cons_self)
    have hpadding : layout.paddingAfter v.1 = p.padding := by rw [hname, hpad p List.mem_cons_self]
    have hstart := hfills.1
    have hstop := hfills.2.2.le
    -- the value and its padding join the final part
    have hsplit : List.replicate (zeros - p.size) (0 : UInt8) =
        paddingBytes p.padding ++ List.replicate (zeros - p.size - 4 * p.padding) 0 :=
      replicate_zeros_split (by omega)
    have hbuffer : overwrite (final ++ List.replicate zeros 0) p.offset v.2.encode =
        (final ++ v.2.encode ++ paddingBytes p.padding) ++ List.replicate (zeros - p.size - 4 * p.padding) 0 := by
      rw [hstart, ← hfinal, overwrite_zeros, hdata, hsplit, ← List.append_assoc]
    have hlength : (final ++ v.2.encode ++ paddingBytes p.padding).length = p.offset + p.size + 4 * p.padding := by
      simp only [List.length_append, hdata, paddingBytes, List.length_replicate, hfinal, hstart]
    rw [hbuffer] at h
    have hbytes := ih hfills.2.2 (List.forall_mem_cons.1 hfind).2 (List.forall_mem_cons.1 hpad).2
      (List.forall_mem_cons.1 heven).2 hnames hlength (by omega) h
    have hcount : p.offset + p.size + 4 * p.padding + (zeros - p.size - 4 * p.padding) - stop =
        start + zeros - stop := by
      omega
    rw [hbytes, List.flatMap_cons, hpadding, hcount]
    simp only [List.append_assoc]

end StructLayout

/-- **The two packers agree.** Where a value for each member, in order, can be packed, the bytes are the stream that the
paddings alone prescribe. -/
theorem pack_eq_streamed {constants : Table String Nat} {decls : List StructDecl} {table : LayoutTable}
    (h : LayoutTable.ofDecls constants decls = .ok table) {layout : StructLayout} (hl : layout ∈ table.layouts)
    (hn : layout.ProperNames) {values : List (String × UniformValue)} (hv : values.map Prod.fst = layout.names)
    {bytes : Bytes} (hp : layout.pack values = .ok bytes) : bytes = streamed layout.paddingAfter values := by
  have hcomputed := LayoutTable.computed_of_mem h layout hl
  obtain ⟨stop, hfills, hsize⟩ := StructLayout.filled_of_computed hcomputed
  have hp : values.foldlM layout.write ([] ++ List.replicate layout.byteSize 0) = .ok bytes := hp
  have hbytes := StructLayout.foldlM_write_fills hfills (fun p hp => StructLayout.find?_of_mem hn.nodup hp)
    (fun p hp => StructLayout.paddingAfter_member hn hp) (StructLayout.even_size_of_computed hcomputed) hv rfl
    (by omega) hp
  have htail : 0 + layout.byteSize - stop = 4 * layout.tail := by omega
  rw [hbytes, htail, List.nil_append, streamed, StructLayout.paddingAfter_tail hn, paddingBytes]

/-- a value for each member of the scene; the lights are three times a power and a direction -/
def sceneValues : List (String × UniformValue) :=
  [("time", .f32 [0x40200000]), ("lights", .f32 [1, 2, 3, 4, 5, 6, 7, 8, 9, 10, 11, 12]),
    ("shade", .f16 [0x3c00, 0xc000]), ("view", .f32 [1, 2, 3, 0, 4, 5, 6, 0, 7, 8, 9, 0]),
    ("screen", .f32 [0x44200000, 0x43f00000])]

theorem sceneLayout_pack_eq_streamed :
    ∃ bytes, sceneLayout.pack sceneValues = .ok bytes ∧ bytes = streamed sceneLayout.paddingAfter sceneValues ∧
      bytes.length = 144 ∧
      bytes.take 20 = [0, 0, 0x20, 0x40, 0, 0, 0, 0, 0, 0, 0, 0, 0, 0, 0, 0, 1, 0, 0, 0] ∧
      (bytes.drop 64).take 20 = [0, 0x3c, 0, 0xc0, 0, 0, 0, 0, 0, 0, 0, 0, 0, 0, 0, 0, 1, 0, 0, 0] ∧
      bytes.drop 124 = [0, 0, 0, 0, 0, 0, 0x20, 0x44, 0, 0, 0xf0, 0x43, 0, 0, 0, 0, 0, 0, 0, 0] := by
  obtain ⟨bytes, hpack⟩ : ∃ bytes, sceneLayout.pack sceneValues = .ok bytes := ⟨_, rfl⟩
  have hstream := pack_eq_streamed ofDecls_scene (List.mem_cons_of_mem _ List.mem_cons_self) sceneLayout_properNames
    rfl hpack
  refine ⟨bytes, hpack, hstream, ?_⟩
  rw [hstream]
  decide +kernel

end ShaderInterface
