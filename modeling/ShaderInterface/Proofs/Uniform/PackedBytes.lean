/-
What a packed buffer holds, byte for byte.

One write changes the bytes of one member and no others (`getElem?_overwrite`). Members share no byte, so values of
distinct names do not disturb each other, in whatever order they are written.

- `pack_succeeds_iff`, `slotFor_succeeds_iff`: packing succeeds exactly when each value has a place, that is, when it
  suits the member of its name.
- `carries_pack`: the packed buffer is as large as the struct, holds the last value of each name at the member of that
  name, and is zero elsewhere (`Carries`); nothing else is like it (`Carries.unique`).
- `holds_pack`: with distinct names it holds each value (`Holds`).
-/
import ShaderInterface.Proofs.Uniform.Stream

namespace ShaderInterface

open Outcome

/-! ## One write -/

section Overwrite

variable {buffer data : Bytes} {offset : Nat}

theorem length_overwrite (h : offset + data.length ≤ buffer.length) :
    (overwrite buffer offset data).length = buffer.length := by
  rw [overwrite, List.length_append, List.length_append, List.length_take, List.length_drop]
  omega

/-- **A write changes its own bytes only.** -/
theorem getElem?_overwrite (h : offset + data.length ≤ buffer.length) (i : Nat) :
    (overwrite buffer offset data)[i]? =
      if offset ≤ i ∧ i < offset + data.length then data[i - offset]? else buffer[i]? := by
  have htake : (buffer.take offset).length = offset := by
    rw [List.length_take]
    omega
  have hfront : (buffer.take offset ++ data).length = offset + data.length := by
    rw [List.length_append, htake]
  rw [overwrite]
  split
  · next hi =>
    rw [List.getElem?_append_left (by rw [hfront]; exact hi.2),
      List.getElem?_append_right (by rw [htake]; exact hi.1), htake]
  · next hi =>
    by_cases hlow : i < offset
    · rw [List.getElem?_append_left (by rw [hfront]; omega), List.getElem?_append_left (by rw [htake]; exact hlow),
        List.getElem?_take_of_lt hlow]
    · rw [List.getElem?_append_right (by rw [hfront]; omega), hfront, List.getElem?_drop]
      congr 1
      omega

/-- a part of the buffer, byte for byte -/
theorem slice_eq_of_getElem? {size : Nat} (hlength : data.length = size)
    (h : ∀ i < size, buffer[offset + i]? = data[i]?) : (buffer.drop offset).take size = data := by
  apply List.ext_getElem?
  intro i
  by_cases hi : i < size
  · rw [List.getElem?_take_of_lt hi, List.getElem?_drop, h i hi]
  · rw [List.getElem?_eq_none (by rw [List.length_take]; omega), List.getElem?_eq_none (by omega)]

end Overwrite

/-! ## The last value of a name -/

/-- the last value that a list has under a name -/
def lastValue? (values : List (String × UniformValue)) (name : String) : Option UniformValue :=
  values.reverse.lookup name

section LastValue

variable {values : List (String × UniformValue)} {name : String}

theorem lastValue?_snoc (v : String × UniformValue) :
    lastValue? (values ++ [v]) name = if name = v.1 then some v.2 else lastValue? values name := by
  rw [lastValue?, List.reverse_append, List.reverse_singleton, List.singleton_append]
  split
  · next heq =>
    subst heq
    exact List.lookup_cons_self
  · next hne => exact Table.lookup_cons_of_ne hne v.2 values.reverse

theorem mem_of_lastValue? {value : UniformValue} (h : lastValue? values name = some value) : (name, value) ∈ values := by
  obtain ⟨before, after, heq, -⟩ := List.lookup_eq_some_iff.1 h
  rw [← List.mem_reverse, heq]
  exact List.mem_append_right _ List.mem_cons_self

theorem exists_lastValue? {v : String × UniformValue} (hv : v ∈ values) : ∃ value, lastValue? values v.1 = some value := by
  cases hlast : lastValue? values v.1 with
  | some value => exact ⟨value, rfl⟩
  | none =>
    have hnone := List.lookup_eq_none_iff.1 hlast v (List.mem_reverse.2 hv)
    simp at hnone

/-- with distinct names every value is the last of its name -/
theorem lastValue?_of_mem (hn : (values.map Prod.fst).Nodup) {v : String × UniformValue} (hv : v ∈ values) :
    lastValue? values v.1 = some v.2 := by
  have hreverse : (values.reverse.map Prod.fst).Nodup := by rwa [List.map_reverse, List.nodup_reverse]
  exact Table.lookup_of_mem hreverse (List.mem_reverse.2 hv)

end LastValue

/-! ## What can be written -/

/-- the value has the scalar kind of the member's type, if that has one, and exactly the member's size -/
structure UniformValue.Suits (value : UniformValue) (p : Placement) : Prop where
  kind : ∀ kind, p.member.type.scalarKind? = some kind → kind = value.kind
  length : value.encode.length = p.size

namespace StructLayout

variable {layout : StructLayout} {written values : List (String × UniformValue)} {buffer bytes : Bytes}

/-- writing succeeds exactly when every value has a place, whatever the buffer is -/
theorem foldlM_write_succeeds_iff (buffer : Bytes) :
    (∃ bytes, values.foldlM layout.write buffer = .ok bytes) ↔ ∀ v ∈ values, ∃ p, layout.slotFor v.1 v.2 = .ok p := by
  induction values generalizing buffer with
  | nil => simp [pure, Except.pure]
  | cons v rest ih =>
    simp only [List.forall_mem_cons, foldlM_cons_eq_ok, write_eq_ok]
    constructor
    · rintro ⟨bytes, after, ⟨p, hp, rfl⟩, hrest⟩
      exact ⟨⟨p, hp⟩, (ih _).1 ⟨bytes, hrest⟩⟩
    · rintro ⟨⟨p, hp⟩, hrest⟩
      obtain ⟨bytes, hbytes⟩ := (ih (overwrite buffer p.offset v.2.encode)).2 hrest
      exact ⟨bytes, _, ⟨p, hp, rfl⟩, hbytes⟩

/-- **Packing succeeds exactly when each value has a place.** -/
theorem pack_succeeds_iff :
    (∃ bytes, layout.pack values = .ok bytes) ↔ ∀ v ∈ values, ∃ p, layout.slotFor v.1 v.2 = .ok p :=
  foldlM_write_succeeds_iff _

/-! ## Members without common bytes -/

/-- members lie inside the struct, apart from each other, and have even sizes -/
structure Placed (layout : StructLayout) : Prop where
  tiled : layout.Tiled
  even : ∀ p ∈ layout.placements, 2 ∣ p.size
  limit : layout.byteSize < Size.limit

theorem placed_of_computed {decls : List StructDecl} (h : LayoutTable.Computed decls layout) : layout.Placed := by
  refine ⟨(filled_of_computed h).tiled, even_size_of_computed h, ?_⟩
  obtain ⟨before, decl, -, -, hlay⟩ := h
  obtain ⟨block, members, -, -, hbuild⟩ := LayoutTable.layout_eq_ok.1 hlay
  obtain ⟨stop, -, hlimit, hsize, -⟩ := build_eq_ok.1 hbuild
  rwa [hsize]

/-- the layouts of a computed table place their members -/
theorem placed_of_ofDecls {constants : Table String Nat} {decls : List StructDecl} {table : LayoutTable}
    (h : LayoutTable.ofDecls constants decls = .ok table) {name : String} (hget : table.get? name = some layout) :
    layout.Placed :=
  placed_of_computed (LayoutTable.computed_of_mem h layout (LayoutTable.mem_of_get? hget).1)

theorem Tiled.disjoint (h : layout.Tiled) {p q : Placement} (hp : p ∈ layout.placements) (hq : q ∈ layout.placements)
    (hne : p ≠ q) : p.offset + p.size ≤ q.offset ∨ q.offset + q.size ≤ p.offset := by
  let Apart (p q : Placement) := p ≠ q → p.offset + p.size ≤ q.offset ∨ q.offset + q.size ≤ p.offset
  have hbefore : layout.placements.Pairwise Apart := h.apart.imp fun hpq _ => .inl hpq
  have hbehind : layout.placements.Pairwise (flip Apart) := h.apart.imp fun hpq _ => .inr hpq
  exact List.Pairwise.forall_of_forall_of_flip (fun _ _ hne => absurd rfl hne) hbefore hbehind hp hq hne

/-- the place of a value is a member of its name, and the value fills it -/
theorem slotFor_place (h : layout.Placed) {name : String} {value : UniformValue} {p : Placement}
    (hp : layout.slotFor name value = .ok p) :
    p ∈ layout.placements ∧ p.member.name = name ∧ value.encode.length = p.size := by
  obtain ⟨hfind, -, hlength⟩ := slotFor_eq_ok.1 hp
  have hmem := List.mem_of_find?_eq_some hfind
  refine ⟨hmem, by simpa using List.find?_some hfind, ?_⟩
  exact UniformValue.length_encode_of_byteLength hlength (h.even p hmem)

/-- the length that is checked, which stops at the largest size, is that of a member only if the value has it -/
theorem byteLength_eq_size_iff (h : layout.Placed) {p : Placement} (hmem : p ∈ layout.placements)
    {value : UniformValue} : value.byteLength = p.size ↔ value.encode.length = p.size := by
  constructor
  · intro hlength
    exact UniformValue.length_encode_of_byteLength hlength (h.even p hmem)
  · intro hlength
    have hlimit : value.encode.length < Size.limit := by
      have hinside := h.tiled.inside p hmem
      have hsize := h.limit
      omega
    exact (UniformValue.byteLength_of_length_encode hlimit).trans hlength

/-- **What has a place** is a value that suits the member of its name. -/
theorem slotFor_succeeds_iff (h : layout.Placed) {name : String} {value : UniformValue} {p : Placement}
    (hp : layout.find? name = some p) : (∃ q, layout.slotFor name value = .ok q) ↔ value.Suits p := by
  simp only [slotFor_eq_ok, hp, Option.some.injEq, exists_eq_left',
    byteLength_eq_size_iff h (List.mem_of_find?_eq_some hp)]
  exact ⟨fun ⟨hkind, hlength⟩ => ⟨hkind, hlength⟩, fun ⟨hkind, hlength⟩ => ⟨hkind, hlength⟩⟩

/-- a value fits into a buffer of the struct's size, at its place -/
theorem encode_inside (h : layout.Placed) (hbuffer : buffer.length = layout.byteSize) {name : String}
    {value : UniformValue} {p : Placement} (hp : layout.slotFor name value = .ok p) :
    p.offset + value.encode.length ≤ buffer.length := by
  obtain ⟨hmem, -, hlength⟩ := slotFor_place h hp
  rw [hlength, hbuffer]
  exact h.tiled.inside p hmem

/-! ## What a buffer holds -/

/-- the buffer has the size of the struct, holds the last value of each name at the member of that name, and is zero
outside these members -/
structure Carries (layout : StructLayout) (written : List (String × UniformValue)) (buffer : Bytes) : Prop where
  length : buffer.length = layout.byteSize
  value : ∀ name value p, lastValue? written name = some value → layout.find? name = some p →
    ∀ i < p.size, buffer[p.offset + i]? = value.encode[i]?
  zero : ∀ i < layout.byteSize, (∀ v ∈ written, ∀ p, layout.find? v.1 = some p → i < p.offset ∨ p.offset + p.size ≤ i) →
    buffer[i]? = some 0

theorem carries_zeros (layout : StructLayout) : layout.Carries [] (List.replicate layout.byteSize 0) := by
  refine ⟨List.length_replicate, fun name value p hlast => by simp [lastValue?] at hlast, ?_⟩
  intro i hi _
  rw [List.getElem?_replicate, if_pos hi]

/-- **One more value** takes the place of the one under its name and leaves all others. -/
theorem carries_write (hplaced : layout.Placed) (h : layout.Carries written buffer) {v : String × UniformValue}
    {after : Bytes} (hwrite : layout.write buffer v = .ok after) : layout.Carries (written ++ [v]) after := by
  obtain ⟨p, hp, rfl⟩ := write_eq_ok.1 hwrite
  obtain ⟨hmem, hname, hlength⟩ := slotFor_place hplaced hp
  have hfind := (slotFor_eq_ok.1 hp).1
  have hinside := encode_inside hplaced h.length hp
  refine ⟨(length_overwrite hinside).trans h.length, ?_, ?_⟩
  · intro name value q hlast hq i hi
    rw [getElem?_overwrite hinside, hlength]
    rw [lastValue?_snoc] at hlast
    split at hlast
    · next heq =>
      subst heq
      obtain rfl := Option.some.inj hlast
      obtain rfl := Option.some.inj (hfind.symm.trans hq)
      rw [if_pos ⟨Nat.le_add_right _ _, by omega⟩, Nat.add_sub_cancel_left]
    · next hother =>
      -- a value of another name is at another member, which shares no byte with this one
      have hqname : q.member.name = name := by simpa using List.find?_some hq
      have hne : p ≠ q := by
        rintro rfl
        exact hother (hqname.symm.trans hname)
      have hapart := hplaced.tiled.disjoint hmem (List.mem_of_find?_eq_some hq) hne
      rw [if_neg (by omega)]
      exact h.value name value q hlast hq i hi
  · intro i hi hout
    obtain ⟨hold, hnew⟩ := List.forall_mem_append.1 hout
    have hthis := hnew v List.mem_cons_self p hfind
    rw [getElem?_overwrite hinside, hlength, if_neg (by omega)]
    exact h.zero i hi hold

/-- more values join those that the buffer holds -/
theorem carries_writes (hplaced : layout.Placed) (h : layout.Carries written buffer)
    (hwrites : values.foldlM layout.write buffer = .ok bytes) : layout.Carries (written ++ values) bytes := by
  induction values generalizing written buffer with
  | nil =>
    rw [foldlM_nil_eq_ok] at hwrites
    rwa [List.append_nil, ← hwrites]
  | cons v rest ih =>
    obtain ⟨after, hwrite, hrest⟩ := foldlM_cons_eq_ok.1 hwrites
    have hlater : written ++ v :: rest = written ++ [v] ++ rest := by simp
    rw [hlater]
    exact ih (carries_write hplaced h hwrite) hrest

/-- **A packed buffer holds the last value of each name**, and zeros. -/
theorem carries_pack (hplaced : layout.Placed) (h : layout.pack values = .ok bytes) : layout.Carries values bytes :=
  carries_writes hplaced (carries_zeros layout) h

/-- **A packed buffer is as large as the struct**, whatever the values are called. -/
theorem length_pack (hplaced : layout.Placed) (h : layout.pack values = .ok bytes) :
    bytes.length = layout.byteSize :=
  (carries_pack hplaced h).length

/-- **The last values determine the buffer**, wherever in the lists they stand. -/
theorem Carries.unique {written' : List (String × UniformValue)} {buffer' : Bytes} (h : layout.Carries written buffer)
    (h' : layout.Carries written' buffer') (hlast : ∀ name, lastValue? written name = lastValue? written' name) :
    buffer = buffer' := by
  apply List.ext_getElem?
  intro i
  by_cases hi : i < layout.byteSize
  · by_cases hcovered : ∃ v ∈ written, ∃ p, layout.find? v.1 = some p ∧ p.offset ≤ i ∧ i < p.offset + p.size
    · obtain ⟨v, hv, p, hp, hlow, hhigh⟩ := hcovered
      obtain ⟨value, hvalue⟩ := exists_lastValue? hv
      have hbyte := h.value v.1 value p hvalue hp (i - p.offset) (by omega)
      have hbyte' := h'.value v.1 value p ((hlast v.1).symm.trans hvalue) hp (i - p.offset) (by omega)
      rw [Nat.add_sub_cancel' hlow] at hbyte hbyte'
      rw [hbyte, hbyte']
    · have hout : ∀ v ∈ written, ∀ p, layout.find? v.1 = some p → i < p.offset ∨ p.offset + p.size ≤ i := by
        intro v hv p hp
        by_contra hin
        exact hcovered ⟨v, hv, p, hp, by omega, by omega⟩
      have hout' : ∀ v ∈ written', ∀ p, layout.find? v.1 = some p → i < p.offset ∨ p.offset + p.size ≤ i := by
        intro v hv p hp
        obtain ⟨value, hvalue⟩ := exists_lastValue? hv
        exact hout (v.1, value) (mem_of_lastValue? ((hlast v.1).trans hvalue)) p hp
      rw [h.zero i hi hout, h'.zero i hi hout']
  · have hlength := h.length
    have hlength' := h'.length
    rw [List.getElem?_eq_none (by omega), List.getElem?_eq_none (by omega)]

/-! ## Distinct names -/

/-- the buffer has the size of the struct, holds the written values at their members, and is zero outside the members -/
structure Holds (layout : StructLayout) (written : List (String × UniformValue)) (buffer : Bytes) : Prop where
  length : buffer.length = layout.byteSize
  value : ∀ v ∈ written, ∀ p, layout.slotFor v.1 v.2 = .ok p → ∀ i < p.size, buffer[p.offset + i]? = v.2.encode[i]?
  zero : ∀ i < layout.byteSize, (∀ p ∈ layout.placements, i < p.offset ∨ p.offset + p.size ≤ i) → buffer[i]? = some 0

/-- **A packed buffer holds its values and zeros**, if the values have distinct names. -/
theorem holds_pack (hplaced : layout.Placed) (hn : (values.map Prod.fst).Nodup) (h : layout.pack values = .ok bytes) :
    layout.Holds values bytes := by
  have hcarries := carries_pack hplaced h
  refine ⟨hcarries.length, ?_, ?_⟩
  · intro v hv p hp
    exact hcarries.value v.1 v.2 p (lastValue?_of_mem hn hv) (slotFor_eq_ok.1 hp).1
  · intro i hi hout
    exact hcarries.zero i hi fun v _ p hp => hout p (List.mem_of_find?_eq_some hp)

/-- the bytes of a member are those of its value -/
theorem Holds.slice (hplaced : layout.Placed) (h : layout.Holds written buffer) {v : String × UniformValue}
    (hv : v ∈ written) {p : Placement} (hp : layout.slotFor v.1 v.2 = .ok p) :
    (buffer.drop p.offset).take p.size = v.2.encode :=
  slice_eq_of_getElem? (slotFor_place hplaced hp).2.2 (h.value v hv p hp)

end StructLayout
end ShaderInterface
