/-
Reading values back from a packed buffer.

A buffer holds no kinds and no lengths: both come from the layout. The type of a member gives the scalar kind, and so the
width of a scalar; the size of the member gives their number. A value that was packed has just that kind and that size,
and every scalar fills its width, so its bits are all there, those of a NaN as well.

- `UniformValue.decode_encode`: a value is read back from its bytes and its kind.
- `StructLayout.unpack`: the values of a buffer, one for each member whose type has a kind.
- `unpack_packed`: what was packed, with one value for each member in any order, is what is unpacked.
-/
import Mathlib.Algebra.Group.Nat.Defs
import ShaderInterface.Proofs.Uniform.ExactPacking

namespace ShaderInterface

/-! ## Scalars -/

/-- the number that bytes spell, the lowest first -/
def fromLittleEndian : Bytes → Nat
  | [] => 0
  | byte :: rest => byte.toNat + 256 * fromLittleEndian rest

theorem fromLittleEndian_littleEndian {width n : Nat} (h : n < 256 ^ width) :
    fromLittleEndian (littleEndian width n) = n := by
  induction width generalizing n with
  | zero => simpa [fromLittleEndian, littleEndian, eq_comm] using h
  | succ width ih =>
    have hrest : n / 256 < 256 ^ width := by
      rw [Nat.pow_succ] at h
      exact Nat.div_lt_of_lt_mul (by omega)
    rw [littleEndian, fromLittleEndian, ih hrest, UInt8.toNat_ofNat']
    exact Nat.mod_add_div n 256

/-- so many numbers of this many bytes each, from the front -/
def readWords (width : Nat) : (count : Nat) → Bytes → List Nat
  | 0, _ => []
  | count + 1, bytes => fromLittleEndian (bytes.take width) :: readWords width count (bytes.drop width)

theorem readWords_flatMap {width : Nat} {words : List Nat} (h : ∀ n ∈ words, n < 256 ^ width) :
    readWords width words.length (words.flatMap (littleEndian width)) = words := by
  induction words with
  | nil => rfl
  | cons n rest ih =>
    obtain ⟨hn, hrest⟩ := List.forall_mem_cons.1 h
    have hlength := length_littleEndian width n
    rw [List.flatMap_cons, List.length_cons, readWords, List.take_left' hlength, List.drop_left' hlength,
      fromLittleEndian_littleEndian hn, ih hrest]

theorem ScalarKind.bytes_pos (kind : ScalarKind) : 0 < kind.bytes := by
  cases kind <;> decide

/-! ## Values -/

namespace UniformValue

/-- the value of that kind whose scalars have these bits -/
def ofWords (kind : ScalarKind) (words : List Nat) : UniformValue :=
  match kind with
  | .f32 => .f32 (words.map UInt32.ofNat)
  | .i32 => .i32 (words.map fun n => (UInt32.ofNat n).toInt32)
  | .u32 => .u32 (words.map UInt32.ofNat)
  | .f16 => .f16 (words.map UInt16.ofNat)
  | .bool => .bool (words.map (· ≠ 0))

/-- the value of that kind that these bytes are -/
def decode (kind : ScalarKind) (bytes : Bytes) : UniformValue :=
  ofWords kind (readWords kind.bytes (bytes.length / kind.bytes) bytes)

theorem ofWords_words (value : UniformValue) : ofWords value.kind value.words = value := by
  cases value with
  | f32 patterns => exact congrArg f32 (Function.LeftInverse.list_map (fun _ => UInt32.ofNat_toNat) patterns)
  | i32 values =>
    have hword : Function.LeftInverse (fun n => (UInt32.ofNat n).toInt32) (fun x : Int32 => x.toUInt32.toNat) :=
      fun _ => congrArg UInt32.toInt32 UInt32.ofNat_toNat
    exact congrArg i32 (hword.list_map values)
  | u32 values => exact congrArg u32 (Function.LeftInverse.list_map (fun _ => UInt32.ofNat_toNat) values)
  | f16 patterns => exact congrArg f16 (Function.LeftInverse.list_map (fun _ => UInt16.ofNat_toNat) patterns)
  | bool values =>
    have hword : Function.LeftInverse (fun n => decide (n ≠ 0)) Bool.toNat := by
      intro b
      cases b <;> rfl
    exact congrArg bool (hword.list_map values)

/-- every scalar fits the width of its kind -/
theorem words_lt (value : UniformValue) : ∀ n ∈ value.words, n < 256 ^ value.kind.bytes := by
  cases value with
  | f32 patterns => exact List.forall_mem_map.2 fun x _ => x.toNat_lt
  | i32 values => exact List.forall_mem_map.2 fun x _ => x.toUInt32.toNat_lt
  | u32 values => exact List.forall_mem_map.2 fun x _ => x.toNat_lt
  | f16 patterns => exact List.forall_mem_map.2 fun x _ => x.toNat_lt
  | bool values =>
    have hword : ∀ b : Bool, b.toNat < 256 ^ ScalarKind.bool.bytes := by decide
    exact List.forall_mem_map.2 fun b _ => hword b

/-- **A value is read back from its bytes and its kind.** -/
theorem decode_encode (value : UniformValue) : decode value.kind value.encode = value := by
  rw [decode, length_encode, Nat.mul_div_cancel _ value.kind.bytes_pos, encode, readWords_flatMap value.words_lt,
    ofWords_words]

end UniformValue

/-! ## Whole buffers -/

namespace StructLayout

/-- the values in a buffer, one for each member whose type has a scalar kind -/
def unpack (layout : StructLayout) (bytes : Bytes) : List (String × UniformValue) :=
  layout.placements.filterMap fun p =>
    p.member.type.scalarKind?.map fun kind => (p.member.name, .decode kind ((bytes.drop p.offset).take p.size))

variable {layout : StructLayout} {values : List (String × UniformValue)} {bytes : Bytes}

theorem map_fst_unpack (hkinds : ∀ p ∈ layout.placements, ∃ kind, p.member.type.scalarKind? = some kind) (bytes : Bytes) :
    (layout.unpack bytes).map Prod.fst = layout.names := by
  rw [unpack, names]
  generalize layout.placements = placements at hkinds
  induction placements with
  | nil => rfl
  | cons p rest ih =>
    obtain ⟨⟨kind, hkind⟩, hrest⟩ := List.forall_mem_cons.1 hkinds
    rw [List.filterMap_cons, hkind, Option.map_some, List.map_cons, List.map_cons, ih hrest]

/-- **The bytes at a member are read back** as the value that was packed there. -/
theorem decode_packed (hplaced : layout.Placed) (hnames : (values.map Prod.fst).Nodup)
    (h : layout.pack values = .ok bytes) {v : String × UniformValue} (hv : v ∈ values) {p : Placement}
    (hp : layout.find? v.1 = some p) {kind : ScalarKind} (hkind : p.member.type.scalarKind? = some kind) :
    .decode kind ((bytes.drop p.offset).take p.size) = v.2 := by
  have hexact := packsExactly hplaced values
  obtain ⟨q, hq, hsuits⟩ := hexact.succeeds.1 ⟨bytes, h⟩ v hv
  obtain rfl := Option.some.inj (hp.symm.trans hq)
  rw [hexact.value bytes h v.1 v.2 p (lastValue?_of_mem hnames hv) hp, hsuits.kind kind hkind,
    UniformValue.decode_encode]

/-- **What was packed is unpacked**: with one value for each member, exactly these values. -/
theorem unpack_pack (hplaced : layout.Placed) (hn : layout.names.Nodup)
    (hkinds : ∀ p ∈ layout.placements, ∃ kind, p.member.type.scalarKind? = some kind)
    (hnames : (values.map Prod.fst).Perm layout.names) (h : layout.pack values = .ok bytes) :
    (layout.unpack bytes).Perm values := by
  have hvalues : (values.map Prod.fst).Nodup := hnames.nodup_iff.2 hn
  have hunpack : (layout.unpack bytes).Nodup := .of_map Prod.fst (map_fst_unpack hkinds bytes ▸ hn)
  refine (List.perm_ext_iff_of_nodup hunpack (.of_map Prod.fst hvalues)).2 fun v => ?_
  rw [unpack, List.mem_filterMap]
  constructor
  · rintro ⟨p, hp, hread⟩
    obtain ⟨kind, hkind, rfl⟩ := Option.map_eq_some_iff.1 hread
    obtain ⟨v, hv, hname⟩ := List.mem_map.1 (hnames.mem_iff.2 (List.mem_map_of_mem (f := (·.member.name)) hp))
    have hfind : layout.find? v.1 = some p := hname ▸ find?_of_mem hn hp
    rw [decode_packed hplaced hvalues h hv hfind hkind, ← hname]
    exact hv
  · intro hv
    obtain ⟨p, hp, hname⟩ := List.mem_map.1 (hnames.mem_iff.1 (List.mem_map_of_mem (f := Prod.fst) hv))
    obtain ⟨kind, hkind⟩ := hkinds p hp
    have hfind : layout.find? v.1 = some p := hname ▸ find?_of_mem hn hp
    refine ⟨p, hp, ?_⟩
    rw [hkind, Option.map_some, decode_packed hplaced hvalues h hv hfind hkind, hname]

end StructLayout

/-- **Packed buffers can be decoded.** Take a struct of a computed table whose members have distinct names and types with
a scalar kind. From the bytes of any list that was packed, with one value for each member in any order, `unpack` reads
these values and no others, in the order of the members. So lists with the same bytes have the same values. -/
theorem unpack_packed {constants : Table String Nat} {decls : List StructDecl} {table : LayoutTable}
    (h : LayoutTable.ofDecls constants decls = .ok table) {layout : StructLayout} (hl : layout ∈ table.layouts)
    (hn : layout.names.Nodup)
    (hkinds : ∀ p ∈ layout.placements, ∃ kind, p.member.type.scalarKind? = some kind) :
    (∀ values bytes, (values.map Prod.fst).Perm layout.names → layout.pack values = .ok bytes →
      (layout.unpack bytes).map Prod.fst = layout.names ∧ (layout.unpack bytes).Perm values) ∧
      ∀ values values' bytes, (values.map Prod.fst).Perm layout.names → (values'.map Prod.fst).Perm layout.names →
        layout.pack values = .ok bytes → layout.pack values' = .ok bytes → values.Perm values' := by
  have hplaced := StructLayout.placed_of_computed (LayoutTable.computed_of_mem h layout hl)
  constructor
  · intro values bytes hnames hpack
    exact ⟨StructLayout.map_fst_unpack hkinds bytes, StructLayout.unpack_pack hplaced hn hkinds hnames hpack⟩
  · intro values values' bytes hnames hnames' hpack hpack'
    have hunpack := StructLayout.unpack_pack hplaced hn hkinds hnames hpack
    have hunpack' := StructLayout.unpack_pack hplaced hn hkinds hnames' hpack'
    exact hunpack.symm.trans hunpack'

/-! ## A color grade -/

/-- every scalar kind but one, and an array -/
def gradeDecls : List StructDecl :=
  [.ofMembers "Grade" [⟨"exposure", .named "f32"⟩, ⟨"curve", .array (.named "vec2h") (.constant "COUNT")⟩,
    ⟨"offset", .named "vec3i"⟩, ⟨"clamped", .named "bool"⟩]]

def gradeLayout : StructLayout :=
  ⟨"Grade", 16, [⟨⟨"exposure", .named "f32"⟩, 0, 4, 0, 0⟩,
    ⟨⟨"curve", .array (.named "vec2h") (.constant "COUNT")⟩, 4, 12, 4, 0⟩, ⟨⟨"offset", .named "vec3i"⟩, 16, 12, 16, 0⟩,
    ⟨⟨"clamped", .named "bool"⟩, 28, 4, 28, 0⟩], 32, 0⟩

/-- two of these are NaNs with a payload -/
def gradeValues : List (String × UniformValue) :=
  [("clamped", .bool [true]), ("offset", .i32 [-1, 0, 5]), ("exposure", .f32 [0x7fc00001]),
    ("curve", .f16 [0x3c00, 0x7e01, 0, 0x8000, 1, 2])]

theorem grade_unpack_packed :
    LayoutTable.ofDecls sceneConstants gradeDecls = .ok ⟨[gradeLayout], sceneConstants⟩ ∧ gradeLayout.names.Nodup ∧
      (∀ p ∈ gradeLayout.placements, ∃ kind, p.member.type.scalarKind? = some kind) ∧
      ∃ bytes, gradeLayout.pack gradeValues = .ok bytes ∧ (gradeLayout.unpack bytes).Perm gradeValues := by
  have h : LayoutTable.ofDecls sceneConstants gradeDecls = .ok ⟨[gradeLayout], sceneConstants⟩ := by decide +kernel
  have hn : gradeLayout.names.Nodup := by decide
  have hkinds : ∀ p ∈ gradeLayout.placements, ∃ kind, p.member.type.scalarKind? = some kind := by
    have hsome : ∀ p ∈ gradeLayout.placements, p.member.type.scalarKind?.isSome = true := by decide
    exact fun p hp => Option.isSome_iff_exists.1 (hsome p hp)
  have hnames : (gradeValues.map Prod.fst).Perm gradeLayout.names := by decide
  obtain ⟨bytes, hbytes⟩ : ∃ bytes, gradeLayout.pack gradeValues = .ok bytes := ⟨_, rfl⟩
  have hunpack := (unpack_packed h List.mem_cons_self hn hkinds).1 gradeValues bytes hnames hbytes
  exact ⟨h, hn, hkinds, bytes, hbytes, hunpack.2⟩

end ShaderInterface
