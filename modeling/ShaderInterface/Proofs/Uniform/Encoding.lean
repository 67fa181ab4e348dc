/-
The length of an encoded value.

`byteLength` stops at the largest 32-bit number, so a value of that length or more would pass for one of exactly that
length. The largest 32-bit number is odd and the size of every type is even: a value whose length is even is encoded in
exactly as many bytes (`length_encode_of_byteLength`).
-/
import ShaderInterface.Proofs.Size
import ShaderInterface.Uniform.Value

namespace ShaderInterface

theorem length_littleEndian (width n : Nat) : (littleEndian width n).length = width := by
  induction width generalizing n with
  | zero => rfl
  | succ width ih => rw [littleEndian, List.length_cons, ih]

namespace UniformValue

theorem length_encode (value : UniformValue) : value.encode.length = value.words.length * value.kind.bytes := by
  have h : value.words.map (fun n => (littleEndian value.kind.bytes n).length) =
      List.replicate value.words.length value.kind.bytes := by
    rw [List.eq_replicate_iff, List.length_map]
    refine ⟨rfl, ?_⟩
    intro b hb
    obtain ⟨n, -, rfl⟩ := List.mem_map.1 hb
    exact length_littleEndian _ n
  rw [encode, List.length_flatMap, h, List.sum_replicate_nat]

theorem length_encode_of_byteLength {value : UniformValue} {size : Nat} (h : value.byteLength = size)
    (heven : 2 ∣ size) : value.encode.length = size := by
  rw [length_encode]
  simp only [byteLength, Size.clamp, Size.limit] at h
  omega

/-- a length that is a size is not clamped -/
theorem byteLength_of_length_encode {value : UniformValue} (h : value.encode.length < Size.limit) :
    value.byteLength = value.encode.length := by
  rw [length_encode] at h ⊢
  rw [byteLength, Size.clamp]
  omega

end UniformValue
end ShaderInterface
