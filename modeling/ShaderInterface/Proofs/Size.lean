/-
Laws of sizes. Rounding up answers the least multiple that is not below, and the checked operations answer exactly when
the result is a size, or a whole number of words.
-/
import ShaderInterface.Size

namespace ShaderInterface.Size

theorem roundUp_zero (n : Nat) : roundUp n 0 = n := if_pos rfl

theorem roundUp_of_pos (n : Nat) {align : Nat} (h : align ≠ 0) : roundUp n align = (n + align - 1) / align * align :=
  if_neg h

theorem le_roundUp (n align : Nat) : n ≤ roundUp n align := by
  by_cases h : align = 0
  · subst h
    exact Nat.le_of_eq (roundUp_zero n).symm
  · rw [roundUp_of_pos n h]
    have hdiv := Nat.div_add_mod (n + align - 1) align
    have hmod := Nat.mod_lt (n + align - 1) (Nat.pos_of_ne_zero h)
    rw [Nat.mul_comm align] at hdiv
    omega

theorem dvd_roundUp (n : Nat) {align : Nat} (h : align ≠ 0) : align ∣ roundUp n align := by
  rw [roundUp_of_pos n h]
  exact Nat.dvd_mul_left _ _

/-- rounding keeps every divisor that the alignment shares -/
theorem dvd_roundUp_of_dvd {d n align : Nat} (hn : d ∣ n) (ha : d ∣ align) : d ∣ roundUp n align := by
  by_cases h : align = 0
  · subst h
    rwa [roundUp_zero]
  · exact Nat.dvd_trans ha (dvd_roundUp n h)

/-- **Rounding up answers the least multiple** that is not below. -/
theorem roundUp_le {n align q : Nat} (hn : n ≤ q) (hq : align ≠ 0 → align ∣ q) : roundUp n align ≤ q := by
  by_cases h : align = 0
  · subst h
    rwa [roundUp_zero]
  · obtain ⟨k, rfl⟩ := hq h
    have hdiv : (n + align - 1) / align < k + 1 := by
      rw [Nat.div_lt_iff_lt_mul (Nat.pos_of_ne_zero h), Nat.add_mul, Nat.mul_comm k]
      omega
    rw [roundUp_of_pos n h, Nat.mul_comm align]
    exact Nat.mul_le_mul_right align (Nat.le_of_lt_succ hdiv)

/-- what is aligned already stays -/
theorem roundUp_eq_self {n align : Nat} (h : align ≠ 0 → align ∣ n) : roundUp n align = n :=
  Nat.le_antisymm (roundUp_le (Nat.le_refl n) h) (le_roundUp n align)

theorem roundUp_of_zero (align : Nat) : roundUp 0 align = 0 := roundUp_eq_self fun _ => Nat.dvd_zero align

/-- the distance to the rounded number is the least that aligns -/
theorem roundUp_eq_add_iff {n align gap : Nat} :
    roundUp n align = n + gap ↔
      (align ≠ 0 → align ∣ n + gap) ∧ ∀ bytes, (align ≠ 0 → align ∣ n + bytes) → gap ≤ bytes := by
  constructor
  · intro h
    refine ⟨fun hne => h ▸ dvd_roundUp n hne, fun bytes hbytes => ?_⟩
    have hleast := roundUp_le (Nat.le_add_right n bytes) hbytes
    omega
  · rintro ⟨hdvd, hleast⟩
    have hle := le_roundUp n align
    have hgap := hleast (roundUp n align - n) fun hne => by
      rw [Nat.add_sub_cancel' hle]
      exact dvd_roundUp n hne
    apply Nat.le_antisymm
    · exact roundUp_le (Nat.le_add_right n gap) hdvd
    · omega

/-- rounding to a finer alignment that hits a multiple of the coarser one rounds to both -/
theorem roundUp_eq_of_dvd {n align coarse : Nat} (halign : align ≠ 0 → align ∣ coarse) (hcoarse : coarse ≠ 0)
    (h : coarse ∣ roundUp n align) : roundUp n align = roundUp n coarse := by
  apply Nat.le_antisymm
  · exact roundUp_le (le_roundUp n coarse) fun hne => Nat.dvd_trans (halign hne) (dvd_roundUp n hcoarse)
  · exact roundUp_le (le_roundUp n align) fun _ => h

theorem fits?_eq_some {n m : Nat} : fits? n = some m ↔ n < limit ∧ n = m := by
  unfold fits?
  split
  · next h => simp [h]
  · next h => simp [h]

theorem words?_eq_some {bytes words : Nat} : words? bytes = some words ↔ bytes = 4 * words := by
  unfold words?
  split
  · simp only [Option.some.injEq]
    omega
  · simp only [reduceCtorEq, false_iff]
    omega

theorem clamp_eq_self {n : Nat} (h : n < limit) : clamp n = n := Nat.min_eq_left (Nat.le_pred_of_lt h)

theorem clamp_eq_last {n : Nat} (h : limit ≤ n) : clamp n = limit - 1 :=
  Nat.min_eq_right (Nat.le_trans (Nat.sub_le limit 1) h)

/-- a number that was clamped does not fit when it is taken at least twice -/
theorem clamp_eq_self_of_mul {n factor : Nat} (hfactor : 2 ≤ factor) (h : factor * clamp n < limit) : clamp n = n := by
  refine clamp_eq_self (Nat.lt_of_not_le fun hlarge => ?_)
  have hclamp : clamp n = limit - 1 := clamp_eq_last hlarge
  have htwice : 2 * clamp n ≤ factor * clamp n := Nat.mul_le_mul_right _ hfactor
  unfold limit at *
  omega

end ShaderInterface.Size
