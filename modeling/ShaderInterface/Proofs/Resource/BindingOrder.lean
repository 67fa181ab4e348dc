/-
The order in which resources are bound is that of a stable sort by kind: `inBindingOrder_eq_mergeSort`.

A list sorted by a key is the concatenation of its parts of one key, in the order of the keys
(`flatMap_filter_of_sorted`), and a stable sort keeps each part as it is (`filter_mergeSort`).
-/
import Mathlib.Data.List.Basic
import ShaderInterface.Resource.Registry

namespace ShaderInterface

/-- kinds compare by their place in the order of declaration -/
def ResourceKind.rank (kind : ResourceKind) : Nat := kind.ctorIdx

variable {α κ : Type}

/-- the order of elements by the rank of their keys -/
def byRank (rank : κ → Nat) (key : α → κ) (a b : α) : Bool := rank (key a) ≤ rank (key b)

variable {rank : κ → Nat} {key : α → κ}

theorem byRank_iff {a b : α} : byRank rank key a b = true ↔ rank (key a) ≤ rank (key b) := by simp [byRank]

theorem byRank_trans (a b c : α) (hab : byRank rank key a b = true) (hbc : byRank rank key b c = true) :
    byRank rank key a c = true := by
  rw [byRank_iff] at *
  omega

theorem byRank_total (a b : α) : (byRank rank key a b || byRank rank key b a) = true := by
  rw [Bool.or_eq_true, byRank_iff, byRank_iff]
  exact Nat.le_total _ _

theorem filter_append_filter_not {p : α → Bool} {l : List α} (h : l.Pairwise fun a b => p b = true → p a = true) :
    l.filter p ++ l.filter (fun a => !p a) = l := by
  induction l with
  | nil => rfl
  | cons a l ih =>
    obtain ⟨hhead, htail⟩ := List.pairwise_cons.1 h
    by_cases ha : p a = true
    · rw [List.filter_cons_of_pos ha, List.filter_cons_of_neg (by simp [ha]), List.cons_append, ih htail]
    · -- nothing behind `a` satisfies `p` either
      have hnone : ∀ b ∈ a :: l, ¬ p b = true := by
        intro b hb
        rcases List.mem_cons.1 hb with rfl | hb
        · exact ha
        · exact fun hpb => ha (hhead b hb hpb)
      rw [List.filter_eq_nil_iff.2 hnone, List.nil_append, List.filter_eq_self.2]
      intro b hb
      simpa using hnone b hb

/-- **A sorted list is the concatenation of its parts**, taken in the order of their keys. -/
theorem flatMap_filter_of_sorted [DecidableEq κ] {keys : List κ} {l : List α}
    (hkeys : keys.Pairwise fun j k => rank j < rank k) (hmem : ∀ a ∈ l, key a ∈ keys)
    (hl : l.Pairwise fun a b => rank (key a) ≤ rank (key b)) :
    keys.flatMap (fun k => l.filter fun a => key a = k) = l := by
  induction keys generalizing l with
  | nil =>
    cases l with
    | nil => rfl
    | cons a l => simpa using hmem a List.mem_cons_self
  | cons k keys ih =>
    obtain ⟨hk, hkeys⟩ := List.pairwise_cons.1 hkeys
    let rest := l.filter fun a => !decide (key a = k)
    have hrest : ∀ a ∈ rest, key a ∈ keys := by
      intro a ha
      obtain ⟨hal, hne⟩ := List.mem_filter.1 ha
      rcases List.mem_cons.1 (hmem a hal) with heq | hin
      · simp [heq] at hne
      · exact hin
    have hparts : keys.flatMap (fun j => l.filter fun a => key a = j) =
        keys.flatMap (fun j => rest.filter fun a => key a = j) := by
      apply List.flatMap_congr
      intro j hj
      have hjk : j ≠ k := fun h => Nat.lt_irrefl _ (h ▸ hk j hj)
      rw [List.filter_filter]
      apply List.filter_congr
      intro a _
      by_cases haj : key a = j
      · simp [haj, hjk]
      · simp [haj]
    have hfirst : l.Pairwise fun a b => decide (key b = k) = true → decide (key a = k) = true := by
      refine hl.imp_of_mem fun {a b} ha _ hab hbk => ?_
      simp only [decide_eq_true_eq] at hbk ⊢
      rcases List.mem_cons.1 (hmem a ha) with heq | hin
      · exact heq
      · have := hk _ hin
        rw [hbk] at hab
        omega
    rw [List.flatMap_cons, hparts, ih hkeys hrest (hl.sublist List.filter_sublist)]
    exact filter_append_filter_not hfirst

/-- a stable sort keeps the elements of one key in their order -/
theorem filter_mergeSort [DecidableEq κ] (k : κ) (l : List α) :
    (l.mergeSort (byRank rank key)).filter (fun a => key a = k) = l.filter fun a => key a = k := by
  have hequal : (l.filter fun a => key a = k).Pairwise fun a b => byRank rank key a b = true := by
    apply List.pairwise_of_forall_mem_list
    intro a ha b hb
    have hak : key a = k := by simpa using (List.mem_filter.1 ha).2
    have hbk : key b = k := by simpa using (List.mem_filter.1 hb).2
    have heq : key a = key b := hak.trans hbk.symm
    exact byRank_iff.2 (Nat.le_of_eq (congrArg rank heq))
  have hsub := (List.sublist_mergeSort byRank_trans byRank_total hequal List.filter_sublist).filter
    fun a => decide (key a = k)
  rw [List.filter_filter] at hsub
  simp only [Bool.and_self] at hsub
  have hlength := ((List.mergeSort_perm l (byRank rank key)).filter fun a => decide (key a = k)).length_eq
  exact (hsub.eq_of_length hlength.symm).symm

/-- **Resources are bound in the order of a stable sort by kind.** -/
theorem inBindingOrder_eq_mergeSort (registry : Registry) :
    registry.inBindingOrder = registry.resources.mergeSort (byRank ResourceKind.rank Resource.kind) := by
  let sorted := registry.resources.mergeSort (byRank ResourceKind.rank Resource.kind)
  have hkeys : ResourceKind.all.Pairwise fun j k => j.rank < k.rank := by decide
  have hmem : ∀ r ∈ sorted, r.kind ∈ ResourceKind.all := by
    intro r _
    cases r.kind <;> decide
  have hsorted : sorted.Pairwise fun a b => a.kind.rank ≤ b.kind.rank :=
    (List.pairwise_mergeSort byRank_trans byRank_total registry.resources).imp byRank_iff.1
  calc registry.inBindingOrder
      = ResourceKind.all.flatMap (fun kind => registry.resources.filter fun r => r.kind = kind) := rfl
    _ = ResourceKind.all.flatMap (fun kind => sorted.filter fun r => r.kind = kind) :=
        List.flatMap_congr fun kind _ => (filter_mergeSort kind registry.resources).symm
    _ = sorted := flatMap_filter_of_sorted hkeys hmem hsorted

end ShaderInterface
