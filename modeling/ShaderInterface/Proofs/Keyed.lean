/-
Lists whose elements have distinct keys: a search for the key of an element finds that element.
-/
import Mathlib.Data.List.Nodup

namespace ShaderInterface

variable {α κ : Type} [DecidableEq κ]

theorem find?_of_nodup_map {key : α → κ} {l : List α} (hn : (l.map key).Nodup) {a : α} (ha : a ∈ l) :
    l.find? (fun b => key b = key a) = some a := by
  cases hfind : l.find? (fun b => key b = key a) with
  | none =>
    rw [List.find?_eq_none] at hfind
    exact absurd (hfind a ha) (by simp)
  | some b =>
    have hkey : key b = key a := by simpa using List.find?_some hfind
    rw [List.inj_on_of_nodup_map hn (List.mem_of_find?_eq_some hfind) ha hkey]

end ShaderInterface
