/-
Laws of finite tables: what a lookup finds after an insertion, that insertions keep the keys distinct and a lookup then
finds what is listed, and that a table built from pairs with distinct keys lists exactly those pairs.
-/
import Mathlib.Data.List.Nodup
import ShaderInterface.Table

namespace ShaderInterface.Table

variable {κ ν : Type} [DecidableEq κ]

theorem lookup_cons_of_ne {k k' : κ} (h : k ≠ k') (v : ν) (rest : List (κ × ν)) :
    ((k', v) :: rest).lookup k = rest.lookup k := by
  have hk : (k == k') = false := beq_false_of_ne h
  rw [List.lookup_cons, hk]

theorem lookup_insertEntry (k key : κ) (value : ν) (entries : List (κ × ν)) :
    (insertEntry key value entries).lookup k = if k = key then some value else entries.lookup k := by
  induction entries with
  | nil =>
    by_cases h : k = key
    · simp [insertEntry, h]
    · simp [insertEntry, lookup_cons_of_ne h, h]
  | cons e rest ih =>
    obtain ⟨k', v'⟩ := e
    by_cases h' : k' = key
    · subst h'
      by_cases h : k = k'
      · simp [insertEntry, h]
      · simp [insertEntry, lookup_cons_of_ne h, h]
    · by_cases h : k = k'
      · subst h
        simp [insertEntry, h']
      · simp [insertEntry, h', lookup_cons_of_ne h, ih]

/-- an insertion changes the value of its own key only -/
theorem get?_insert (table : Table κ ν) (k key : κ) (value : ν) :
    (table.insert key value).get? k = if k = key then some value else table.get? k :=
  lookup_insertEntry k key value table.entries

theorem get?_empty (k : κ) : (empty : Table κ ν).get? k = none := rfl

theorem map_fst_insertEntry (key : κ) (value : ν) (entries : List (κ × ν)) :
    (insertEntry key value entries).map Prod.fst =
      if key ∈ entries.map Prod.fst then entries.map Prod.fst else entries.map Prod.fst ++ [key] := by
  induction entries with
  | nil => rfl
  | cons e rest ih =>
    obtain ⟨k, v⟩ := e
    by_cases h : k = key
    · simp [insertEntry, h]
    · rw [insertEntry, if_neg h, List.map_cons, ih]
      by_cases hrest : key ∈ rest.map Prod.fst
      · rw [if_pos hrest, List.map_cons, if_pos (List.mem_cons_of_mem k hrest)]
      · rw [if_neg hrest, List.map_cons, if_neg (by simpa [Ne.symm h] using hrest)]
        rfl

/-- an insertion keeps the keys distinct -/
theorem nodup_insert {table : Table κ ν} (h : (table.entries.map Prod.fst).Nodup) (key : κ) (value : ν) :
    ((table.insert key value).entries.map Prod.fst).Nodup := by
  rw [insert, map_fst_insertEntry]
  split
  · exact h
  · next hnew =>
    rw [← List.concat_eq_append]
    exact h.concat hnew

/-- with distinct keys, a key has the value that it is listed with -/
theorem lookup_of_mem {entries : List (κ × ν)} (h : (entries.map Prod.fst).Nodup) {key : κ} {value : ν}
    (hmem : (key, value) ∈ entries) : entries.lookup key = some value := by
  obtain ⟨before, after, rfl⟩ := List.append_of_mem hmem
  have hnot : key ∉ before.map Prod.fst := by
    rw [List.map_append, List.nodup_append] at h
    intro hb
    exact h.2.2 key hb key (by simp) rfl
  have hnone : before.lookup key = none := by
    rw [List.lookup_eq_none_iff]
    intro p hp
    simp only [bne_iff_ne, ne_eq]
    intro hk
    exact hnot (List.mem_map.2 ⟨p, hp, hk.symm⟩)
  rw [List.lookup_append, hnone, Option.none_or, List.lookup_cons_self]

/-- with distinct keys, a lookup finds exactly what is listed -/
theorem get?_eq_some_iff {table : Table κ ν} (h : (table.entries.map Prod.fst).Nodup) {key : κ} {value : ν} :
    table.get? key = some value ↔ (key, value) ∈ table.entries := by
  constructor
  · intro hget
    obtain ⟨before, after, hentries, -⟩ := List.lookup_eq_some_iff.1 hget
    rw [hentries]
    exact List.mem_append_right _ List.mem_cons_self
  · exact lookup_of_mem h

theorem insertEntry_of_notMem {key : κ} {value : ν} {entries : List (κ × ν)} (h : key ∉ entries.map Prod.fst) :
    insertEntry key value entries = entries ++ [(key, value)] := by
  induction entries with
  | nil => rfl
  | cons e rest ih =>
    obtain ⟨k, v⟩ := e
    simp only [List.map_cons, List.mem_cons, not_or] at h
    rw [insertEntry, if_neg (Ne.symm h.1), ih h.2]
    rfl

theorem foldl_insert_entries {pairs : List (κ × ν)} {table : Table κ ν}
    (h : ((table.entries ++ pairs).map Prod.fst).Nodup) :
    (pairs.foldl (fun table pair => table.insert pair.1 pair.2) table).entries = table.entries ++ pairs := by
  induction pairs generalizing table with
  | nil => simp
  | cons pair rest ih =>
    have hnew : pair.1 ∉ table.entries.map Prod.fst := by
      rw [List.map_append, List.nodup_append] at h
      intro hmem
      exact h.2.2 _ hmem pair.1 (by simp) rfl
    have hins : (table.insert pair.1 pair.2).entries = table.entries ++ [pair] := insertEntry_of_notMem hnew
    rw [List.foldl_cons, ih (by rw [hins, List.append_assoc]; exact h), hins, List.append_assoc]
    rfl

/-- **Nothing is overwritten**: pairs with distinct keys are the entries of their table, in order. -/
theorem ofList_entries {pairs : List (κ × ν)} (h : (pairs.map Prod.fst).Nodup) : (ofList pairs).entries = pairs := by
  have hempty : (((empty : Table κ ν).entries ++ pairs).map Prod.fst).Nodup := by simpa [empty] using h
  simpa [ofList, empty] using foldl_insert_entries hempty

/-- a table of pairs with distinct keys has each of them -/
theorem get?_ofList_of_mem {pairs : List (κ × ν)} (h : (pairs.map Prod.fst).Nodup) {key : κ} {value : ν}
    (hmem : (key, value) ∈ pairs) : (ofList pairs).get? key = some value := by
  rw [get?, ofList_entries h]
  exact lookup_of_mem h hmem

/-- with distinct keys, a key that is not listed has no value -/
theorem get?_ofList_of_notMem {pairs : List (κ × ν)} (h : (pairs.map Prod.fst).Nodup) {key : κ}
    (hnot : key ∉ pairs.map Prod.fst) : (ofList pairs).get? key = none := by
  rw [get?, ofList_entries h, List.lookup_eq_none_iff]
  intro p hp
  simp only [bne_iff_ne, ne_eq]
  intro hk
  exact hnot (List.mem_map.2 ⟨p, hp, hk.symm⟩)

/-- **A table of computed values.** Where keys are distinct, each element has the value that is computed from it, if any. -/
theorem get?_ofList_filterMap {α : Type} {key : α → κ} {value? : α → Option ν} {l : List α} (h : (l.map key).Nodup) {a : α}
    (ha : a ∈ l) : (ofList (l.filterMap fun b => (value? b).map (key b, ·))).get? (key a) = value? a := by
  have hsublist : ∀ l : List α, ((l.filterMap fun b => (value? b).map (key b, ·)).map Prod.fst).Sublist (l.map key) := by
    intro l
    induction l with
    | nil => exact .slnil
    | cons b rest ih =>
      cases hb : value? b with
      | none => simpa [hb] using ih.cons (key b)
      | some v => simpa [hb] using ih.cons_cons (key b)
  have hkeys := (hsublist l).nodup h
  cases hvalue : value? a with
  | some v => exact get?_ofList_of_mem hkeys (List.mem_filterMap.2 ⟨a, ha, by rw [hvalue]; rfl⟩)
  | none =>
    refine get?_ofList_of_notMem hkeys fun hmem => ?_
    obtain ⟨pair, hpair, hkey⟩ := List.mem_map.1 hmem
    obtain ⟨b, hb, hvalue'⟩ := List.mem_filterMap.1 hpair
    obtain ⟨v, hv, rfl⟩ := Option.map_eq_some_iff.1 hvalue'
    -- the element under that key is `a` itself
    obtain rfl := List.inj_on_of_nodup_map h hb ha hkey
    simp [hvalue] at hv

end ShaderInterface.Table
