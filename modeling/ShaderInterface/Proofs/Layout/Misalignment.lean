/-
Members that are off their own alignment are reported.

Two rules run along the members of a struct. The padding rule gives each member its offset. The canonical rule takes the
canonical end of the member before, which is not the end by the padding rule, and rounds it up to the member's own
alignment. A member is reported where the two differ. Canonical offsets are aligned, so a member off its alignment
differs. Without a report the rules agree from the first member on, and no padding is longer than an alignment asks for.

- `dvd_canonicalOffset`, `canonicalOffset_next`: what the canonical rule keeps along the members.
- `disagreements_eq_nil_iff_aligned`: nothing is reported exactly if members are aligned with the least padding.
- `misaligned_reported`: what is reported of a struct of a computed table.
-/
import ShaderInterface.Proofs.Layout.Disagreements

namespace ShaderInterface

open Outcome

/-! ## The canonical rule along the members -/

section Placing

variable {table : LayoutTable} {owner : String} {block offset canonical finish : Nat}
  {members : List (Member × Extent)} {placements : List Placement}

/-- every canonical offset is aligned to the member's own type -/
theorem dvd_canonicalOffset (h : place owner block offset canonical members = .ok (placements, finish))
    (hdescribe : ∀ m ∈ members, table.describe m.1.type = .ok m.2) :
    ∀ p ∈ placements, ∀ e, table.describe p.member.type = .ok e → e.align ≠ 0 → e.align ∣ p.canonicalOffset := by
  induction members generalizing offset canonical placements with
  | nil =>
    obtain ⟨rfl, -⟩ := place_nil_eq_ok.1 h
    exact List.forall_mem_nil _
  | cons m rest ih =>
    obtain ⟨-, -, -, padding, others, -, hrest, rfl⟩ := place_cons_eq_ok.1 h
    obtain ⟨hm, hdescribe⟩ := List.forall_mem_cons.1 hdescribe
    refine List.forall_mem_cons.2 ⟨fun e he hne => ?_, ih hrest hdescribe⟩
    obtain rfl := Except.ok.inj (hm.symm.trans he)
    exact Size.dvd_roundUp canonical hne

/-- the first canonical offset is where the canonical rule starts, aligned -/
theorem canonicalOffset_head (h : place owner block offset canonical members = .ok (placements, finish))
    (hdescribe : ∀ m ∈ members, table.describe m.1.type = .ok m.2) {p : Placement} {e : Extent}
    (hp : placements[0]? = some p) (he : table.describe p.member.type = .ok e) :
    p.canonicalOffset = Size.roundUp canonical e.align := by
  cases members with
  | nil =>
    obtain ⟨rfl, -⟩ := place_nil_eq_ok.1 h
    simp at hp
  | cons m rest =>
    obtain ⟨-, -, -, padding, others, -, -, rfl⟩ := place_cons_eq_ok.1 h
    obtain rfl := Option.some.inj hp
    obtain rfl := Except.ok.inj ((hdescribe m List.mem_cons_self).symm.trans he)
    rfl

/-- **One step of the canonical rule**: the next canonical offset is the canonical end so far, aligned. -/
theorem canonicalOffset_next (h : place owner block offset canonical members = .ok (placements, finish))
    (hdescribe : ∀ m ∈ members, table.describe m.1.type = .ok m.2) {i : Nat} {p q : Placement} {e : Extent}
    (hp : placements[i]? = some p) (hq : placements[i + 1]? = some q) (he : table.describe q.member.type = .ok e) :
    q.canonicalOffset = Size.roundUp (p.canonicalOffset + p.size) e.align := by
  induction members generalizing offset canonical placements i with
  | nil =>
    obtain ⟨rfl, -⟩ := place_nil_eq_ok.1 h
    simp at hp
  | cons m rest ih =>
    obtain ⟨-, -, -, padding, others, -, hrest, rfl⟩ := place_cons_eq_ok.1 h
    have hdescribe := (List.forall_mem_cons.1 hdescribe).2
    rw [List.getElem?_cons_succ] at hq
    cases i with
    | zero =>
      obtain rfl := Option.some.inj hp
      exact canonicalOffset_head hrest hdescribe hq he
    | succ i => exact ih hrest hdescribe hp hq

end Placing

/-! ## Reports -/

namespace StructLayout

/-- every member is aligned to its own type, and no padding is longer than the member behind it needs -/
structure Aligned (table : LayoutTable) (layout : StructLayout) : Prop where
  members : ∀ p ∈ layout.placements, ∀ e, table.describe p.member.type = .ok e → e.align ≠ 0 → e.align ∣ p.offset
  paddings : ∀ i p q e, layout.placements[i]? = some p → layout.placements[i + 1]? = some q →
    table.describe q.member.type = .ok e → q.offset = p.offset + p.size + 4 * p.padding ∧
      ∀ bytes, (e.align ≠ 0 → e.align ∣ p.offset + p.size + bytes) → 4 * p.padding ≤ bytes

variable {layout : StructLayout} {table : LayoutTable}

theorem mem_disagreements {p : Placement} (hp : p ∈ layout.placements) (hne : p.canonicalOffset ≠ p.offset) :
    p.member.name ∈ layout.disagreements :=
  List.mem_map.2 ⟨p, List.mem_filter.2 ⟨hp, decide_eq_true hne⟩, rfl⟩

end StructLayout

namespace LayoutTable.Builds

variable {table : LayoutTable} {layout : StructLayout} {pairs : List (Member × Extent)}

/-- a member that is off its alignment is reported -/
theorem reports_misaligned (h : table.Builds pairs layout) {p : Placement} (hp : p ∈ layout.placements) {e : Extent}
    (he : table.describe p.member.type = .ok e) (hne : e.align ≠ 0) (hoff : ¬ e.align ∣ p.offset) :
    p.member.name ∈ layout.disagreements := by
  obtain ⟨stop, hplace, -⟩ := build_eq_ok.1 h.build
  refine StructLayout.mem_disagreements hp fun hagree => hoff ?_
  exact hagree ▸ dvd_canonicalOffset hplace h.describe p hp e he hne

theorem exists_describe (h : table.Builds pairs layout) {p : Placement} (hp : p ∈ layout.placements) :
    ∃ e, table.describe p.member.type = .ok e := by
  have hmember : p.member ∈ pairs.map Prod.fst := h.members ▸ List.mem_map_of_mem hp
  obtain ⟨m, hm, hfst⟩ := List.mem_map.1 hmember
  exact ⟨m.2, hfst ▸ h.describe m hm⟩

/-- members that agree with the canonical rule are aligned, with the least padding -/
theorem aligned_of_agree (h : table.Builds pairs layout)
    (hagree : ∀ p ∈ layout.placements, p.canonicalOffset = p.offset) : layout.Aligned table := by
  obtain ⟨stop, hplace, -⟩ := build_eq_ok.1 h.build
  refine ⟨fun p hp e he hne => ?_, fun i p q e hp hq he => ?_⟩
  · exact hagree p hp ▸ dvd_canonicalOffset hplace h.describe p hp e he hne
  · have hnext := (fills_of_place hplace).next hp hq
    have hcanonical := canonicalOffset_next hplace h.describe hp hq he
    rw [hagree p (List.mem_of_getElem? hp), hagree q (List.mem_of_getElem? hq), hnext] at hcanonical
    exact ⟨hnext, (Size.roundUp_eq_add_iff.1 hcanonical.symm).2⟩

/-- aligned members with the least padding agree with the canonical rule, by induction along the members -/
theorem agree_of_aligned (h : table.Builds pairs layout) (haligned : layout.Aligned table) (i : Nat) :
    ∀ p, layout.placements[i]? = some p → p.canonicalOffset = p.offset := by
  obtain ⟨stop, hplace, -⟩ := build_eq_ok.1 h.build
  induction i with
  | zero =>
    intro p hp
    obtain ⟨e, he⟩ := h.exists_describe (List.mem_of_getElem? hp)
    rw [canonicalOffset_head hplace h.describe hp he, Size.roundUp_of_zero]
    exact ((fills_of_place hplace).head (List.head?_eq_getElem? ▸ hp)).symm
  | succ i ih =>
    intro q hq
    have hlt := Nat.lt_of_succ_lt (List.getElem?_eq_some_iff.1 hq).1
    have hp := List.getElem?_eq_getElem hlt
    obtain ⟨e, he⟩ := h.exists_describe (List.mem_of_getElem? hq)
    obtain ⟨hnext, hleast⟩ := haligned.paddings i _ q e hp hq he
    have hdvd := haligned.members q (List.mem_of_getElem? hq) e he
    rw [hnext] at hdvd
    rw [canonicalOffset_next hplace h.describe hp hq he, ih _ hp, hnext]
    exact Size.roundUp_eq_add_iff.2 ⟨hdvd, hleast⟩

theorem disagreements_eq_nil_iff_aligned (h : table.Builds pairs layout) :
    layout.disagreements = [] ↔ layout.Aligned table := by
  rw [StructLayout.disagreements_eq_nil]
  constructor
  · exact h.aligned_of_agree
  · intro haligned p hp
    obtain ⟨i, hi⟩ := List.mem_iff_getElem?.1 hp
    exact h.agree_of_aligned haligned i p hi

end LayoutTable.Builds

/-- **Misaligned members are reported.** The report of a struct names, in order, exactly the members whose offset is not
the canonical end of the member before rounded up to the member's own alignment. So every member off its alignment is
named, and nothing is named exactly if all members are aligned with the least padding between them. -/
theorem misaligned_reported {constants : Table String Nat} {decls : List StructDecl} {table : LayoutTable}
    (h : LayoutTable.ofDecls constants decls = .ok table) {layout : StructLayout} (hl : layout ∈ table.layouts) :
    ∃ extents, List.Forall₂ (fun p e => table.describe p.member.type = .ok e ∧ e.size = p.size) layout.placements extents ∧
      layout.disagreements = ((layout.placements.zip (alignedOffsets 0 extents)).filter fun q => q.2 ≠ q.1.offset).map
        (·.1.member.name) ∧
      (∀ p ∈ layout.placements, ∀ e, table.describe p.member.type = .ok e → e.align ≠ 0 → ¬ e.align ∣ p.offset →
        p.member.name ∈ layout.disagreements) ∧
      (layout.disagreements = [] ↔ layout.Aligned table) := by
  obtain ⟨pairs, hbuilds, -⟩ := LayoutTable.builds_of_mem h hl
  obtain ⟨stop, hplace, -⟩ := build_eq_ok.1 hbuilds.build
  refine ⟨_, hbuilds.sizes, StructLayout.disagreements_eq_zip (canonicalOffsets_of_place hplace), ?_, ?_⟩
  · intro p hp e he hne hoff
    exact hbuilds.reports_misaligned hp he hne hoff
  · exact hbuilds.disagreements_eq_nil_iff_aligned

/-- in the light, the direction is reported, which begins at 4; in the scene, all members are aligned -/
theorem scene_misaligned_reported :
    LayoutTable.ofDecls sceneConstants sceneDecls = .ok ⟨[lightLayout, sceneLayout], sceneConstants⟩ ∧
      "direction" ∈ lightLayout.disagreements ∧ sceneLayout.disagreements = [] ∧
      sceneLayout.Aligned ⟨[lightLayout, sceneLayout], sceneConstants⟩ := by
  have hlight : lightLayout ∈ [lightLayout, sceneLayout] := List.mem_cons_self
  have hscene : sceneLayout ∈ [lightLayout, sceneLayout] := List.mem_cons_of_mem _ List.mem_cons_self
  obtain ⟨-, -, -, hreported, -⟩ := misaligned_reported ofDecls_scene hlight
  obtain ⟨-, -, -, -, haligned⟩ := misaligned_reported ofDecls_scene hscene
  have hdirection := hreported ⟨⟨"direction", .named "vec3f"⟩, 4, 12, 16, 0⟩ (by decide) ⟨12, 16⟩ rfl (by decide) (by decide)
  have hnothing : sceneLayout.disagreements = [] := by decide
  exact ⟨ofDecls_scene, hdirection, hnothing, haligned.1 hnothing⟩

end ShaderInterface
