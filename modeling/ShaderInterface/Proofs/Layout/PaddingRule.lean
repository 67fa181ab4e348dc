/-
The padding rule, in unbounded numbers.

A member begins where the one before it ends, unless it would cross the end of a block there; then it begins the next
block. `PaddingRule.start` is that rule for one member. Nothing in it is checked, so nothing wraps or overflows.

- `paddingBetween_eq_ok`: the padding that is computed between two members is what the rule leaves free.
- `followsRule_of_build`: so a layout follows the rule, whose boundaries are least multiples of the block.
- `FollowsRule.inBlocks`: a member that does not begin a block lies inside one, and is smaller than a block.
- `layouts_follow_rule`: both hold of every struct of a computed table that has an alignment.
-/
import Mathlib.Order.Bounds.Defs
import ShaderInterface.Proofs.Layout.Tiling

namespace ShaderInterface

open Outcome

/-- rounding up answers the least multiple that is not below -/
theorem Size.isLeast_roundUp (n : Nat) {align : Nat} (h : align ≠ 0) :
    IsLeast {m | align ∣ m ∧ n ≤ m} (Size.roundUp n align) :=
  ⟨⟨Size.dvd_roundUp n h, Size.le_roundUp n align⟩, fun _ hm => Size.roundUp_le hm.2 fun _ => hm.1⟩

/-! ## The rule -/

/-- where a member of `size` bytes begins behind one that ends at `stop` -/
def PaddingRule.start (block stop size : Nat) : Nat :=
  if stop ≠ Size.roundUp stop block ∧ Size.roundUp stop block < stop + size then Size.roundUp stop block else stop

theorem PaddingRule.le_start (block stop size : Nat) : stop ≤ start block stop size := by
  unfold start
  split
  · exact Size.le_roundUp stop block
  · exact Nat.le_refl stop

/-- the padding between two members is what the rule leaves free, in words -/
theorem paddingBetween_eq_ok {owner after : String} {block stop size padding : Nat} :
    paddingBetween owner after block stop size = .ok padding ↔
      Size.roundUp stop block < Size.limit ∧ stop + 4 * padding = PaddingRule.start block stop size := by
  have hle := Size.le_roundUp stop block
  rw [paddingBetween, PaddingRule.start, bind_eq_ok]
  simp only [sizeIn_eq_ok]
  constructor
  · rintro ⟨_, ⟨hlimit, rfl⟩, hpadding⟩
    refine ⟨hlimit, ?_⟩
    split at hpadding
    · next hcross =>
      rw [paddingWords_eq_ok] at hpadding
      rw [if_pos hcross]
      omega
    · next hinside =>
      obtain rfl := Except.ok.inj hpadding
      rw [if_neg hinside, Nat.mul_zero, Nat.add_zero]
  · rintro ⟨hlimit, hstart⟩
    refine ⟨_, ⟨hlimit, rfl⟩, ?_⟩
    split at hstart
    · next hcross =>
      rw [if_pos hcross, paddingWords_eq_ok]
      omega
    · next hinside =>
      rw [if_neg hinside]
      exact congrArg Except.ok (by omega)

/-- **One step of the placement follows the rule**: a member begins where the rule puts it behind the one before it. -/
theorem start_of_place {owner : String} {block offset canonical finish : Nat} {members : List (Member × Extent)}
    {placements : List Placement} (h : place owner block offset canonical members = .ok (placements, finish)) {i : Nat}
    {p q : Placement} (hp : placements[i]? = some p) (hq : placements[i + 1]? = some q) :
    q.offset = PaddingRule.start block (p.offset + p.size) q.size := by
  induction members generalizing offset canonical placements i with
  | nil =>
    obtain ⟨rfl, -⟩ := place_nil_eq_ok.1 h
    simp at hp
  | cons m rest ih =>
    obtain ⟨-, -, -, padding, others, hpadding, hrest, rfl⟩ := place_cons_eq_ok.1 h
    rw [List.getElem?_cons_succ] at hq
    cases i with
    | zero =>
      obtain rfl := Option.some.inj hp
      cases rest with
      | nil =>
        obtain ⟨rfl, -⟩ := place_nil_eq_ok.1 hrest
        simp at hq
      | cons next rest =>
        obtain ⟨-, -, -, _, _, -, -, rfl⟩ := place_cons_eq_ok.1 hrest
        obtain rfl := Option.some.inj hq
        exact (paddingBetween_eq_ok.1 hpadding).2
    | succ i => exact ih hrest hp hq

/-! ## Layouts -/

namespace StructLayout

/-- where the last member ends, 0 without members -/
def stop (layout : StructLayout) : Nat := (layout.placements.getLast?.map fun p => p.offset + p.size).getD 0

/-- members and size are where the rule puts them, and all padding is whole words -/
structure FollowsRule (layout : StructLayout) : Prop where
  head : ∀ p, layout.placements.head? = some p → p.offset = 0
  next : ∀ i p q, layout.placements[i]? = some p → layout.placements[i + 1]? = some q →
    ∃ boundary, IsLeast {m | layout.maxAlign ∣ m ∧ p.offset + p.size ≤ m} boundary ∧
      q.offset = if p.offset + p.size ≠ boundary ∧ boundary < p.offset + p.size + q.size then boundary
        else p.offset + p.size
  size : IsLeast {m | structGranule ∣ m ∧ layout.stop ≤ m} layout.byteSize
  words : ∀ i p q, layout.placements[i]? = some p → layout.placements[i + 1]? = some q →
    ∃ words, q.offset = p.offset + p.size + 4 * words
  tail : ∃ words, layout.byteSize = layout.stop + 4 * words

/-- no member crosses the end of the block it begins in, unless it begins that block -/
structure InBlocks (layout : StructLayout) : Prop where
  block : ∀ p ∈ layout.placements, layout.maxAlign ∣ p.offset ∨
    ∃ k, k * layout.maxAlign ≤ p.offset ∧ p.offset + p.size ≤ (k + 1) * layout.maxAlign
  large : ∀ p ∈ layout.placements, layout.maxAlign ≤ p.size → layout.maxAlign ∣ p.offset

variable {layout : StructLayout}

theorem stop_of_fills {finish : Nat} (h : Fills 0 layout.placements finish) : layout.stop = finish := by
  unfold stop
  cases hlast : layout.placements.getLast? with
  | some p => exact (h.last hlast).1
  | none =>
    rw [List.getLast?_eq_none_iff.1 hlast] at h
    exact h

/-- **A layout follows the rule** whose block is its largest alignment. -/
theorem followsRule_of_build {name : String} {block : Nat} {members : List (Member × Extent)}
    (h : build name block members = .ok layout) (hpos : 0 < layout.maxAlign) : layout.FollowsRule := by
  obtain ⟨finish, hplace, -, hsize, htail, -, halign⟩ := build_eq_ok.1 h
  have hfills := fills_of_place hplace
  have hstop := stop_of_fills hfills
  refine ⟨fun p hp => hfills.head hp, ?_, ?_, ?_, ?_⟩
  · intro i p q hp hq
    refine ⟨_, Size.isLeast_roundUp (p.offset + p.size) (Nat.ne_of_gt hpos), ?_⟩
    rw [halign]
    exact start_of_place hplace hp hq
  · rw [hsize, hstop]
    exact Size.isLeast_roundUp finish (by decide)
  · intro i p q hp hq
    exact ⟨p.padding, hfills.next hp hq⟩
  · exact ⟨layout.tail, by rw [hstop, htail]⟩

/-- a member that ends by the next boundary lies in the block in front of that boundary -/
theorem exists_block_of_isLeast {block boundary stop size : Nat}
    (hleast : IsLeast {m | block ∣ m ∧ stop ≤ m} boundary) (hne : stop ≠ boundary) (hfits : stop + size ≤ boundary) :
    ∃ k, k * block ≤ stop ∧ stop + size ≤ (k + 1) * block := by
  obtain ⟨⟨⟨k, rfl⟩, -⟩, hleast⟩ := hleast
  cases k with
  | zero => omega
  | succ k =>
    refine ⟨k, ?_, by rwa [Nat.mul_comm]⟩
    -- else the boundary before would do as well
    by_contra hlt
    have hbelow : block * (k + 1) ≤ k * block := hleast ⟨Nat.dvd_mul_left block k, Nat.le_of_not_le hlt⟩
    rw [Nat.mul_comm, Nat.succ_mul] at hbelow
    obtain rfl : block = 0 := by omega
    exact hlt (Nat.zero_le stop)

/-- **No member crosses a boundary.** One that would is put at the boundary, and one that begins elsewhere lies in the
block before the next boundary, so it is smaller than a block. -/
theorem FollowsRule.inBlocks (h : layout.FollowsRule) : layout.InBlocks := by
  have hblock : ∀ p ∈ layout.placements, layout.maxAlign ∣ p.offset ∨
      ∃ k, k * layout.maxAlign ≤ p.offset ∧ p.offset + p.size ≤ (k + 1) * layout.maxAlign := by
    intro q hq
    obtain ⟨i, hi⟩ := List.mem_iff_getElem?.1 hq
    cases i with
    | zero =>
      rw [← List.head?_eq_getElem?] at hi
      exact .inl (h.head q hi ▸ Nat.dvd_zero _)
    | succ i =>
      have hlt := Nat.lt_of_succ_lt (List.getElem?_eq_some_iff.1 hi).1
      obtain ⟨boundary, hleast, hoffset⟩ := h.next i _ q (List.getElem?_eq_getElem hlt) hi
      split at hoffset
      · exact .inl (hoffset ▸ hleast.1.1)
      · next hinside =>
        rw [hoffset]
        by_cases heq : layout.placements[i].offset + layout.placements[i].size = boundary
        · exact .inl (heq ▸ hleast.1.1)
        · exact .inr (exists_block_of_isLeast hleast heq (by omega))
  refine ⟨hblock, fun p hp hlarge => ?_⟩
  rcases hblock p hp with hdvd | ⟨k, hbegin, hend⟩
  · exact hdvd
  · rw [Nat.succ_mul] at hend
    have hbegins : p.offset = k * layout.maxAlign := by omega
    exact hbegins ▸ Nat.dvd_mul_left _ k

end StructLayout

/-- **The padding rule.** Every struct of a computed table that has an alignment is laid out by the rule in unbounded
numbers, and so each of its members begins a block or lies inside one. -/
theorem layouts_follow_rule {constants : Table String Nat} {decls : List StructDecl} {table : LayoutTable}
    (h : LayoutTable.ofDecls constants decls = .ok table) {layout : StructLayout} (hl : layout ∈ table.layouts)
    (hpos : 0 < layout.maxAlign) : layout.FollowsRule ∧ layout.InBlocks := by
  obtain ⟨before, decl, -, -, hlayout⟩ := LayoutTable.computed_of_mem h layout hl
  obtain ⟨block, members, -, -, hbuild⟩ := LayoutTable.layout_eq_ok.1 hlayout
  have hrule := StructLayout.followsRule_of_build hbuild hpos
  exact ⟨hrule, hrule.inBlocks⟩

/-- in the light, the direction begins at 4 and ends with the block; in the scene, the lights begin the next block -/
theorem scene_layouts_follow_rule :
    LayoutTable.ofDecls sceneConstants sceneDecls = .ok ⟨[lightLayout, sceneLayout], sceneConstants⟩ ∧
      0 < lightLayout.maxAlign ∧ lightLayout.FollowsRule ∧ lightLayout.InBlocks ∧
      0 < sceneLayout.maxAlign ∧ sceneLayout.FollowsRule ∧ sceneLayout.InBlocks := by
  have hlight : lightLayout ∈ [lightLayout, sceneLayout] := List.mem_cons_self
  have hscene : sceneLayout ∈ [lightLayout, sceneLayout] := List.mem_cons_of_mem _ List.mem_cons_self
  obtain ⟨hrule, hblocks⟩ := layouts_follow_rule ofDecls_scene hlight (by decide)
  obtain ⟨hrule', hblocks'⟩ := layouts_follow_rule ofDecls_scene hscene (by decide)
  exact ⟨ofDecls_scene, by decide, hrule, hblocks, by decide, hrule', hblocks'⟩

end ShaderInterface
