/-
What a successful placement of a struct's members gives.

- `place_cons_eq_ok`: one step of `place`, with everything that it checks.
- `Fills`: each member begins where the member before it and that member's padding end, and no padding follows the last
  member. `fills_of_place`: placements fill the bytes from the offset where they start to the end of the last member.
- `Fills.next`, `Fills.last`, `Fills.pairwise`, `Fills.inside`: read off `Fills`, the distance between neighbours, the
  end of the last member, and that no two members share a byte or leave the filled range.
- `build_eq_ok`: a layout is its placements, rounded up to the granule of a struct and padded in whole words.
-/
import ShaderInterface.Layout.StructLayout
import ShaderInterface.Proofs.Outcome
import ShaderInterface.Proofs.Size

namespace ShaderInterface

open Outcome

/-! ## Checked steps -/

theorem sizeIn_eq_ok {owner : String} {n m : Nat} : sizeIn owner n = .ok m ↔ n < Size.limit ∧ n = m := by
  rw [← Size.fits?_eq_some, sizeIn]
  cases Size.fits? n with
  | some k => simp
  | none => simp

theorem paddingWords_eq_ok {owner after : String} {bytes words : Nat} :
    paddingWords owner after bytes = .ok words ↔ bytes = 4 * words := by
  rw [← Size.words?_eq_some, paddingWords]
  cases Size.words? bytes with
  | some w => simp
  | none => simp

variable {owner : String} {block offset canonical finish : Nat}

/-- one step of the placement: the end so far and the canonical end are sizes, and the rest comes behind the padding -/
theorem place_cons_eq_ok {member : Member} {extent : Extent} {rest : List (Member × Extent)}
    {placements : List Placement} :
    place owner block offset canonical ((member, extent) :: rest) = .ok (placements, finish) ↔
      Size.roundUp canonical extent.align < Size.limit ∧
      Size.roundUp canonical extent.align + extent.size < Size.limit ∧
      offset + extent.size < Size.limit ∧
      ∃ padding others,
        paddingBefore owner member.name block (offset + extent.size) rest = .ok padding ∧
        place owner block (offset + extent.size + 4 * padding) (Size.roundUp canonical extent.align + extent.size) rest
          = .ok (others, finish) ∧
        placements = ⟨member, offset, extent.size, Size.roundUp canonical extent.align, padding⟩ :: others := by
  simp only [place, bind_eq_ok, sizeIn_eq_ok, Prod.exists, Except.ok.injEq, Prod.mk.injEq]
  constructor
  · rintro ⟨_, ⟨h1, rfl⟩, _, ⟨h2, rfl⟩, _, ⟨h3, rfl⟩, padding, hp, others, _, hrest, rfl, rfl⟩
    exact ⟨h1, h2, h3, padding, others, hp, hrest, rfl⟩
  · rintro ⟨h1, h2, h3, padding, others, hp, hrest, rfl⟩
    exact ⟨_, ⟨h1, rfl⟩, _, ⟨h2, rfl⟩, _, ⟨h3, rfl⟩, padding, hp, others, finish, hrest, rfl, rfl⟩

theorem place_nil_eq_ok {placements : List Placement} :
    place owner block offset canonical [] = .ok (placements, finish) ↔ placements = [] ∧ finish = offset := by
  simp only [place, Except.ok.injEq, Prod.mk.injEq]
  exact and_congr eq_comm eq_comm

/-- the members keep their order and extents -/
theorem place_members {members : List (Member × Extent)} {placements : List Placement}
    (h : place owner block offset canonical members = .ok (placements, finish)) :
    placements.map (fun p => (p.member, p.size)) = members.map (fun m => (m.1, m.2.size)) := by
  induction members generalizing offset canonical placements with
  | nil =>
    obtain ⟨rfl, -⟩ := place_nil_eq_ok.1 h
    rfl
  | cons m rest ih =>
    obtain ⟨-, -, -, padding, others, -, hrest, rfl⟩ := place_cons_eq_ok.1 h
    rw [List.map_cons, List.map_cons, ih hrest]

/-! ## Filled ranges -/

/-- the placements fill the bytes from `start` to `stop`: each begins where the one before it and its padding end -/
def Fills : Nat → List Placement → Nat → Prop
  | start, [], stop => start = stop
  | start, p :: rest, stop =>
    p.offset = start ∧ (rest = [] → p.padding = 0) ∧ Fills (p.offset + p.size + 4 * p.padding) rest stop

theorem fills_of_place {members : List (Member × Extent)} {placements : List Placement}
    (h : place owner block offset canonical members = .ok (placements, finish)) : Fills offset placements finish := by
  induction members generalizing offset canonical placements with
  | nil =>
    obtain ⟨rfl, rfl⟩ := place_nil_eq_ok.1 h
    rfl
  | cons m rest ih =>
    obtain ⟨-, -, -, padding, others, hp, hrest, rfl⟩ := place_cons_eq_ok.1 h
    refine ⟨rfl, ?_, ih hrest⟩
    rintro rfl
    -- nothing is placed behind the last member, so it has no next member to make room for
    cases rest with
    | nil => simpa [paddingBefore, eq_comm] using hp
    | cons m' rest =>
      obtain ⟨-, -, -, _, _, -, -, hcons⟩ := place_cons_eq_ok.1 hrest
      simp at hcons

namespace Fills

variable {start stop : Nat} {placements : List Placement}

theorem le (h : Fills start placements stop) : start ≤ stop := by
  induction placements generalizing start with
  | nil => exact Nat.le_of_eq h
  | cons p rest ih =>
    have := ih h.2.2
    have := h.1
    omega

/-- every placement lies inside the filled range -/
theorem inside (h : Fills start placements stop) {p : Placement} (hp : p ∈ placements) :
    start ≤ p.offset ∧ p.offset + p.size ≤ stop := by
  induction placements generalizing start with
  | nil => simp at hp
  | cons q rest ih =>
    have h0 := h.1
    rcases List.mem_cons.1 hp with rfl | hp
    · have := h.2.2.le
      omega
    · have := ih h.2.2 hp
      omega

/-- **No two placements share a byte**: each ends before every later one begins. -/
theorem pairwise (h : Fills start placements stop) :
    placements.Pairwise fun p q => p.offset + p.size ≤ q.offset := by
  induction placements generalizing start with
  | nil => exact List.Pairwise.nil
  | cons p rest ih =>
    apply List.Pairwise.cons
    · intro q hq
      have hbehind := (h.2.2.inside hq).1
      omega
    · exact ih h.2.2

/-- the distance between neighbours is the size and padding of the first -/
theorem next (h : Fills start placements stop) {i : Nat} {p q : Placement} (hp : placements[i]? = some p)
    (hq : placements[i + 1]? = some q) : q.offset = p.offset + p.size + 4 * p.padding := by
  induction placements generalizing start i with
  | nil => simp at hp
  | cons r rest ih =>
    cases i with
    | zero =>
      simp only [List.getElem?_cons_zero, Option.some.injEq] at hp
      subst hp
      cases rest with
      | nil => simp at hq
      | cons s rest =>
        simp only [Nat.zero_add, List.getElem?_cons_succ, List.getElem?_cons_zero, Option.some.injEq] at hq
        subst hq
        exact h.2.2.1
    | succ i =>
      simp only [List.getElem?_cons_succ] at hp hq
      exact ih h.2.2 hp hq

/-- the range ends with the last placement, which has no padding -/
theorem last (h : Fills start placements stop) {p : Placement} (hp : placements.getLast? = some p) :
    p.offset + p.size = stop ∧ p.padding = 0 := by
  induction placements generalizing start with
  | nil => simp at hp
  | cons q rest ih =>
    cases rest with
    | nil =>
      simp only [List.getLast?_singleton, Option.some.injEq] at hp
      subst hp
      have hpad := h.2.1 rfl
      have hstop : q.offset + q.size + 4 * q.padding = stop := h.2.2
      omega
    | cons r rest =>
      rw [List.getLast?_cons_cons] at hp
      exact ih h.2.2 hp

/-- only the last placement is without padding for want of a next one -/
theorem mem_dropLast (h : Fills start placements stop) {p : Placement} (hp : p ∈ placements) (hpad : p.padding ≠ 0) :
    p ∈ placements.dropLast := by
  obtain ⟨q, hq⟩ : ∃ q, placements.getLast? = some q := by
    cases hlast : placements.getLast? with
    | some q => exact ⟨q, rfl⟩
    | none =>
      rw [List.getLast?_eq_none_iff] at hlast
      simp [hlast] at hp
  obtain ⟨front, rfl⟩ := List.getLast?_eq_some_iff.1 hq
  rw [List.dropLast_concat]
  rcases List.mem_append.1 hp with hp | hp
  · exact hp
  · rw [List.mem_singleton] at hp
    exact absurd (h.last hq).2 (hp ▸ hpad)

theorem head (h : Fills start placements stop) {p : Placement} (hp : placements.head? = some p) :
    p.offset = start := by
  cases placements with
  | nil => simp at hp
  | cons q rest =>
    simp only [List.head?_cons, Option.some.injEq] at hp
    exact hp ▸ h.1

end Fills

/-! ## The whole struct -/

/-- a layout is built from a placement that starts at 0, rounded up to the granule, with a tail in whole words -/
theorem build_eq_ok {name : String} {members : List (Member × Extent)} {layout : StructLayout} :
    StructLayout.build name block members = .ok layout ↔
      ∃ stop, place name block 0 0 members = .ok (layout.placements, stop) ∧
        Size.roundUp stop structGranule < Size.limit ∧
        layout.byteSize = Size.roundUp stop structGranule ∧
        layout.byteSize = stop + 4 * layout.tail ∧
        layout.name = name ∧ layout.maxAlign = block := by
  simp only [StructLayout.build, bind_eq_ok, sizeIn_eq_ok, paddingWords_eq_ok, Prod.exists, Except.ok.injEq]
  constructor
  · rintro ⟨placements, stop, hplace, _, ⟨hlimit, rfl⟩, tail, htail, rfl⟩
    have := Size.le_roundUp stop structGranule
    exact ⟨stop, hplace, hlimit, rfl, by simp only; omega, rfl, rfl⟩
  · rintro ⟨stop, hplace, hlimit, hsize, htail, rfl, rfl⟩
    exact ⟨_, stop, hplace, _, ⟨hlimit, rfl⟩, layout.tail, by omega, by rw [← hsize]⟩

/-- a built layout is filled by its placements and its tail -/
theorem fills_of_build {name : String} {members : List (Member × Extent)} {layout : StructLayout}
    (h : StructLayout.build name block members = .ok layout) :
    ∃ stop, Fills 0 layout.placements stop ∧ layout.byteSize = stop + 4 * layout.tail := by
  obtain ⟨stop, hplace, -, -, htail, -, -⟩ := build_eq_ok.1 h
  exact ⟨stop, fills_of_place hplace, htail⟩

end ShaderInterface
