/-
When a struct is refused as too large.

Placing the members counts two ends, that of the padding rule and the canonical one, where every member is aligned to its
own type. The layout follows the first and only reports the members for which the second differs. Both counts must stay
sizes, however, and where members of 12 bytes are aligned to 16 the canonical end runs ahead. So a struct is refused as
too large if the padding rule gives it a size that does not fit, and also if the canonical end alone does not fit.

- `PaddingRule.structSize`, `PaddingRule.gaps`: the size of a struct by the padding rule, and all gaps that it leaves, in
  unbounded numbers.
- `faults_place`, `faults_build`: what a placement fails with is a count that does not fit or a gap of part words.
- `build_isOk_iff`: a struct is laid out exactly if both counts fit and every gap is whole words.
- `structTooLarge_causes`: what the error says of the sizes of a struct, over every source.
- `fitting_struct_refused`: a struct of 4294967280 bytes is refused.
-/
import ShaderInterface.Proofs.Layout.PaddingRule
import ShaderInterface.Proofs.Layout.WgslRule

namespace ShaderInterface

open Outcome

/-! ## Sizes by the padding rule -/

namespace PaddingRule

/-- where the first of these members begins behind `stop`, or `stop` if there are none -/
def first (block stop : Nat) : List Extent → Nat
  | [] => stop
  | e :: _ => start block stop e.size

/-- where the last of these members ends, placed behind `stop` -/
def finish (block stop : Nat) : List Extent → Nat
  | [] => stop
  | e :: rest => finish block (start block stop e.size + e.size) rest

/-- the bytes left free before each of these members, placed behind `stop`, and behind the last -/
def gaps (block stop : Nat) : List Extent → List Nat
  | [] => [Size.roundUp stop structGranule - stop]
  | e :: rest => (start block stop e.size - stop) :: gaps block (start block stop e.size + e.size) rest

/-- the size that the rule gives a struct whose members have these extents -/
def structSize (extents : List Extent) : Nat :=
  Size.roundUp (finish (largestAlign extents) 0 extents) structGranule

/-- the gaps that the rule leaves in a struct whose members have these extents -/
def structGaps (extents : List Extent) : List Nat := gaps (largestAlign extents) 0 extents

theorem first_zero (block : Nat) (extents : List Extent) : first block 0 extents = 0 := by
  cases extents with
  | nil => rfl
  | cons e rest => simp [first, start, Size.roundUp_of_zero]

theorem le_finish (block stop : Nat) (extents : List Extent) : stop ≤ finish block stop extents := by
  induction extents generalizing stop with
  | nil => exact Nat.le_refl stop
  | cons e rest ih =>
    calc stop ≤ start block stop e.size := le_start block stop e.size
      _ ≤ start block stop e.size + e.size := Nat.le_add_right _ _
      _ ≤ finish block stop (e :: rest) := ih _

/-- the gap at the end is one of the gaps -/
theorem tail_mem_gaps (block stop : Nat) (extents : List Extent) :
    Size.roundUp (finish block stop extents) structGranule - finish block stop extents ∈ gaps block stop extents := by
  induction extents generalizing stop with
  | nil => exact List.mem_cons_self
  | cons e rest ih => exact List.mem_cons_of_mem _ (ih _)

end PaddingRule

theorem le_alignedStop (stop : Nat) (extents : List Extent) : stop ≤ alignedStop stop extents := by
  induction extents generalizing stop with
  | nil => exact Nat.le_refl stop
  | cons e rest ih =>
    calc stop ≤ Size.roundUp stop e.align := Size.le_roundUp stop e.align
      _ ≤ Size.roundUp stop e.align + e.size := Nat.le_add_right _ _
      _ ≤ alignedStop stop (e :: rest) := ih _

/-! ## What a placement fails with -/

/-- a count of members placed behind `stop` does not fit, or one of their gaps is part of a word -/
def PlacementFault (owner : String) (block stop canonical : Nat) (extents : List Extent) : Error → Prop
  | .structTooLarge name => name = owner ∧
      (Size.limit ≤ Size.roundUp (PaddingRule.finish block stop extents) structGranule ∨
        Size.limit ≤ alignedStop canonical extents)
  | .subWordPadding name _ bytes => name = owner ∧ bytes ∈ PaddingRule.gaps block stop extents ∧ ¬ 4 ∣ bytes
  | _ => False

theorem faults_sizeIn (owner : String) (n : Nat) :
    FailsWith (fun e => e = .structTooLarge owner ∧ Size.limit ≤ n) (sizeIn owner n) := by
  unfold sizeIn Size.fits?
  by_cases h : n < Size.limit
  · rw [if_pos h]
    exact failsWith_ok n
  · rw [if_neg h]
    exact failsWith_error ⟨rfl, Nat.le_of_not_lt h⟩

theorem faults_paddingWords (owner after : String) (bytes : Nat) :
    FailsWith (fun e => e = .subWordPadding owner after bytes ∧ ¬ 4 ∣ bytes) (paddingWords owner after bytes) := by
  unfold paddingWords Size.words?
  by_cases h : bytes % 4 = 0
  · rw [if_pos h]
    exact failsWith_ok _
  · rw [if_neg h]
    exact failsWith_error ⟨rfl, fun hdvd => h (Nat.mod_eq_zero_of_dvd hdvd)⟩

section Placing

variable {owner : String} {block stop offset canonical : Nat} {members : List (Member × Extent)}

/-- padding leads to where the rule puts the next member -/
theorem first_of_paddingBefore {after : String} {padding : Nat}
    (h : paddingBefore owner after block stop members = .ok padding) :
    stop + 4 * padding = PaddingRule.first block stop (members.map Prod.snd) := by
  cases members with
  | nil =>
    obtain rfl := Except.ok.inj h
    rfl
  | cons next rest => exact (paddingBetween_eq_ok.1 h).2

/-- padding fails where the boundary is no size, and then the rounded end is none either, or for part of a word -/
theorem faults_paddingBefore (hblock : block ≠ 0 → block ∣ structGranule) (after : String) :
    FailsWith (PlacementFault owner block stop canonical (members.map Prod.snd))
      (paddingBefore owner after block stop members) := by
  cases members with
  | nil => exact failsWith_ok 0
  | cons next rest =>
    refine (FailsWith.imp ?_ (faults_sizeIn owner (Size.roundUp stop block))).bind fun boundary hboundary => ?_
    · intro e he
      obtain ⟨rfl, hlimit⟩ := he
      refine ⟨rfl, .inl (Nat.le_trans hlimit (Size.roundUp_le ?_ fun hne => ?_))⟩
      · exact Nat.le_trans (PaddingRule.le_finish block stop _) (Size.le_roundUp _ _)
      · exact Nat.dvd_trans (hblock hne) (Size.dvd_roundUp _ (by decide))
    · obtain ⟨-, rfl⟩ := sizeIn_eq_ok.1 hboundary
      split
      · next hcross =>
        refine (faults_paddingWords owner after _).imp fun e he => ?_
        obtain ⟨rfl, hpart⟩ := he
        refine ⟨rfl, ?_, hpart⟩
        rw [List.map_cons, PaddingRule.gaps, PaddingRule.start, if_pos hcross]
        exact List.mem_cons_self
      · exact failsWith_ok 0

/-- a fault among the later members is one among all of them -/
theorem PlacementFault.cons {e : Extent} {extents : List Extent} {fault : Error}
    (h : PlacementFault owner block (PaddingRule.start block stop e.size + e.size)
      (Size.roundUp canonical e.align + e.size) extents fault) :
    PlacementFault owner block stop canonical (e :: extents) fault := by
  cases fault with
  | structTooLarge name => exact h
  | subWordPadding name after bytes => exact ⟨h.1, List.mem_cons_of_mem _ h.2.1, h.2.2⟩
  | _ => exact h

/-- **What a placement fails with**, member by member. -/
theorem faults_place (hblock : block ≠ 0 → block ∣ structGranule)
    (hoffset : offset = PaddingRule.first block stop (members.map Prod.snd)) :
    FailsWith (PlacementFault owner block stop canonical (members.map Prod.snd))
      (place owner block offset canonical members) := by
  induction members generalizing stop offset canonical with
  | nil => exact failsWith_ok _
  | cons m rest ih =>
    obtain ⟨member, extent⟩ := m
    subst hoffset
    -- the canonical count is at least this when the last member is counted
    have hcanonical : ∀ n, n ≤ Size.roundUp canonical extent.align + extent.size → ∀ e,
        e = .structTooLarge owner ∧ Size.limit ≤ n →
          PlacementFault owner block stop canonical (extent :: rest.map Prod.snd) e := by
      intro n hn e he
      obtain ⟨rfl, hlimit⟩ := he
      exact ⟨rfl, .inr (Nat.le_trans hlimit (Nat.le_trans hn (le_alignedStop _ _)))⟩
    refine ((faults_sizeIn owner _).imp (hcanonical _ (Nat.le_add_right _ _))).bind fun canonicalOffset h1 => ?_
    obtain ⟨-, rfl⟩ := sizeIn_eq_ok.1 h1
    refine ((faults_sizeIn owner _).imp (hcanonical _ (Nat.le_refl _))).bind fun canonicalStop h2 => ?_
    obtain ⟨-, rfl⟩ := sizeIn_eq_ok.1 h2
    refine (FailsWith.imp ?_ (faults_sizeIn owner _)).bind fun end_ h3 => ?_
    · intro e he
      obtain ⟨rfl, hlimit⟩ := he
      refine ⟨rfl, .inl (Nat.le_trans hlimit (Nat.le_trans ?_ (Size.le_roundUp _ _)))⟩
      exact PaddingRule.le_finish _ _ _
    obtain ⟨-, rfl⟩ := sizeIn_eq_ok.1 h3
    refine ((faults_paddingBefore hblock _).imp fun e he => PlacementFault.cons he).bind fun padding h4 => ?_
    exact ((ih (first_of_paddingBefore h4)).imp fun e he => PlacementFault.cons he).bind fun placed _ => failsWith_ok _

/-- what a placement that succeeds has counted -/
theorem counts_of_place {placements : List Placement} {finish : Nat}
    (h : place owner block offset canonical members = .ok (placements, finish))
    (hoffset : offset = PaddingRule.first block stop (members.map Prod.snd)) (hgap : 4 ∣ offset - stop)
    (hcanonical : canonical < Size.limit) :
    finish = PaddingRule.finish block stop (members.map Prod.snd) ∧
      alignedStop canonical (members.map Prod.snd) < Size.limit ∧
      (4 ∣ Size.roundUp finish structGranule - finish →
        ∀ gap ∈ PaddingRule.gaps block stop (members.map Prod.snd), 4 ∣ gap) := by
  induction members generalizing stop offset canonical placements with
  | nil =>
    obtain ⟨-, rfl⟩ := place_nil_eq_ok.1 h
    subst hoffset
    exact ⟨rfl, hcanonical, fun htail => List.forall_mem_singleton.2 htail⟩
  | cons m rest ih =>
    obtain ⟨-, hstop, -, padding, others, hpadding, hrest, -⟩ := place_cons_eq_ok.1 h
    subst hoffset
    have hnext : 4 ∣ PaddingRule.start block stop m.2.size + m.2.size + 4 * padding -
        (PaddingRule.start block stop m.2.size + m.2.size) := ⟨padding, Nat.add_sub_cancel_left _ _⟩
    obtain ⟨hfinish, haligned, hwhole⟩ := ih hrest (first_of_paddingBefore hpadding) hnext hstop
    exact ⟨hfinish, haligned, fun htail => List.forall_mem_cons.2 ⟨hgap, hwhole htail⟩⟩

end Placing

/-! ## The whole struct -/

/-- both counts of a struct whose members have these extents fit, and its gaps are whole words -/
structure PaddingRule.Fits (extents : List Extent) : Prop where
  size : structSize extents < Size.limit
  canonical : alignedStop 0 extents < Size.limit
  words : ∀ gap ∈ structGaps extents, 4 ∣ gap

section Building

variable {name : String} {block : Nat} {members : List (Member × Extent)} {extents : List Extent}

/-- **What building a layout fails with.** -/
theorem faults_build (hblock : block ≠ 0 → block ∣ structGranule) :
    FailsWith (PlacementFault name block 0 0 (members.map Prod.snd)) (StructLayout.build name block members) := by
  refine (faults_place hblock (PaddingRule.first_zero block _).symm).bind fun placed h => ?_
  obtain ⟨placements, stop⟩ := placed
  obtain ⟨hstop, -, -⟩ := counts_of_place h (PaddingRule.first_zero block _).symm (Nat.dvd_zero 4) (by decide)
  refine (FailsWith.imp ?_ (faults_sizeIn name _)).bind fun byteSize hsize => ?_
  · intro e he
    obtain ⟨rfl, hlimit⟩ := he
    exact ⟨rfl, .inl (hstop ▸ hlimit)⟩
  · obtain ⟨-, rfl⟩ := sizeIn_eq_ok.1 hsize
    refine (FailsWith.imp ?_ (faults_paddingWords name _ _)).bind fun tail _ => failsWith_ok _
    intro e he
    obtain ⟨rfl, hpart⟩ := he
    exact ⟨rfl, hstop ▸ PaddingRule.tail_mem_gaps block 0 _, hpart⟩

/-- a struct that is laid out has the size by the rule -/
theorem structSize_of_build (hextents : members.map Prod.snd = extents) {layout : StructLayout}
    (h : StructLayout.build name (largestAlign extents) members = .ok layout) :
    layout.byteSize = PaddingRule.structSize extents := by
  obtain ⟨stop, hplace, -, hsize, -, -, -⟩ := build_eq_ok.1 h
  obtain ⟨hstop, -, -⟩ := counts_of_place hplace (PaddingRule.first_zero _ _).symm (Nat.dvd_zero 4) (by decide)
  rw [hsize, PaddingRule.structSize, hstop, hextents]

/-- **A struct is laid out exactly if its counts fit**: the size by the padding rule and the canonical end are sizes, and
every gap is a whole number of words. -/
theorem build_isOk_iff (hextents : members.map Prod.snd = extents)
    (hblock : largestAlign extents ≠ 0 → largestAlign extents ∣ structGranule) :
    (∃ layout, StructLayout.build name (largestAlign extents) members = .ok layout) ↔ PaddingRule.Fits extents := by
  constructor
  · intro h
    obtain ⟨layout, h⟩ := h
    have hrule := structSize_of_build hextents h
    obtain ⟨stop, hplace, hlimit, hsize, htail, -, -⟩ := build_eq_ok.1 h
    obtain ⟨-, haligned, hwhole⟩ := counts_of_place hplace (PaddingRule.first_zero _ _).symm (Nat.dvd_zero 4) (by decide)
    rw [hextents] at haligned hwhole
    refine ⟨?_, haligned, hwhole ⟨layout.tail, ?_⟩⟩
    · rwa [← hrule, hsize]
    · rw [← hsize, htail, Nat.add_sub_cancel_left]
  · intro hfits
    cases hbuild : StructLayout.build name (largestAlign extents) members with
    | ok layout => exact ⟨layout, rfl⟩
    | error fault =>
      have hfault := faults_build hblock fault hbuild
      rw [hextents] at hfault
      cases fault with
      | structTooLarge owner =>
        rcases hfault.2 with hlimit | hlimit
        · exact absurd hfits.size (Nat.not_lt.2 hlimit)
        · exact absurd hfits.canonical (Nat.not_lt.2 hlimit)
      | subWordPadding owner after bytes => exact absurd (hfits.words bytes hfault.2.1) hfault.2.2
      | _ => exact hfault.elim

end Building

namespace LayoutTable

variable {table : LayoutTable} {decl : StructDecl} {members : List (Member × Extent)} {name : String}

/-- types that have extents have a largest alignment -/
theorem exists_maxAlign {types : List TypeExpr} (h : ∀ type ∈ types, ∃ e, table.describe type = .ok e) :
    ∃ block, table.maxAlign decl types = .ok block := by
  induction types with
  | nil => exact ⟨0, rfl⟩
  | cons type rest ih =>
    obtain ⟨⟨e, he⟩, hrest⟩ := List.forall_mem_cons.1 h
    obtain ⟨others, hothers⟩ := ih hrest
    exact ⟨_, maxAlign_cons_eq_ok.2 ⟨e, others, (Within.refl table).extentOf he, hothers, rfl⟩⟩

/-- members that have extents have a block -/
theorem maxAlign_of_memberExtents (hlists : decl.ListsTypes)
    (hmembers : table.memberExtents decl.name decl.members = .ok members) :
    table.maxAlign decl decl.types = .ok (largestAlign (members.map Prod.snd)) := by
  have hdescribe := describe_of_memberExtents (.refl table) hmembers
  have hfst := memberExtents_members hmembers
  have htypes : ∀ type ∈ decl.types, ∃ e, table.describe type = .ok e := by
    intro type htype
    rw [hlists, mem_distinctAfter, ← hfst, List.map_map, List.mem_map] at htype
    obtain ⟨⟨m, hm, rfl⟩, -⟩ := htype
    exact ⟨m.2, hdescribe m hm⟩
  obtain ⟨block, hblock⟩ := exists_maxAlign htypes
  rw [hblock, maxAlign_eq_largestAlign (.refl table) hlists hblock hfst hdescribe]

/-- so laying a struct out is building the layout of its members -/
theorem layout_eq_build (hlists : decl.ListsTypes)
    (hmembers : table.memberExtents decl.name decl.members = .ok members) :
    table.layout decl = StructLayout.build decl.name (largestAlign (members.map Prod.snd)) members := by
  rw [LayoutTable.layout, maxAlign_of_memberExtents hlists hmembers, hmembers]
  rfl

/-- the block of a struct divides the granule, over a table of regular structs -/
theorem largestAlign_dvd_granule (hreg : table.Regular) (hlists : decl.ListsTypes)
    (hmembers : table.memberExtents decl.name decl.members = .ok members)
    (hne : largestAlign (members.map Prod.snd) ≠ 0) : largestAlign (members.map Prod.snd) ∣ structGranule :=
  align_dvd_granule (maxAlign_mem hreg (maxAlign_of_memberExtents hlists hmembers)) hne

/-- **A struct is too large for a count of its members**, whose extents are known then. -/
theorem counts_of_tooLarge (hreg : table.Regular) (hlists : decl.ListsTypes)
    (h : table.layout decl = .error (.structTooLarge name)) :
    decl.name = name ∧ ∃ members, table.memberExtents decl.name decl.members = .ok members ∧
      (Size.limit ≤ PaddingRule.structSize (members.map Prod.snd) ∨
        Size.limit ≤ alignedStop 0 (members.map Prod.snd)) := by
  rcases bind_eq_error.1 h with hblock | ⟨_, -, hrest⟩
  · exact (table.faults_maxAlign _ _ _ hblock).elim
  rcases bind_eq_error.1 hrest with hextents | ⟨members, hmembers, -⟩
  · exact (table.faults_memberExtents _ _ _ hextents).elim
  rw [layout_eq_build hlists hmembers] at h
  obtain ⟨rfl, hcounts⟩ := faults_build (largestAlign_dvd_granule hreg hlists hmembers) _ h
  exact ⟨rfl, members, hmembers, hcounts⟩

/-- a count that does not fit makes a struct too large if no gap is part of a word -/
theorem tooLarge_of_counts (hreg : table.Regular) (hlists : decl.ListsTypes)
    (hmembers : table.memberExtents decl.name decl.members = .ok members)
    (hwords : ∀ gap ∈ PaddingRule.structGaps (members.map Prod.snd), 4 ∣ gap)
    (hcounts : Size.limit ≤ PaddingRule.structSize (members.map Prod.snd) ∨
      Size.limit ≤ alignedStop 0 (members.map Prod.snd)) :
    table.layout decl = .error (.structTooLarge decl.name) := by
  have hblock := largestAlign_dvd_granule hreg hlists hmembers
  rw [layout_eq_build hlists hmembers]
  cases hbuild : StructLayout.build decl.name (largestAlign (members.map Prod.snd)) members with
  | ok layout =>
    obtain ⟨hsize, hcanonical, -⟩ := (build_isOk_iff rfl hblock).1 ⟨layout, hbuild⟩
    rcases hcounts with hlimit | hlimit
    · exact absurd hsize (Nat.not_lt.2 hlimit)
    · exact absurd hcanonical (Nat.not_lt.2 hlimit)
  | error fault =>
    have hfault := faults_build hblock fault hbuild
    cases fault with
    | structTooLarge owner => rw [hfault.1]
    | subWordPadding owner after bytes => exact absurd (hwords bytes hfault.2.1) hfault.2.2
    | _ => exact hfault.elim

/-! ## Sources -/

/-- laying out the declarations comes to a new struct, and its members have these extents over the table so far -/
structure Reaches (constants : Table String Nat) (decls : List StructDecl) (table : LayoutTable) (decl : StructDecl)
    (extents : List Extent) : Prop where
  front : ∃ front back, decls = front ++ decl :: back ∧ ofDecls constants front = .ok table
  new : table.get? decl.name = none
  sized : ∃ members, table.memberExtents decl.name decl.members = .ok members ∧ extents = members.map Prod.snd

end LayoutTable

/-- **What it means that a struct is too large.** The structs of a source fail for a struct's size only if the size by the
padding rule or the canonical end of that struct does not fit, and do so wherever one does not and the gaps are whole
words. So the size by the rule does not fit unless the canonical end does not. -/
theorem structTooLarge_causes {source : String} {decls : List StructDecl} (constants : Table String Nat)
    (hparse : StructDecl.parseAll source = .ok decls) :
    (∀ name, LayoutTable.ofDecls constants decls = .error (.structTooLarge name) →
        ∃ table decl extents, LayoutTable.Reaches constants decls table decl extents ∧ decl.name = name ∧
          (Size.limit ≤ PaddingRule.structSize extents ∨ Size.limit ≤ alignedStop 0 extents)) ∧
      ∀ table decl extents, LayoutTable.Reaches constants decls table decl extents →
        (∀ gap ∈ PaddingRule.structGaps extents, 4 ∣ gap) →
        (Size.limit ≤ PaddingRule.structSize extents ∨ Size.limit ≤ alignedStop 0 extents) →
          LayoutTable.ofDecls constants decls = .error (.structTooLarge decl.name) := by
  have hlists := listsTypes_of_parseAll hparse
  constructor
  · intro name h
    obtain ⟨front, decl, back, table, rfl, hfront, hadd⟩ := foldlM_eq_error.1 h
    obtain ⟨hnew, hlayout⟩ := LayoutTable.add_eq_error.1 hadd
    have hdecl : decl.ListsTypes := hlists decl (List.mem_append_right _ List.mem_cons_self)
    obtain ⟨hname, members, hmembers, hcounts⟩ :=
      LayoutTable.counts_of_tooLarge (LayoutTable.ofDecls_regular hfront) hdecl hlayout
    exact ⟨table, decl, _, ⟨⟨front, back, rfl, hfront⟩, hnew, members, hmembers, rfl⟩, hname, hcounts⟩
  · intro table decl extents hreaches hwords hcounts
    obtain ⟨⟨front, back, rfl, hfront⟩, hnew, members, hmembers, rfl⟩ := hreaches
    have hdecl : decl.ListsTypes := hlists decl (List.mem_append_right _ List.mem_cons_self)
    have hlayout := LayoutTable.tooLarge_of_counts (LayoutTable.ofDecls_regular hfront) hdecl hmembers hwords hcounts
    exact foldlM_eq_error.2 ⟨front, decl, back, table, rfl, hfront, LayoutTable.add_eq_error.2 ⟨hnew, hlayout⟩⟩

/-! ## A struct whose size does not fit, and one whose canonical end does not -/

/-- two arrays of 2147483648 bytes -/
def hugeSource : String := "struct Huge \x7b low: array<vec4f, 134217728>, high: array<vec4f, 134217728> \x7d"

def hugeDecls : List StructDecl :=
  [.ofMembers "Huge" [⟨"low", .array (.named "vec4f") (.fixed 134217728)⟩,
    ⟨"high", .array (.named "vec4f") (.fixed 134217728)⟩]]

theorem huge_structTooLarge_causes :
    StructDecl.parseAll hugeSource = .ok hugeDecls ∧
      LayoutTable.ofDecls .empty hugeDecls = .error (.structTooLarge "Huge") ∧
      ∃ table decl extents, LayoutTable.Reaches .empty hugeDecls table decl extents ∧ decl.name = "Huge" ∧
        (Size.limit ≤ PaddingRule.structSize extents ∨ Size.limit ≤ alignedStop 0 extents) := by
  have hparse : StructDecl.parseAll hugeSource = .ok hugeDecls := by decide +kernel
  have htoo : LayoutTable.ofDecls .empty hugeDecls = .error (.structTooLarge "Huge") := by decide +kernel
  exact ⟨hparse, htoo, (structTooLarge_causes .empty hparse).1 "Huge" htoo⟩

/-- `b`, `c` and `d` follow each other here, but are 4, 8 and 8 bytes further behind where all are aligned -/
def stripSource : String :=
  "struct Strip \x7b cells: array<f32, 1073741812>, a: f32, b: vec3f, c: vec2f, d: vec2f \x7d"

def stripDecls : List StructDecl :=
  [.ofMembers "Strip" [⟨"cells", .array (.named "f32") (.fixed 1073741812)⟩, ⟨"a", .named "f32"⟩,
    ⟨"b", .named "vec3f"⟩, ⟨"c", .named "vec2f"⟩, ⟨"d", .named "vec2f"⟩]]

def stripExtents : List Extent := [⟨4294967248, 4⟩, ⟨4, 4⟩, ⟨12, 16⟩, ⟨8, 8⟩, ⟨8, 8⟩]

/-- the struct is too large, and by the padding rule its size fits -/
theorem fitting_struct_refused :
    StructDecl.parseAll stripSource = .ok stripDecls ∧
      LayoutTable.ofDecls .empty stripDecls = .error (.structTooLarge "Strip") ∧
      (∀ decl ∈ stripDecls, LayoutTable.Reaches .empty stripDecls ⟨[], .empty⟩ decl stripExtents) ∧
      PaddingRule.structSize stripExtents = 4294967280 ∧ PaddingRule.structSize stripExtents < Size.limit := by
  have hextents : ∀ decl ∈ stripDecls,
      (LayoutTable.memberExtents ⟨[], .empty⟩ decl.name decl.members).map (·.map Prod.snd) = .ok stripExtents := by
    decide +kernel
  refine ⟨by decide +kernel, by decide +kernel, fun decl hd => ?_, by decide +kernel, by decide +kernel⟩
  obtain ⟨members, hmembers, hsnd⟩ := map_eq_ok.1 (hextents decl hd)
  obtain rfl := List.mem_singleton.1 hd
  exact ⟨⟨[], [], rfl, rfl⟩, rfl, members, hmembers, hsnd.symm⟩

end ShaderInterface
