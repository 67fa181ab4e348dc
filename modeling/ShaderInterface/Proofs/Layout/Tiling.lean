/-
The layout of a struct tiles its bytes.

- `Tiled`: the first member is at offset 0, each member ends before the next begins, and the last ends inside the struct,
  so that no two members overlap and none leaves the buffer.
- `Padded`: with proper names, which are not empty and pairwise distinct, the map of paddings accounts for every byte
  between members and behind the last, and holds nothing else.
- `layout_tiles`: every layout of a computed table is tiled, and padded if its names are proper.

The map is written member by member under the members' names. With proper names no entry replaces another
(`paddingAfter_member`, `paddingAfter_tail`); with a repeated name the map holds the later padding alone, which is why
`Padded` asks for them.
-/
import Mathlib.Data.List.Nodup
import ShaderInterface.Proofs.Layout.Declared
import ShaderInterface.Proofs.Table

namespace ShaderInterface

namespace StructLayout

/-- the names of the members, in order -/
def names (layout : StructLayout) : List String := layout.placements.map (·.member.name)

/-- no member is nameless and no two members share a name -/
structure ProperNames (layout : StructLayout) : Prop where
  nonempty : "" ∉ layout.names
  nodup : layout.names.Nodup

/-- the members lie in order, apart, and inside the struct -/
structure Tiled (layout : StructLayout) : Prop where
  head : ∀ p, layout.placements.head? = some p → p.offset = 0
  next : ∀ i p q, layout.placements[i]? = some p → layout.placements[i + 1]? = some q → p.offset + p.size ≤ q.offset
  last : ∀ p, layout.placements.getLast? = some p → p.offset + p.size ≤ layout.byteSize
  apart : layout.placements.Pairwise fun p q => p.offset + p.size ≤ q.offset
  inside : ∀ p ∈ layout.placements, p.offset + p.size ≤ layout.byteSize

/-- the map of paddings accounts for every byte that no member takes -/
structure Padded (layout : StructLayout) : Prop where
  next : ∀ i p q, layout.placements[i]? = some p → layout.placements[i + 1]? = some q →
    q.offset = p.offset + p.size + 4 * layout.paddingAfter p.member.name
  tail : ∀ p, layout.placements.getLast? = some p →
    layout.byteSize = p.offset + p.size + 4 * layout.paddingAfter ""
  last : ∀ p, layout.placements.getLast? = some p → layout.paddingAfter p.member.name = 0
  entries : ∀ e ∈ layout.paddings.entries,
    0 < e.2 ∧ (e.1 = "" ∨ ∃ p ∈ layout.placements.dropLast, e.1 = p.member.name)

variable {layout : StructLayout}

/-! ## The map of paddings -/

theorem mem_innerPaddings {name : String} {words : Nat} :
    (name, words) ∈ layout.innerPaddings ↔
      ∃ p ∈ layout.placements, p.padding ≠ 0 ∧ p.member.name = name ∧ p.padding = words := by
  simp [innerPaddings, and_assoc]

theorem mem_tailPadding {name : String} {words : Nat} :
    (name, words) ∈ layout.tailPadding ↔ name = "" ∧ words = layout.tail ∧ layout.tail ≠ 0 := by
  unfold tailPadding
  split
  · next h => simp [h]
  · next h => simp [h]

theorem innerPaddings_keys_sublist : (layout.innerPaddings.map Prod.fst).Sublist layout.names := by
  have : layout.innerPaddings.map Prod.fst = (layout.placements.filter (·.padding ≠ 0)).map (·.member.name) := by
    simp [innerPaddings]
  rw [this]
  exact List.filter_sublist.map _

/-- with proper names the map is written at each key once -/
theorem keys_nodup (hn : layout.ProperNames) :
    ((layout.innerPaddings ++ layout.tailPadding).map Prod.fst).Nodup := by
  rw [List.map_append, List.nodup_append]
  refine ⟨innerPaddings_keys_sublist.nodup hn.nodup, ?_, ?_⟩
  · unfold tailPadding
    split <;> simp
  · intro name hinner other htail heq
    obtain ⟨⟨key, words⟩, hmem, rfl⟩ := List.mem_map.1 htail
    obtain ⟨rfl, -, -⟩ := mem_tailPadding.1 hmem
    rw [heq] at hinner
    exact hn.nonempty (innerPaddings_keys_sublist.subset hinner)

theorem mem_entries (hn : layout.ProperNames) {e : String × Nat} :
    e ∈ layout.paddings.entries ↔ e ∈ layout.innerPaddings ∨ e ∈ layout.tailPadding := by
  rw [paddings, Table.ofList_entries (keys_nodup hn), List.mem_append]

/-- the map holds the padding of each member under the member's name -/
theorem paddingAfter_member (hn : layout.ProperNames) {p : Placement} (hp : p ∈ layout.placements) :
    layout.paddingAfter p.member.name = p.padding := by
  unfold paddingAfter paddings
  by_cases h0 : p.padding = 0
  · rw [Table.get?_ofList_of_notMem (keys_nodup hn), h0, Option.getD_none]
    intro hmem
    obtain ⟨⟨name, words⟩, hmem, hname⟩ := List.mem_map.1 hmem
    simp only at hname
    subst hname
    rcases List.mem_append.1 hmem with hmem | hmem
    · obtain ⟨q, hq, hpad, hname, -⟩ := mem_innerPaddings.1 hmem
      have hqp : q = p := List.inj_on_of_nodup_map hn.nodup hq hp hname
      exact hpad (hqp ▸ h0)
    · obtain ⟨hname, -, -⟩ := mem_tailPadding.1 hmem
      exact hn.nonempty (List.mem_map.2 ⟨p, hp, hname⟩)
  · have hmem : (p.member.name, p.padding) ∈ layout.innerPaddings ++ layout.tailPadding :=
      List.mem_append_left _ (mem_innerPaddings.2 ⟨p, hp, h0, rfl, rfl⟩)
    rw [Table.get?_ofList_of_mem (keys_nodup hn) hmem, Option.getD_some]

/-- the map holds the padding at the end under the empty name -/
theorem paddingAfter_tail (hn : layout.ProperNames) : layout.paddingAfter "" = layout.tail := by
  unfold paddingAfter paddings
  by_cases h0 : layout.tail = 0
  · rw [Table.get?_ofList_of_notMem (keys_nodup hn), h0, Option.getD_none]
    intro hmem
    obtain ⟨⟨name, words⟩, hmem, hname⟩ := List.mem_map.1 hmem
    simp only at hname
    subst hname
    rcases List.mem_append.1 hmem with hmem | hmem
    · obtain ⟨q, hq, -, hname, -⟩ := mem_innerPaddings.1 hmem
      exact hn.nonempty (List.mem_map.2 ⟨q, hq, hname⟩)
    · exact (mem_tailPadding.1 hmem).2.2 h0
  · have hmem : ("", layout.tail) ∈ layout.innerPaddings ++ layout.tailPadding :=
      List.mem_append_right _ (mem_tailPadding.2 ⟨rfl, rfl, h0⟩)
    rw [Table.get?_ofList_of_mem (keys_nodup hn) hmem, Option.getD_some]

/-! ## Tiling -/

/-- the placements fill the struct up to its tail -/
def Filled (layout : StructLayout) : Prop :=
  ∃ stop, Fills 0 layout.placements stop ∧ layout.byteSize = stop + 4 * layout.tail

theorem filled_of_computed {decls : List StructDecl} (h : LayoutTable.Computed decls layout) : layout.Filled := by
  obtain ⟨before, decl, -, -, hlay⟩ := h
  obtain ⟨block, members, -, -, hbuild⟩ := LayoutTable.layout_eq_ok.1 hlay
  exact fills_of_build hbuild

theorem Filled.tiled (h : layout.Filled) : layout.Tiled := by
  obtain ⟨stop, hfills, hsize⟩ := h
  refine ⟨fun p hp => hfills.head hp, ?_, ?_, hfills.pairwise, ?_⟩
  · intro i p q hp hq
    have hnext := hfills.next hp hq
    omega
  · intro p hp
    have hlast := (hfills.last hp).1
    omega
  · intro p hp
    have hinside := (hfills.inside hp).2
    omega

theorem Filled.padded (h : layout.Filled) (hn : layout.ProperNames) : layout.Padded := by
  obtain ⟨stop, hfills, hsize⟩ := h
  refine ⟨?_, ?_, ?_, ?_⟩
  · intro i p q hp hq
    rw [paddingAfter_member hn (List.mem_of_getElem? hp)]
    exact hfills.next hp hq
  · intro p hp
    rw [paddingAfter_tail hn, hsize, (hfills.last hp).1]
  · intro p hp
    rw [paddingAfter_member hn (List.mem_of_getLast? hp)]
    exact (hfills.last hp).2
  · rintro ⟨name, words⟩ he
    rcases (mem_entries hn).1 he with he | he
    · obtain ⟨p, hp, hpad, rfl, rfl⟩ := mem_innerPaddings.1 he
      exact ⟨Nat.pos_of_ne_zero hpad, Or.inr ⟨p, hfills.mem_dropLast hp hpad, rfl⟩⟩
    · obtain ⟨rfl, rfl, hpad⟩ := mem_tailPadding.1 he
      exact ⟨Nat.pos_of_ne_zero hpad, Or.inl rfl⟩

end StructLayout

/-- **Layout tiling.** Every layout of a computed table is tiled; with proper names its map of paddings says exactly how
far its members stand apart and how far the last one stands from the end. -/
theorem layout_tiles {constants : Table String Nat} {decls : List StructDecl} {table : LayoutTable}
    (h : LayoutTable.ofDecls constants decls = .ok table) {layout : StructLayout} (hl : layout ∈ table.layouts) :
    layout.Tiled ∧ (layout.ProperNames → layout.Padded) := by
  have hfilled := StructLayout.filled_of_computed (LayoutTable.computed_of_mem h layout hl)
  exact ⟨hfilled.tiled, hfilled.padded⟩

/-! ## A scene with padding inside and behind -/

/-- a constant length, an array of structs, and members of every alignment -/
def sceneDecls : List StructDecl :=
  [.ofMembers "Light" [⟨"power", .named "f32"⟩, ⟨"direction", .named "vec3f"⟩],
    .ofMembers "Scene" [⟨"time", .named "f32"⟩, ⟨"lights", .array (.named "Light") (.constant "COUNT")⟩,
      ⟨"shade", .named "vec2h"⟩, ⟨"view", .named "mat3x3<f32>"⟩, ⟨"screen", .named "vec2f"⟩]]

def sceneConstants : Table String Nat := .ofList [("COUNT", 3)]

def lightLayout : StructLayout :=
  ⟨"Light", 16, [⟨⟨"power", .named "f32"⟩, 0, 4, 0, 0⟩, ⟨⟨"direction", .named "vec3f"⟩, 4, 12, 16, 0⟩], 16, 0⟩

def sceneLayout : StructLayout :=
  ⟨"Scene", 16,
    [⟨⟨"time", .named "f32"⟩, 0, 4, 0, 3⟩, ⟨⟨"lights", .array (.named "Light") (.constant "COUNT")⟩, 16, 48, 16, 0⟩,
      ⟨⟨"shade", .named "vec2h"⟩, 64, 4, 64, 3⟩, ⟨⟨"view", .named "mat3x3<f32>"⟩, 80, 48, 80, 0⟩,
      ⟨⟨"screen", .named "vec2f"⟩, 128, 8, 128, 0⟩], 144, 2⟩

theorem ofDecls_scene :
    LayoutTable.ofDecls sceneConstants sceneDecls = .ok ⟨[lightLayout, sceneLayout], sceneConstants⟩ := rfl

theorem sceneLayout_properNames : sceneLayout.ProperNames := ⟨by decide, by decide⟩

theorem sceneLayout_tiles :
    LayoutTable.ofDecls sceneConstants sceneDecls = .ok ⟨[lightLayout, sceneLayout], sceneConstants⟩ ∧
      sceneLayout.Tiled ∧ sceneLayout.Padded := by
  have h := layout_tiles ofDecls_scene (List.mem_cons_of_mem _ List.mem_cons_self)
  exact ⟨ofDecls_scene, h.1, h.2 sceneLayout_properNames⟩

end ShaderInterface
