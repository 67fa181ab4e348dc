/-
Where runtime arrays stand.

A runtime array takes what is left of a buffer, so nothing may follow it. A member before the last is refused if its type
is a runtime array, and only then: the check reads the outermost array of the type. A runtime array that is an element of
a counted array, or the end of a nested struct, passes it and counts with the extent of the placeholder.

- `not_runtime_before_last`: no member before the last is itself a runtime array.
- `endsOpen_of_hasRuntime`: if no member before a last one hides a runtime array, a type has one only at its very end.
- `runtime_arrays_last`: then no member before the last has one at any depth, and not otherwise.
- `runtime_array_inside`: a source whose members before the last hide runtime arrays, and which is laid out.
-/
import ShaderInterface.Proofs.Layout.WgslRule

namespace ShaderInterface

open Outcome

namespace LayoutTable

/-! ## Runtime arrays at any depth -/

/-- a runtime array is part of the type: one of its own arrays, or part of a member of the struct that it names -/
inductive HasRuntime (table : LayoutTable) : TypeExpr → Prop where
  | array {type : TypeExpr} : type.isCounted = false → HasRuntime table type
  | member {type : TypeExpr} {layout : StructLayout} {m : Member} : table.named? type = some layout →
      m ∈ layout.members → HasRuntime table m.type → HasRuntime table type

/-- the same, looking at last members only -/
inductive EndsOpen (table : LayoutTable) : TypeExpr → Prop where
  | array {type : TypeExpr} : type.isCounted = false → EndsOpen table type
  | last {type : TypeExpr} {layout : StructLayout} {m : Member} : table.named? type = some layout →
      layout.members.getLast? = some m → EndsOpen table m.type → EndsOpen table type

/-- a runtime array that the outermost array of the type does not show: below it, or at the end of the struct that the
type names -/
inductive HidesRuntime (table : LayoutTable) : TypeExpr → Prop where
  | element {element : TypeExpr} {length : ArrayLength} : element.isCounted = false →
      HidesRuntime table (.array element length)
  | struct {type : TypeExpr} {layout : StructLayout} {m : Member} : table.named? type = some layout →
      layout.members.getLast? = some m → table.EndsOpen m.type → HidesRuntime table type

variable {table : LayoutTable} {type : TypeExpr} {layout : StructLayout}

theorem EndsOpen.hasRuntime (h : table.EndsOpen type) : table.HasRuntime type := by
  induction h with
  | array hcounted => exact .array hcounted
  | last hnamed hlast _ ih => exact .member hnamed (List.mem_of_getLast? hlast) ih

theorem HidesRuntime.endsOpen (h : table.HidesRuntime type) : table.EndsOpen type := by
  cases h with
  | @element element length hcounted =>
    refine .array ?_
    cases length with
    | runtime => rfl
    | _ => exact hcounted
  | struct hnamed hlast hopen => exact .last hnamed hlast hopen

/-- what is open at its end shows it or hides it -/
theorem EndsOpen.shown_or_hidden (h : table.EndsOpen type) : type.isRuntimeArray = true ∨ table.HidesRuntime type := by
  cases h with
  | array hcounted =>
    cases type with
    | named name => simp [TypeExpr.isCounted] at hcounted
    | array element length =>
      cases length with
      | runtime => exact .inl rfl
      | _ => exact .inr (.element hcounted)
  | last hnamed hlast hopen => exact .inr (.struct hnamed hlast hopen)

/-- a type that names no struct has no end but its own -/
theorem not_endsOpen (hcounted : type.isCounted = true) (hnamed : table.named? type = none) : ¬ table.EndsOpen type := by
  intro h
  cases h with
  | array hruntime => simp [hcounted] at hruntime
  | last hstruct => simp [hnamed] at hstruct

/-- a type with no runtime array of its own hides one only in its struct -/
theorem not_hidesRuntime (hcounted : type.isCounted = true)
    (hlast : ∀ layout m, table.named? type = some layout → layout.members.getLast? = some m → ¬ table.EndsOpen m.type) :
    ¬ table.HidesRuntime type := by
  intro h
  cases h with
  | element helement => simp [TypeExpr.isCounted_array hcounted] at helement
  | struct hnamed hm hopen => exact hlast _ _ hnamed hm hopen

/-! ## The check -/

theorem memberExtents_dropLast {owner : String} {members : List Member} {extents : List (Member × Extent)}
    (h : table.memberExtents owner members = .ok extents) : ∀ m ∈ members.dropLast, m.type.isRuntimeArray = false := by
  induction members generalizing extents with
  | nil => exact List.forall_mem_nil _
  | cons m rest ih =>
    obtain ⟨hplace, -, others, -, hothers, -⟩ := memberExtents_cons_eq_ok.1 h
    cases rest with
    | nil => exact List.forall_mem_nil _
    | cons next rest =>
      refine List.forall_mem_cons.2 ⟨?_, ih hothers⟩
      simpa using hplace

/-- **No member before the last is a runtime array**, in any struct of a computed table. -/
theorem not_runtime_before_last {constants : Table String Nat} {decls : List StructDecl}
    (h : ofDecls constants decls = .ok table) (hl : layout ∈ table.layouts) :
    ∀ m ∈ layout.members.dropLast, m.type.isRuntimeArray = false := by
  obtain ⟨part, decl, -, -, hlayout⟩ := laidOut_of_mem h layout hl
  obtain ⟨-, extents, -, hextents, -⟩ := layout_eq_ok.1 hlayout
  rw [(layout_members hlayout).2]
  exact memberExtents_dropLast hextents

theorem mem_dropLast_or_getLast? {α : Type} {l : List α} {a : α} (h : a ∈ l) : a ∈ l.dropLast ∨ l.getLast? = some a := by
  rcases List.eq_nil_or_concat l with rfl | ⟨front, last, rfl⟩
  · simp at h
  · rw [List.concat_eq_append] at h ⊢
    rw [List.dropLast_concat, List.getLast?_concat, Option.some.injEq, eq_comm (b := a)]
    simpa using h

/-- **A runtime array stands at the very end of a type**, or else before the end of some struct there is one that is not
shown. The induction is on where the runtime array is found. -/
theorem endsOpen_of_hasRuntime
    (hshown : ∀ layout ∈ table.layouts, ∀ m ∈ layout.members.dropLast, m.type.isRuntimeArray = false)
    (hhidden : ∀ layout ∈ table.layouts, ∀ m ∈ layout.members.dropLast, ¬ table.HidesRuntime m.type)
    (h : table.HasRuntime type) : table.EndsOpen type := by
  induction h with
  | array hcounted => exact .array hcounted
  | @member type layout m hnamed hm _ ih =>
    rcases mem_dropLast_or_getLast? hm with hbefore | hlast
    · have hl := mem_of_named?_eq_some hnamed
      rcases ih.shown_or_hidden with hruntime | hhides
      · exact absurd hruntime (Bool.not_eq_true _ ▸ hshown layout hl m hbefore)
      · exact absurd hhides (hhidden layout hl m hbefore)
    · exact .last hnamed hlast ih

end LayoutTable

/-- **Runtime arrays stand last**, unless they are hidden. No member before the last of a laid out struct is itself a
runtime array. None has a runtime array at any depth exactly if none hides one as an element of another array or at the end
of the struct that it names. -/
theorem runtime_arrays_last {constants : Table String Nat} {decls : List StructDecl} {table : LayoutTable}
    (h : LayoutTable.ofDecls constants decls = .ok table) :
    (∀ layout ∈ table.layouts, ∀ m ∈ layout.members.dropLast, m.type.isRuntimeArray = false) ∧
      ((∀ layout ∈ table.layouts, ∀ m ∈ layout.members.dropLast, ¬ table.HasRuntime m.type) ↔
        ∀ layout ∈ table.layouts, ∀ m ∈ layout.members.dropLast, ¬ table.HidesRuntime m.type) := by
  have hshown : ∀ layout ∈ table.layouts, ∀ m ∈ layout.members.dropLast, m.type.isRuntimeArray = false :=
    fun layout hl => LayoutTable.not_runtime_before_last h hl
  refine ⟨hshown, ?_, ?_⟩
  · intro hnone layout hl m hm hhides
    exact hnone layout hl m hm hhides.endsOpen.hasRuntime
  · intro hhidden layout hl m hm hhas
    rcases (LayoutTable.endsOpen_of_hasRuntime hshown hhidden hhas).shown_or_hidden with hruntime | hhides
    · exact absurd hruntime (Bool.not_eq_true _ ▸ hshown layout hl m hm)
    · exact hhidden layout hl m hm hhides

/-! ## A flock, with its birds at the end -/

def flockSource : String :=
  "struct Bird \x7b at: vec3f, speed: f32 \x7d
   struct Flock \x7b leader: Bird, pair: array<Bird,2>, birds: array<Bird> \x7d"

def flockDecls : List StructDecl :=
  [.ofMembers "Bird" [⟨"at", .named "vec3f"⟩, ⟨"speed", .named "f32"⟩],
    .ofMembers "Flock" [⟨"leader", .named "Bird"⟩, ⟨"pair", .array (.named "Bird") (.fixed 2)⟩,
      ⟨"birds", .array (.named "Bird") .runtime⟩]]

def birdLayout : StructLayout :=
  ⟨"Bird", 16, [⟨⟨"at", .named "vec3f"⟩, 0, 12, 0, 0⟩, ⟨⟨"speed", .named "f32"⟩, 12, 4, 12, 0⟩], 16, 0⟩

def flockLayout : StructLayout :=
  ⟨"Flock", 16, [⟨⟨"leader", .named "Bird"⟩, 0, 16, 0, 0⟩, ⟨⟨"pair", .array (.named "Bird") (.fixed 2)⟩, 16, 32, 16, 0⟩,
    ⟨⟨"birds", .array (.named "Bird") .runtime⟩, 48, 16, 48, 0⟩], 64, 0⟩

def flockTable : LayoutTable := ⟨[birdLayout, flockLayout], .empty⟩

theorem flock_runtime_arrays_last :
    StructDecl.parseAll flockSource = .ok flockDecls ∧ LayoutTable.ofDecls .empty flockDecls = .ok flockTable ∧
      (∀ layout ∈ flockTable.layouts, ∀ m ∈ layout.members.dropLast, ¬ flockTable.HasRuntime m.type) ∧
      ∃ m, flockLayout.members.getLast? = some m ∧ flockTable.HasRuntime m.type := by
  have hparse : StructDecl.parseAll flockSource = .ok flockDecls := by decide +kernel
  have h : LayoutTable.ofDecls .empty flockDecls = .ok flockTable := by decide +kernel
  -- the members before a last one name no struct or a bird, which ends in a number
  have hbird : ∀ layout m, some birdLayout = some layout → layout.members.getLast? = some m →
      ¬ flockTable.EndsOpen m.type := by
    intro layout m hlayout hm
    obtain rfl := Option.some.inj hlayout
    obtain rfl : ⟨"speed", .named "f32"⟩ = m := Option.some.inj hm
    exact LayoutTable.not_endsOpen rfl rfl
  have hat : ¬ flockTable.HidesRuntime (.named "vec3f") := LayoutTable.not_hidesRuntime rfl nofun
  have hleader : ¬ flockTable.HidesRuntime (.named "Bird") := LayoutTable.not_hidesRuntime rfl hbird
  have hpair : ¬ flockTable.HidesRuntime (.array (.named "Bird") (.fixed 2)) := LayoutTable.not_hidesRuntime rfl hbird
  have hhidden : ∀ layout ∈ flockTable.layouts, ∀ m ∈ layout.members.dropLast, ¬ flockTable.HidesRuntime m.type :=
    List.forall_mem_cons.2 ⟨List.forall_mem_singleton.2 hat,
      List.forall_mem_singleton.2 (List.forall_mem_cons.2 ⟨hleader, List.forall_mem_singleton.2 hpair⟩)⟩
  exact ⟨hparse, h, (runtime_arrays_last h).2.2 hhidden, _, rfl, .array rfl⟩

/-! ## Hidden runtime arrays -/

/-- the rows are runtime arrays in a counted one, and the tail is a struct that ends in a runtime array -/
def chunkSource : String :=
  "struct Tail \x7b items: array<f32> \x7d
   struct Chunk \x7b rows: array<array<f32>,2>, tail: Tail, count: u32 \x7d"

def chunkRows : Member := ⟨"rows", .array (.array (.named "f32") .runtime) (.fixed 2)⟩

def chunkTail : Member := ⟨"tail", .named "Tail"⟩

def tailLayout : StructLayout := ⟨"Tail", 16, [⟨⟨"items", .array (.named "f32") .runtime⟩, 0, 16, 0, 0⟩], 16, 0⟩

def chunkLayout : StructLayout :=
  ⟨"Chunk", 16, [⟨chunkRows, 0, 32, 0, 0⟩, ⟨chunkTail, 32, 16, 32, 0⟩, ⟨⟨"count", .named "u32"⟩, 48, 4, 48, 0⟩], 64, 3⟩

/-- a source is laid out with runtime arrays inside two members in front of the last -/
theorem runtime_array_inside :
    ∃ decls table, StructDecl.parseAll chunkSource = .ok decls ∧ LayoutTable.ofDecls .empty decls = .ok table ∧
      chunkLayout ∈ table.layouts ∧ chunkLayout.members.dropLast = [chunkRows, chunkTail] ∧
      ∀ m ∈ chunkLayout.members.dropLast, table.HasRuntime m.type := by
  obtain ⟨decls, hparse, htable⟩ := exists_of_any (x := StructDecl.parseAll chunkSource)
    (p := fun decls => LayoutTable.ofDecls .empty decls = .ok ⟨[tailLayout, chunkLayout], .empty⟩) (by decide +kernel)
  have hmembers : chunkLayout.members.dropLast = [chunkRows, chunkTail] := rfl
  refine ⟨decls, _, hparse, htable, List.mem_cons_of_mem _ List.mem_cons_self, hmembers, ?_⟩
  rw [hmembers]
  have htail : LayoutTable.named? ⟨[tailLayout, chunkLayout], .empty⟩ chunkTail.type = some tailLayout := rfl
  refine List.forall_mem_cons.2 ⟨.array rfl, List.forall_mem_singleton.2 ?_⟩
  exact .member htail List.mem_cons_self (.array rfl)

end ShaderInterface
