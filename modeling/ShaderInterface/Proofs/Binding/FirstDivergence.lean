/-
The first divergence of two lists of slots.

A refresh walks the slots of the layout and the refreshed ones side by side. It passes a pair with the same binding,
resource and access, and stops at the first index at which the two disagree or at which one of them has ended before the
other. What it reports there is that index as a 32-bit number, with the slot of each list, or with nothing for a list
that has ended.

- `PartAt`: the two lists part at an index.
- `isLeast_partAt_cons`, `isLeast_partAt_append`: a pair that agrees puts the first divergence one further, and slots
  that both lists start with put it behind them.
- `verifyRefreshFrom_cases`: the walk passes everything, or stops where the lists part first, by induction on the walk.
- `ReportedAs`, `Shows`: the number and the words of a report, said apart from how messages are made.
- `verifyRefresh_reports_first`: acceptance and report, exactly; acceptance is an equivalence.
-/
import Mathlib.Logic.Relation
import Mathlib.Order.Bounds.Basic
import ShaderInterface.Binding.Refresh
import ShaderInterface.Proofs.Size

namespace ShaderInterface

/-! ## Slots that agree -/

/-- the two slots agree in all that a refresh compares; stages and groups may differ -/
structure Assignment.Agrees (a b : Assignment) : Prop where
  binding : a.binding = b.binding
  resource : a.resource = b.resource
  access : a.access = b.access

/-- what a refresh compares of a slot -/
def Assignment.compared (a : Assignment) : Nat × BoundResource × Access := (a.binding, a.resource, a.access)

variable {a b : Assignment} {layout refreshed : List Assignment} {index : Nat}

theorem Assignment.agrees_iff : a.Agrees b ↔ a.compared = b.compared := by
  constructor
  · intro h
    rw [compared, compared, h.binding, h.resource, h.access]
  · intro h
    simp only [compared, Prod.mk.injEq] at h
    exact ⟨h.1, h.2.1, h.2.2⟩

theorem Assignment.sameSlot_iff : a.sameSlot b = true ↔ a.Agrees b := by
  rw [sameSlot, decide_eq_true_eq]
  exact ⟨fun h => ⟨h.1, h.2.1, h.2.2⟩, fun h => ⟨h.binding, h.resource, h.access⟩⟩

/-- lists that show a refresh the same are those of one length whose slots agree, index by index -/
theorem map_compared_eq_iff : layout.map Assignment.compared = refreshed.map Assignment.compared ↔
    layout.length = refreshed.length ∧
      ∀ (index : Nat) (a b : Assignment), layout[index]? = some a → refreshed[index]? = some b → a.Agrees b := by
  constructor
  · intro h
    refine ⟨by simpa using congrArg List.length h, fun index a b ha hb => ?_⟩
    have hindex := congrArg (·[index]?) h
    simp only [List.getElem?_map, ha, hb, Option.map_some, Option.some.injEq] at hindex
    exact Assignment.agrees_iff.2 hindex
  · rintro ⟨hlength, hagree⟩
    apply List.ext_getElem
    · rw [List.length_map, List.length_map, hlength]
    · intro index hlayout hrefreshed
      rw [List.length_map] at hlayout hrefreshed
      rw [List.getElem_map, List.getElem_map]
      exact Assignment.agrees_iff.1
        (hagree index _ _ (List.getElem?_eq_getElem hlayout) (List.getElem?_eq_getElem hrefreshed))

/-! ## Where lists part -/

/-- the two lists part at the index: they disagree there, or exactly one of them has ended -/
inductive PartAt (layout refreshed : List Assignment) (index : Nat) : Prop where
  | differ {a b : Assignment} (expected : layout[index]? = some a) (found : refreshed[index]? = some b)
      (disagree : ¬ a.Agrees b) : PartAt layout refreshed index
  | missing (expected : index < layout.length) (ended : refreshed.length ≤ index) : PartAt layout refreshed index
  | surplus (ended : layout.length ≤ index) (found : index < refreshed.length) : PartAt layout refreshed index

/-- no index is behind the longer list -/
theorem PartAt.lt_max (h : PartAt layout refreshed index) : index < max layout.length refreshed.length := by
  cases h with
  | differ expected found disagree =>
    exact Nat.lt_of_lt_of_le (List.getElem?_eq_some_iff.1 expected).1 (Nat.le_max_left _ _)
  | missing expected ended => exact Nat.lt_of_lt_of_le expected (Nat.le_max_left _ _)
  | surplus ended found => exact Nat.lt_of_lt_of_le found (Nat.le_max_right _ _)

theorem not_partAt_of_compared (h : layout.map Assignment.compared = refreshed.map Assignment.compared) :
    ¬ PartAt layout refreshed index := by
  obtain ⟨hlength, hagree⟩ := map_compared_eq_iff.1 h
  intro hpart
  cases hpart with
  | differ expected found disagree => exact disagree (hagree index _ _ expected found)
  | missing expected ended => omega
  | surplus ended found => omega

theorem partAt_cons : PartAt (a :: layout) (b :: refreshed) (index + 1) ↔ PartAt layout refreshed index := by
  constructor
  · intro h
    cases h with
    | differ expected found disagree => exact .differ expected found disagree
    | missing expected ended => exact .missing (Nat.lt_of_succ_lt_succ expected) (Nat.le_of_succ_le_succ ended)
    | surplus ended found => exact .surplus (Nat.le_of_succ_le_succ ended) (Nat.lt_of_succ_lt_succ found)
  · intro h
    cases h with
    | differ expected found disagree => exact .differ expected found disagree
    | missing expected ended => exact .missing (Nat.succ_lt_succ expected) (Nat.succ_le_succ ended)
    | surplus ended found => exact .surplus (Nat.succ_le_succ ended) (Nat.succ_lt_succ found)

theorem partAt_cons_zero : PartAt (a :: layout) (b :: refreshed) 0 ↔ ¬ a.Agrees b := by
  constructor
  · intro h
    cases h with
    | differ expected found disagree =>
      rw [← Option.some.inj expected, ← Option.some.inj found] at disagree
      exact disagree
    | missing expected ended => exact absurd ended (by simp)
    | surplus ended found => exact absurd ended (by simp)
  · intro h
    exact .differ rfl rfl h

/-- a pair that agrees puts the first divergence one further -/
theorem isLeast_partAt_cons (hagree : a.Agrees b) (h : IsLeast {i | PartAt layout refreshed i} index) :
    IsLeast {i | PartAt (a :: layout) (b :: refreshed) i} (index + 1) := by
  refine ⟨partAt_cons.2 h.1, fun i hi => ?_⟩
  cases i with
  | zero => exact absurd hagree (partAt_cons_zero.1 hi)
  | succ i => exact Nat.succ_le_succ (h.2 (partAt_cons.1 hi))

theorem isLeast_partAt_append (common : List Assignment) (h : IsLeast {i | PartAt layout refreshed i} index) :
    IsLeast {i | PartAt (common ++ layout) (common ++ refreshed) i} (common.length + index) := by
  induction common with
  | nil => simpa using h
  | cons a common ih =>
    have hnext := isLeast_partAt_cons (Assignment.agrees_iff.2 (Eq.refl a.compared)) ih
    rw [List.length_cons, Nat.add_right_comm]
    exact hnext

theorem isLeast_partAt_zero (h : PartAt layout refreshed 0) : IsLeast {i | PartAt layout refreshed i} 0 :=
  ⟨h, fun i _ => Nat.zero_le i⟩

/-! ## The walk -/

/-- **The walk** passes all slots if the lists show a refresh the same, and else stops where they part first. -/
theorem verifyRefreshFrom_cases (start : Nat) (layout refreshed : List Assignment) :
    (verifyRefreshFrom start layout refreshed = .ok () ∧
        layout.map Assignment.compared = refreshed.map Assignment.compared) ∨
      ∃ index, IsLeast {i | PartAt layout refreshed i} index ∧
        verifyRefreshFrom start layout refreshed =
          .error (.bindingMismatch (Size.clamp (start + index)) layout[index]? refreshed[index]?) := by
  fun_induction verifyRefreshFrom start layout refreshed with
  | case1 start => exact .inl ⟨rfl, rfl⟩
  | case2 start expected layout found refreshed hsame ih =>
    have hagree := Assignment.sameSlot_iff.1 hsame
    rcases ih with ⟨hok, hcompared⟩ | ⟨index, hleast, herror⟩
    · left
      refine ⟨hok, ?_⟩
      rw [List.map_cons, List.map_cons, Assignment.agrees_iff.1 hagree, hcompared]
    · right
      refine ⟨index + 1, isLeast_partAt_cons hagree hleast, ?_⟩
      rw [herror, Nat.add_assoc, Nat.add_comm 1]
      rfl
  | case3 start expected layout found refreshed hsame =>
    have hdiffer : ¬ expected.Agrees found := fun h => hsame (Assignment.sameSlot_iff.2 h)
    exact .inr ⟨0, isLeast_partAt_zero (partAt_cons_zero.2 hdiffer), rfl⟩
  | case4 start layout refreshed hnil hcons =>
    -- one of the lists has ended and the other has not
    have hpart : PartAt layout refreshed 0 := by
      cases layout with
      | nil =>
        apply PartAt.surplus (Nat.le_refl 0)
        exact List.length_pos_iff.2 fun hempty => hnil rfl hempty
      | cons expected layout =>
        cases refreshed with
        | nil => exact .missing (Nat.succ_pos _) (Nat.le_refl 0)
        | cons found refreshed => exact (hcons expected layout found refreshed rfl rfl).elim
    refine .inr ⟨0, isLeast_partAt_zero hpart, ?_⟩
    rw [List.head?_eq_getElem?, List.head?_eq_getElem?]
    rfl

theorem verifyRefresh_eq_ok_iff : verifyRefresh layout refreshed = .ok () ↔
    layout.map Assignment.compared = refreshed.map Assignment.compared := by
  constructor
  · intro hok
    rcases verifyRefreshFrom_cases 0 layout refreshed with ⟨-, hcompared⟩ | ⟨index, -, herror⟩
    · exact hcompared
    · exact absurd (hok.symm.trans herror) nofun
  · intro hcompared
    rcases verifyRefreshFrom_cases 0 layout refreshed with ⟨hok, -⟩ | ⟨index, hleast, -⟩
    · exact hok
    · exact absurd hleast.1 (not_partAt_of_compared hcompared)

theorem verifyRefresh_eq_error_iff {e : Error} : verifyRefresh layout refreshed = .error e ↔
    ∃ index, IsLeast {i | PartAt layout refreshed i} index ∧
      e = .bindingMismatch (Size.clamp index) layout[index]? refreshed[index]? := by
  constructor
  · intro he
    rcases verifyRefreshFrom_cases 0 layout refreshed with ⟨hok, -⟩ | ⟨index, hleast, herror⟩
    · exact absurd (hok.symm.trans he) nofun
    · rw [Nat.zero_add] at herror
      exact ⟨index, hleast, Except.error.inj (he.symm.trans herror)⟩
  · rintro ⟨index, hleast, rfl⟩
    rcases verifyRefreshFrom_cases 0 layout refreshed with ⟨-, hcompared⟩ | ⟨other, hother, herror⟩
    · exact absurd hleast.1 (not_partAt_of_compared hcompared)
    · rwa [Nat.zero_add, hother.unique hleast] at herror

/-! ## The report -/

/-- the 32-bit number that stands for an index: the index itself, and the largest one for all that are larger -/
inductive ReportedAs (index : Nat) : Nat → Prop where
  | exact (fits : index < 4294967296) : ReportedAs index index
  | saturated (large : 4294967296 ≤ index) : ReportedAs index 4294967295

theorem reportedAs_iff {number : Nat} : ReportedAs index number ↔ number = Size.clamp index := by
  constructor
  · intro h
    cases h with
    | exact fits => exact (Size.clamp_eq_self fits).symm
    | saturated large => exact (Size.clamp_eq_last large).symm
  · rintro rfl
    rcases Nat.lt_or_ge index Size.limit with hfits | hlarge
    · rw [Size.clamp_eq_self hfits]
      exact .exact hfits
    · rw [Size.clamp_eq_last hlarge]
      exact .saturated hlarge

/-- what a message says of a resource: its kind and its variable -/
inductive Called : BoundResource → String → String → Prop where
  | uniforms : Called (.uniforms false) "uniforms" "params"
  | internalUniforms : Called (.uniforms true) "uniforms" "internal_params"
  | meshUniforms : Called .meshUniforms "mesh uniforms" "mesh"
  | storage (name : String) (readable : Bool) : Called (.storage name readable) "storage" name
  | layers : Called .layers "layers" "layers"
  | sampler (name : String) (type : SamplerType) : Called (.sampler name type) "sampler" name
  | storageTexture (name : String) (format : TexelFormat) : Called (.storageTexture name format) "storage texture" name
  | texture (name : String) : Called (.texture name) "texture" name
  | depthTexture (name : String) : Called (.depthTexture name) "depth texture" name
  | textureArray (name : String) : Called (.textureArray name) "texture array" name
  | externalTexture (name : String) : Called (.externalTexture name) "external texture" name
  | bindingTextureWrite (name : String) (format : TexelFormat) :
      Called (.bindingTextureWrite name format) "binding texture (write)" name
  | bindingTextureRead (name : String) : Called (.bindingTextureRead name) "binding texture (read)" name

/-- what a message says of an access -/
inductive CalledAccess : Access → String → Prop where
  | read : CalledAccess .read "read"
  | readWrite : CalledAccess .readWrite "read_write"

/-- what a message says of the slot at the index: kind, variable and access of what is there, or that nothing is -/
inductive Shows (slots : List Assignment) (index : Nat) : String → Prop where
  | slot {a : Assignment} {kind name access : String} (there : slots[index]? = some a)
      (resource : Called a.resource kind name) (mode : CalledAccess a.access access) :
      Shows slots index (kind ++ " `" ++ name ++ "` (" ++ access ++ ")")
  | nothing (ended : slots.length ≤ index) : Shows slots index "nothing"

theorem called_label (r : BoundResource) : Called r r.label r.name := by
  cases r with
  | uniforms internal => cases internal <;> constructor
  | _ => constructor

theorem calledAccess_name (access : Access) : CalledAccess access access.name := by
  cases access <;> constructor

theorem shows_slotText (slots : List Assignment) (index : Nat) : Shows slots index (slotText slots[index]?) := by
  cases hslot : slots[index]? with
  | some a =>
    have htext : slotText (some a) = a.resource.label ++ " `" ++ a.resource.name ++ "` (" ++ a.access.name ++ ")" := by
      simp only [slotText, Assignment.text, quoted, ← String.toList_inj, String.toList_append, List.append_assoc]
      rfl
    rw [htext]
    exact .slot hslot (called_label a.resource) (calledAccess_name a.access)
  | none => exact .nothing (List.getElem?_eq_none_iff.1 hslot)

/-- an error that reports the slots at the index: by number, with what each list has there, and in a message -/
structure ReportsAt (layout refreshed : List Assignment) (index : Nat) (e : Error) : Prop where
  slots : ∃ number, ReportedAs index number ∧ e = .bindingMismatch number layout[index]? refreshed[index]?
  message : ∃ number expected found, ReportedAs index number ∧ Shows layout index expected ∧
    Shows refreshed index found ∧
    e.message = "Binding " ++ toString number ++ " no longer matches its layout: expected " ++ expected
      ++ ", found " ++ found

theorem reportsAt_iff {e : Error} : ReportsAt layout refreshed index e ↔
    e = .bindingMismatch (Size.clamp index) layout[index]? refreshed[index]? := by
  constructor
  · intro h
    obtain ⟨number, hnumber, he⟩ := h.slots
    rw [he, reportedAs_iff.1 hnumber]
  · rintro rfl
    have hnumber : ReportedAs index (Size.clamp index) := reportedAs_iff.2 rfl
    exact ⟨⟨_, hnumber, rfl⟩,
      ⟨_, _, _, hnumber, shows_slotText layout index, shows_slotText refreshed index, rfl⟩⟩

/-- **A refresh finds the first divergence.** It accepts exactly the lists of one length that agree at every index. All
other lists it refuses, with the least index at which they disagree or at which exactly one of them has ended, which is
never behind the longer one, and with what each of them has there. The report gives the index as a 32-bit number, which
is the index itself unless both lists agree on their first 2^32 slots. To be accepted is an equivalence. -/
theorem verifyRefresh_reports_first (layout refreshed : List Assignment) :
    (verifyRefresh layout refreshed = .ok () ↔
        layout.length = refreshed.length ∧
          ∀ (index : Nat) (a b : Assignment), layout[index]? = some a → refreshed[index]? = some b → a.Agrees b) ∧
      (∀ e, verifyRefresh layout refreshed = .error e ↔
        ∃ index < max layout.length refreshed.length, IsLeast {i | PartAt layout refreshed i} index ∧
          ReportsAt layout refreshed index e) ∧
      Equivalence fun old new => verifyRefresh old new = .ok () := by
  refine ⟨verifyRefresh_eq_ok_iff.trans map_compared_eq_iff, fun e => ?_, ?_⟩
  · rw [verifyRefresh_eq_error_iff]
    constructor
    · rintro ⟨index, hleast, he⟩
      exact ⟨index, hleast.1.lt_max, hleast, reportsAt_iff.2 he⟩
    · rintro ⟨index, -, hleast, hreport⟩
      exact ⟨index, hleast, reportsAt_iff.1 hreport⟩
  · simp only [verifyRefresh_eq_ok_iff]
    exact eq_equivalence.comap (List.map Assignment.compared)

/-- the same slots in another stage are accepted, and a slot that is gone is reported where it was -/
example :
    let linear : Assignment := ⟨.sampler "linear" .filtering, .fragment, 0, 0, .read⟩
    let albedo : Assignment := ⟨.texture "albedo", .fragment, 0, 1, .read⟩
    verifyRefresh [linear, albedo] [{ linear with stage := .vertex }, albedo] = .ok () ∧
      verifyRefresh [linear, albedo] [linear] = .error (.bindingMismatch 1 (some albedo) none) ∧
      (Error.bindingMismatch 1 (some albedo) none).message =
        "Binding 1 no longer matches its layout: expected texture `albedo` (read), found nothing" := by
  decide

end ShaderInterface
