/-
The binding text of a group declares no struct.

Its lines are made of fixed words, numbers, the names of resources and the texts of types. With identifiers for names
(`Resource.WellNamed`) each piece is inert, also where a name or a type is called `struct`: behind it stands a symbol and
no second name.

- `inertText_declaration`: the declaration of a shader variable is inert.
- `inertText_synthesize`: the text of a group is inert.
-/
import ShaderInterface.Proofs.Binding.ShaderVariable
import ShaderInterface.Proofs.Binding.SlotOrder
import ShaderInterface.Proofs.Source.InertText

namespace ShaderInterface

open Token

/-- the shader variables of the resource: a binding texture has one for either side -/
def Resource.variables (r : Resource) : List String :=
  match r.details with
  | .bindingTexture readName _ _ => [r.name, readName]
  | _ => [r.name]

/-- the shader variables of the resource are identifiers -/
def Resource.WellNamed (r : Resource) : Prop := ∀ name ∈ r.variables, isIdentifier name.toList = true

instance (r : Resource) : Decidable r.WellNamed :=
  inferInstanceAs (Decidable (∀ name ∈ r.variables, isIdentifier name.toList = true))

/-! ## One declaration -/

theorem isIdentifier_uniforms (internal : Bool) : isIdentifier (BlockName.uniforms internal).struct.toList = true := by
  cases internal <;> decide

theorem isIdentifier_mesh : isIdentifier BlockName.mesh.struct.toList = true := by decide

theorem plain_wgsl (type : HandleType) : Plain type.wgsl := by
  have hslash : ∀ t ∈ HandleType.all, '/' ∉ t.wgsl.toList := by decide
  have hapart : ∀ t ∈ HandleType.all, Apart (Token.scan t.wgsl) := by
    unfold Apart
    decide +kernel
  exact ⟨hslash type type.mem_all, hapart type type.mem_all⟩

/-- the declaration of a variable under an identifier is inert -/
theorem inertText_declaration {name : String} (hname : isIdentifier name.toList = true) {v : ShaderVariable}
    (htype : Plain v.type) : InertText (v.text name).toList := by
  have hopenings : ∀ s ∈ ShaderVariable.openings, ∃ reversed, Scanner.start.feedAll s.toList = ⟨.nothing, reversed⟩ ∧
      .ident "struct" ∉ reversed := by
    intro s hs
    simp only [ShaderVariable.openings, List.mem_cons, List.not_mem_nil, or_false] at hs
    rcases hs with rfl | rfl | rfl | rfl <;> exact ⟨_, rfl, by decide⟩
  obtain ⟨reversed, hfeed, hstruct⟩ := hopenings v.opening v.opening_mem
  have htext : (v.text name).toList = v.opening.toList ++ ((name.toList ++ [':']) ++ (" ".toList ++
      (v.type.toList ++ [';']))) := by
    simp [ShaderVariable.text]
  have hopening : InertText v.opening.toList := inertText_of_feedAll hfeed hstruct
  have hvariable : InertText (name.toList ++ [':']) := (plain_identifier hname).inertText (by decide)
  have hblank : InertText " ".toList := inertText_of_feedAll rfl (by decide)
  have hend : InertText (v.type.toList ++ [';']) := htype.inertText (by decide)
  rw [htext]
  exact hopening.append (hvariable.append (hblank.append hend))

theorem inertText_slotAttributes (group binding : Nat) : InertText (slotAttributes group binding).toList := by
  have htext : (slotAttributes group binding).toList = "@group(".toList ++
      (((toString group).toList ++ [')']) ++ (" @binding(".toList ++ (((toString binding).toList ++ [')']) ++
        " ".toList))) := by
    simp [slotAttributes]
  have hnumber : ∀ n : Nat, InertText ((toString n).toList ++ [')']) := fun n =>
    (plain_number (isNumber_toString n)).inertText (by decide)
  have hgroup : InertText "@group(".toList := inertText_of_feedAll rfl (by decide)
  have hbinding : InertText " @binding(".toList := inertText_of_feedAll rfl (by decide)
  have hblank : InertText " ".toList := inertText_of_feedAll rfl (by decide)
  rw [htext]
  exact hgroup.append ((hnumber group).append (hbinding.append ((hnumber binding).append hblank)))

/-! ## The variables of a group -/

section Group

variable {registry : Registry} {pass : PassContext} {stage : Stage} {group : Nat}

theorem plain_storedType (htyped : ∀ r ∈ registry.resources, r.Typed) (kind : ResourceKind) (name : String) :
    Plain (registry.storedType kind name) := by
  unfold Registry.storedType
  cases hfind : registry.find? kind name with
  | none => exact plain_empty
  | some r =>
    have hr : r.Typed := htyped r (List.mem_of_find?_eq_some hfind)
    obtain ⟨name, internal, details⟩ := r
    cases details with
    | storage type visibility readable payload =>
      obtain ⟨text, hparse⟩ := hr _ _ _ _ rfl
      exact plain_of_parse hparse
    | layers count width height visibility => exact plain_layersType count width height
    | _ => exact plain_empty

/-- the type of a shader variable is plain -/
theorem plain_shaderVariable (htyped : ∀ r ∈ registry.resources, r.Typed) (resource : BoundResource) (access : Access) :
    Plain (resource.shaderVariable registry access).type := by
  have hhandle : ∀ type, Plain (ShaderVariable.handle type).type := plain_wgsl
  cases resource with
  | uniforms internal => exact plain_identifier (isIdentifier_uniforms internal)
  | meshUniforms => exact plain_identifier isIdentifier_mesh
  | storage name readable => exact plain_storedType htyped .storage name
  | layers => exact plain_storedType htyped .layers layersName
  | _ => exact hhandle _

theorem isIdentifier_slot {r : Resource} (h : r.WellNamed) (stage : Stage) :
    isIdentifier (r.slot stage).name.toList = true := by
  obtain ⟨name, internal, details⟩ := r
  cases details with
  | layers count width height visibility => exact (by decide : isIdentifier layersName.toList = true)
  | bindingTexture readName format pinned =>
    simp only [Resource.slot]
    split
    · exact h name (by simp [Resource.variables])
    · exact h readName (by simp [Resource.variables])
  | _ => exact h name (by simp [Resource.variables])

/-- the variables of a group are identifiers -/
theorem isIdentifier_candidate (hnamed : ∀ r ∈ registry.resources, r.WellNamed) {c : Candidate}
    (hc : c ∈ candidates registry pass stage group) : isIdentifier c.resource.name.toList = true := by
  rcases List.mem_append.1 hc with hblock | hresource
  · rcases List.mem_append.1 hblock with huniform | hmesh
    · rw [← (bindIf_eq_some.1 (Option.mem_toList.1 huniform)).2]
      cases decide (group = internalGroup) <;> exact (by decide)
    · rw [← (bindIf_eq_some.1 (Option.mem_toList.1 hmesh)).2]
      exact (by decide)
  · obtain ⟨r, hr, hc⟩ := List.mem_filterMap.1 hresource
    obtain ⟨kind, -, hkind⟩ := List.mem_flatMap.1 (List.mem_filter.1 hr).1
    have hslot := candidate_resource r pass stage
    rw [hc, Option.map_some] at hslot
    split at hslot
    · rw [Option.some.inj hslot]
      exact isIdentifier_slot (hnamed r (List.mem_filter.1 hkind).1) stage
    · simp at hslot

/-- **The binding text of a group is inert.** -/
theorem inertText_synthesize (hreg : registry.Identified) (htyped : ∀ r ∈ registry.resources, r.Typed)
    (hnamed : ∀ r ∈ registry.resources, r.WellNamed) (pass : PassContext) (stage : Stage) (group : Nat) :
    InertText (synthesize registry pass stage group).text.toList := by
  apply inertText_join
  intro line hline
  obtain ⟨⟨c, binding⟩, hnumbered, rfl⟩ := List.mem_map.1 hline
  have hc : c ∈ candidates registry pass stage group := List.fst_mem_of_mem_zipIdx hnumbered
  have hdeclaration : InertText c.declaration.toList := by
    rw [candidates_declare hreg hc]
    exact inertText_declaration (isIdentifier_candidate hnamed hc) (plain_shaderVariable htyped _ _)
  have hnewline : InertText "\n".toList := inertText_of_feedAll rfl (by decide)
  simp only [declarationLine, String.toList_append]
  exact ((inertText_slotAttributes group binding).append hdeclaration).append hnewline

end Group
end ShaderInterface
