/-
Generated source is read back as what it was generated from.

A uniform is well spelled if its name is one identifier and its type a type without comments. The block of such
uniforms declares one struct, whose members carry their names and types in order (`MembersOf`), whatever source follows
it (`declares_block`). A well-spelled constant declares no struct.

- `declares_front`: the generated source of a pass begins with the user's and the internal block.
- `declares_generated`: with well-spelled constants it declares its blocks and nothing else.
-/
import Mathlib.Data.List.Forall2
import ShaderInterface.Pipeline.Generated
import ShaderInterface.Proofs.Binding.DeclarationText
import ShaderInterface.Proofs.Resource.UniformLists

namespace ShaderInterface

open Token

/-! ## Well-spelled declarations -/

/-- one identifier for a name, and a type without comments -/
structure Uniform.WellSpelled (u : Uniform) : Prop where
  name : isIdentifier u.name.toList = true
  slash : '/' ∉ u.type.toList
  type : ∃ type, TypeExpr.parse u.type = .ok type

/-- one identifier for a name, and a type and a value without comments and without `struct` -/
structure Constant.WellSpelled (c : Constant) : Prop where
  name : isIdentifier c.name.toList = true
  type : '/' ∉ c.type.toList ∧ .ident "struct" ∉ Token.scan c.type
  value : '/' ∉ c.value.toList ∧ .ident "struct" ∉ Token.scan c.value

instance (u : Uniform) : Decidable u.WellSpelled :=
  decidable_of_iff (isIdentifier u.name.toList = true ∧ '/' ∉ u.type.toList ∧ (TypeExpr.parse u.type).isOk = true)
    ⟨fun h => ⟨h.1, h.2.1, Outcome.isOk_iff.1 h.2.2⟩, fun h => ⟨h.name, h.slash, Outcome.isOk_iff.2 h.type⟩⟩

instance (c : Constant) : Decidable c.WellSpelled :=
  decidable_of_iff (isIdentifier c.name.toList = true ∧ ('/' ∉ c.type.toList ∧ .ident "struct" ∉ Token.scan c.type) ∧
      '/' ∉ c.value.toList ∧ .ident "struct" ∉ Token.scan c.value)
    ⟨fun h => ⟨h.1, h.2.1, h.2.2⟩, fun h => ⟨h.name, h.type, h.value⟩⟩

theorem Registry.wellSpelled_group {registry : Registry} (hu : ∀ u ∈ registry.uniforms, u.WellSpelled)
    (internal : Bool) : ∀ u ∈ registry.groupUniforms internal, u.WellSpelled :=
  fun u h => hu u (List.mem_filter.1 h).1

/-- a member for each uniform, in order, with its name and its parsed type -/
def MembersOf (uniforms : List Uniform) (members : List Member) : Prop :=
  List.Forall₂ (fun u m => m.name = u.name ∧ TypeExpr.parse u.type = .ok m.type) uniforms members

/-- the declaration of a block with these members, or none without members -/
def blockDecls (struct : String) (members : List Member) : List StructDecl :=
  if members = [] then [] else [.ofMembers struct members]

theorem exists_membersOf {uniforms : List Uniform} (h : ∀ u ∈ uniforms, u.WellSpelled) :
    ∃ members, MembersOf uniforms members := by
  induction uniforms with
  | nil => exact ⟨[], .nil⟩
  | cons u rest ih =>
    obtain ⟨hu, hrest⟩ := List.forall_mem_cons.1 h
    obtain ⟨type, htype⟩ := hu.type
    obtain ⟨members, hmembers⟩ := ih hrest
    exact ⟨⟨u.name, type⟩ :: members, .cons ⟨rfl, htype⟩ hmembers⟩

theorem MembersOf.unique {uniforms : List Uniform} {members members' : List Member} (h : MembersOf uniforms members)
    (h' : MembersOf uniforms members') : members' = members := by
  induction h generalizing members' with
  | nil =>
    cases h'
    rfl
  | @cons u m uniforms members hm hrest ih =>
    cases h' with
    | @cons _ m' _ members' hm' hrest' =>
      obtain ⟨name, type⟩ := m
      obtain ⟨name', type'⟩ := m'
      obtain ⟨rfl, htype⟩ := hm
      obtain ⟨rfl, htype'⟩ := hm'
      obtain rfl : type = type' := Except.ok.inj (htype.symm.trans htype')
      rw [ih hrest']

theorem MembersOf.names {uniforms : List Uniform} {members : List Member} (h : MembersOf uniforms members) :
    members.map (·.name) = uniforms.map (·.name) := by
  induction h with
  | nil => rfl
  | cons hm hrest ih => rw [List.map_cons, List.map_cons, hm.1, ih]

theorem MembersOf.ne_nil {uniforms : List Uniform} {members : List Member} (h : MembersOf uniforms members)
    (hne : uniforms ≠ []) : members ≠ [] := by
  rintro rfl
  cases h
  exact hne rfl

theorem MembersOf.exists_member {uniforms : List Uniform} {members : List Member} (h : MembersOf uniforms members)
    {u : Uniform} (hu : u ∈ uniforms) : ∃ m ∈ members, m.name = u.name ∧ TypeExpr.parse u.type = .ok m.type := by
  induction h with
  | nil => simp at hu
  | @cons v m uniforms members hm hrest ih =>
    rcases List.mem_cons.1 hu with rfl | hu
    · exact ⟨m, List.mem_cons_self, hm⟩
    · obtain ⟨m', hm', hu'⟩ := ih hu
      exact ⟨m', List.mem_cons_of_mem m hm', hu'⟩

/-- the members depend on names and types only -/
theorem MembersOf.congr {uniforms others : List Uniform} {members : List Member} (h : MembersOf uniforms members)
    (hshape : others.map Uniform.shape = uniforms.map Uniform.shape) : MembersOf others members := by
  induction h generalizing others with
  | nil =>
    rw [List.map_nil, List.map_eq_nil_iff] at hshape
    subst hshape
    exact .nil
  | @cons u m uniforms members hm hrest ih =>
    obtain ⟨v, others, rfl, hv, hothers⟩ := List.map_eq_cons_iff.1 hshape
    obtain ⟨hname, htype, -⟩ : v.name = u.name ∧ v.type = u.type ∧ v.internal = u.internal := by
      simpa [Uniform.shape] using hv
    exact .cons ⟨hname ▸ hm.1, htype ▸ hm.2⟩ (ih hothers)

/-! ## Blocks -/

/-- the tokens of the line that declares a uniform as a member -/
def memberTokens (u : Uniform) : List Token := [.ident u.name, .punct ':'] ++ (Token.scan u.type ++ [.punct ','])

theorem reads_memberLine {u : Uniform} (hu : u.WellSpelled) : Reads (memberLine u).toList (memberTokens u) := by
  have htext : (memberLine u).toList =
      "    ".toList ++ ((u.name.toList ++ ':' :: " ".toList) ++ (u.type.toList ++ ',' :: "\n".toList)) := by
    simp [memberLine]
  have hindent : Reads "    ".toList [] := reads_of_feedAll rfl
  have hcolon : Reads (':' :: " ".toList) [.punct ':'] := reads_of_feedAll rfl
  have hcomma : Reads (',' :: "\n".toList) [.punct ','] := reads_of_feedAll rfl
  have hname := Reads.before (slash_notMem_identifier hu.name) (by decide) hcolon
  have htype := Reads.before hu.slash (by decide) hcomma
  rw [← Token.scan_eq, scan_identifier hu.name] at hname
  rw [htext]
  exact hindent.append (hname.append htype)

theorem reads_memberLines {uniforms : List Uniform} (hu : ∀ u ∈ uniforms, u.WellSpelled) :
    Reads (String.join (uniforms.map memberLine)).toList (uniforms.flatMap memberTokens) := by
  rw [String.toList_join]
  induction uniforms with
  | nil => exact reads_nil
  | cons u rest ih =>
    obtain ⟨hu, hrest⟩ := List.forall_mem_cons.1 hu
    exact (reads_memberLine hu).append (ih hrest)

theorem bodyReads_members {uniforms : List Uniform} {members : List Member} (h : MembersOf uniforms members)
    (rest : List Token) : BodyReads (uniforms.flatMap memberTokens ++ .punct '\x7d' :: rest) members rest := by
  induction h with
  | nil => exact .close rest
  | @cons u m uniforms members hm hrest ih =>
    obtain ⟨name, type⟩ := m
    obtain ⟨rfl, htype⟩ := hm
    have hseparated : ∀ behind, skipSeparator (.punct ',' :: behind) = .ok behind := fun _ => rfl
    have hbody := BodyReads.member u.name (parse_eq_ok.1 htype) (hseparated _) ih
    simpa [memberTokens] using hbody

/-- the text of a block opens a struct, whatever its members are -/
theorem reads_blockHead {struct : String} (hstruct : isIdentifier struct.toList = true) :
    Reads ("struct " ++ struct ++ " \x7b\n").toList [.ident "struct", .ident struct, .punct '\x7b'] := by
  have htext : ("struct " ++ struct ++ " \x7b\n").toList =
      "struct ".toList ++ (struct.toList ++ ' ' :: "\x7b\n".toList) := by
    simp
  have hword : Reads "struct ".toList [.ident "struct"] := reads_of_feedAll rfl
  have hopen : Reads (' ' :: "\x7b\n".toList) [.punct '\x7b'] := reads_of_feedAll rfl
  have hname := Reads.before (slash_notMem_identifier hstruct) (by decide) hopen
  rw [← Token.scan_eq, scan_identifier hstruct] at hname
  rw [htext]
  exact hword.append hname

theorem blockText_toList (struct : String) {uniforms : List Uniform} (hne : uniforms ≠ []) :
    (blockText struct uniforms).toList = ("struct " ++ struct ++ " \x7b\n").toList ++
      ((String.join (uniforms.map memberLine)).toList ++ "\x7d\n".toList) := by
  rw [blockText, if_neg (by simpa using hne)]
  simp only [String.toList_append, List.append_assoc]

/-- the struct of a block is the first that is found in its text, whatever the members are -/
theorem declares_blockHead {struct : String} (hstruct : isIdentifier struct.toList = true) {uniforms : List Uniform}
    (hne : uniforms ≠ []) {rest : List Char} {decls : List StructDecl}
    (h : Declares (scanChars ((blockText struct uniforms).toList ++ rest)) decls) :
    ∃ members others, decls = .ofMembers struct members :: others := by
  rw [blockText_toList struct hne, List.append_assoc, reads_blockHead hstruct] at h
  exact declares_structHead h

/-- **A block is read back** as one struct with a member for each uniform, and what follows it is read as if alone. -/
theorem declares_block {struct : String} (hstruct : isIdentifier struct.toList = true) {uniforms : List Uniform}
    (hu : ∀ u ∈ uniforms, u.WellSpelled) {members : List Member} (hm : MembersOf uniforms members) (rest : List Char)
    (decls : List StructDecl) :
    Declares (scanChars ((blockText struct uniforms).toList ++ rest)) decls ↔
      ∃ others, Declares (scanChars rest) others ∧ decls = blockDecls struct members ++ others := by
  cases hm with
  | nil => simp [blockText, blockDecls]
  | @cons u m uniforms members hfirst hrest =>
    have hm : MembersOf (u :: uniforms) (m :: members) := .cons hfirst hrest
    have hclose : Reads "\x7d\n".toList [.punct '\x7d'] := reads_of_feedAll rfl
    have hreads := (reads_blockHead hstruct).append ((reads_memberLines hu).append hclose)
    rw [blockText_toList struct (List.cons_ne_nil u uniforms), hreads rest]
    rw [List.append_assoc, List.append_assoc]
    exact (declares_struct_iff (bodyReads_members hm (scanChars rest))).trans (by simp [blockDecls])

/-! ## Constants -/

theorem inertText_constantLine {c : Constant} (hc : c.WellSpelled) : InertText (constantLine c).toList := by
  have htext : (constantLine c).toList = "const ".toList ++ ((c.name.toList ++ [':']) ++ (" ".toList ++
      ((c.type.toList ++ ' ' :: "= ".toList) ++ (c.value.toList ++ ';' :: "\n".toList)))) := by
    simp [constantLine]
  have hword : InertText "const ".toList := inertText_of_feedAll rfl (by decide)
  have hname : InertText (c.name.toList ++ [':']) := (plain_identifier hc.name).inertText (by decide)
  have hblank : InertText " ".toList := inertText_of_feedAll rfl (by decide)
  have hequals : InertText (' ' :: "= ".toList) := inertText_of_feedAll rfl (by decide)
  have hsemicolon : InertText (';' :: "\n".toList) := inertText_of_feedAll rfl (by decide)
  have htype := inertText_before hc.type.1 hc.type.2 (by decide) hequals
  have hvalue := inertText_before hc.value.1 hc.value.2 (by decide) hsemicolon
  rw [htext]
  exact hword.append (hname.append (hblank.append (htype.append hvalue)))

theorem inertText_constants {constants : List Constant} (h : ∀ c ∈ constants, c.WellSpelled) :
    InertText (String.join (constants.map constantLine)).toList := by
  apply inertText_join
  intro line hline
  obtain ⟨c, hc, rfl⟩ := List.mem_map.1 hline
  exact inertText_constantLine (h c hc)

/-! ## The generated source -/

section Generated

variable {registry : Registry} {pass : PassContext} {users internals : List Member}

/-- the generated source behind the blocks of the user's and the internal uniforms -/
def generatedRest (registry : Registry) (pass : PassContext) : String :=
  blockText BlockName.mesh.struct (registry.passUniforms pass.index) ++
    String.join (registry.constants.map constantLine)

/-- **The generated source begins with the blocks of the uniforms**, whatever is behind them. -/
theorem declares_front (hu : ∀ u ∈ registry.uniforms, u.WellSpelled)
    (husers : MembersOf (registry.groupUniforms false) users)
    (hinternals : MembersOf (registry.groupUniforms true) internals) {rest : List Char} {decls : List StructDecl} :
    Declares (scanChars ((generatedText registry pass).toList ++ rest)) decls ↔
      ∃ others, Declares (scanChars ((generatedRest registry pass).toList ++ rest)) others ∧
        decls = blockDecls (BlockName.uniforms false).struct users ++
          (if pass.internal then blockDecls (BlockName.uniforms true).struct internals else []) ++ others := by
  have huser := declares_block (isIdentifier_uniforms false) (Registry.wellSpelled_group hu false) husers
  have hinternal := declares_block (isIdentifier_uniforms true) (Registry.wellSpelled_group hu true) hinternals
  have htext : (generatedText registry pass).toList ++ rest =
      (blockText (BlockName.uniforms false).struct (registry.groupUniforms false)).toList ++
        ((if pass.internal then blockText (BlockName.uniforms true).struct (registry.groupUniforms true)
          else "").toList ++ ((generatedRest registry pass).toList ++ rest)) := by
    simp [generatedText, generatedRest]
  rw [htext, huser]
  cases pass.internal with
  | false => simp
  | true =>
    simp only [if_true]
    constructor
    · rintro ⟨others, hothers, rfl⟩
      obtain ⟨behind, hbehind, rfl⟩ := (hinternal _ _).1 hothers
      exact ⟨behind, hbehind, by simp⟩
    · rintro ⟨others, hothers, rfl⟩
      exact ⟨_, (hinternal _ _).2 ⟨others, hothers, rfl⟩, by simp⟩

/-- the structs that a pass generates -/
def generatedDecls (pass : PassContext) (users internals meshes : List Member) : List StructDecl :=
  blockDecls (BlockName.uniforms false).struct users ++
    (if pass.internal then blockDecls (BlockName.uniforms true).struct internals else []) ++
    blockDecls BlockName.mesh.struct meshes

/-- **The generated source declares its blocks and nothing else**, and leaves what follows as it is. -/
theorem declares_generated (hu : ∀ u ∈ registry.uniforms, u.WellSpelled)
    (hmesh : ∀ u ∈ registry.passUniforms pass.index, u.WellSpelled) (hc : ∀ c ∈ registry.constants, c.WellSpelled)
    (husers : MembersOf (registry.groupUniforms false) users)
    (hinternals : MembersOf (registry.groupUniforms true) internals) {meshes : List Member}
    (hmeshes : MembersOf (registry.passUniforms pass.index) meshes) {rest : List Char} {own : List StructDecl}
    (hrest : Declares (scanChars rest) own) :
    Declares (scanChars ((generatedText registry pass).toList ++ rest))
      (generatedDecls pass users internals meshes ++ own) := by
  have hconstants := (inertText_constants hc).declares hrest
  have hblock := (declares_block isIdentifier_mesh hmesh hmeshes _ _).2 ⟨own, hconstants, rfl⟩
  refine (declares_front hu husers hinternals).2 ⟨_, ?_, List.append_assoc _ _ _⟩
  rw [generatedRest, String.toList_append, List.append_assoc]
  exact hblock

end Generated
end ShaderInterface
