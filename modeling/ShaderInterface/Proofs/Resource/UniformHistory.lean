/-
Uniforms read off the calls that declared them.

What a registry holds after calls that declare uniforms is said of the calls alone, block by block: each name once, where
it came first, with the first type and the last value that it was given. A call warns if its type is not the first one of
its name in its block. How the blocks are kept does not matter: the store that takes the mesh uniforms of a pass out of a
list of all passes and appends them again holds the same.

- `FirstTypeLastValue.snoc`: one call more, against one update of a list.
- `readsBack_step`: what one call keeps, for all blocks and the warnings.
- `uniforms_read_back`: so for every history of calls.
-/
import Mathlib.Data.List.Induction
import ShaderInterface.Proofs.Resource.InPlace
import ShaderInterface.Proofs.Uniform.PackedBytes

namespace ShaderInterface

/-! ## Calls -/

/-- the block that a call declares a uniform in: the user's, or that of the meshes of a pass -/
inductive UniformBlock where
  | user
  | mesh (pass : Nat)
deriving DecidableEq, Repr

structure UniformCall where
  block : UniformBlock
  name : String
  value : UniformValue
  type : String
deriving DecidableEq

namespace UniformCall

/-- the uniform as the call gives it -/
def uniform (c : UniformCall) : Uniform := ⟨c.name, c.type, c.value, false⟩

@[simp] theorem uniform_name (c : UniformCall) : c.uniform.name = c.name := rfl

def declaration : UniformCall → Declaration
  | ⟨.user, name, value, type⟩ => .uniform false name value type
  | ⟨.mesh pass, name, value, type⟩ => .meshUniform pass name value type

/-- the calls that declare in a block -/
def ofBlock (block : UniformBlock) (calls : List UniformCall) : List UniformCall := calls.filter (·.block = block)

/-- the first type that calls give a name -/
def firstType? (calls : List UniformCall) (name : String) : Option String :=
  (calls.map fun c => (c.name, c.type)).lookup name

/-- the last value that calls give a name -/
def finalValue? (calls : List UniformCall) (name : String) : Option UniformValue :=
  lastValue? (calls.map fun c => (c.name, c.value)) name

/-- the warning of a call under whose name another type is kept -/
def clashWith? (c : UniformCall) (kept : String) : Option Warning :=
  if kept = c.type then none else some (.uniformTypeChanged c.name kept c.type)

/-- the warning of one of the calls, whose type is not the first of its name in its block -/
def clash? (calls : List UniformCall) (c : UniformCall) : Option Warning :=
  (firstType? (ofBlock c.block calls) c.name).bind c.clashWith?

end UniformCall

open UniformCall

/-- the list that a call of a block updates; the user's stand in one list with internal ones, if there are any -/
def Registry.held (r : Registry) : UniformBlock → List Uniform
  | .user => r.uniforms
  | .mesh pass => r.passUniforms pass

/-- the uniform has the first type and the last value that calls give its name -/
structure ReadOff (calls : List UniformCall) (u : Uniform) : Prop where
  type : firstType? calls u.name = some u.type
  value : finalValue? calls u.name = some u.value
  user : u.internal = false

/-- the uniforms are those of the calls: each name once, by its first call, with its first type and its last value -/
structure FirstTypeLastValue (calls : List UniformCall) (uniforms : List Uniform) : Prop where
  names : uniforms.map (·.name) = (calls.map (·.name)).eraseDups
  each : ∀ u ∈ uniforms, ReadOff calls u

/-! ## One call more -/

section Snoc

variable {calls : List UniformCall} {c : UniformCall}

theorem eraseDups_snoc {α : Type} [DecidableEq α] (l : List α) (a : α) :
    (l ++ [a]).eraseDups = if a ∈ l then l.eraseDups else l.eraseDups ++ [a] := by
  rw [List.eraseDups_append, List.removeAll]
  split
  · next h => simp [h]
  · next h => simp [h, List.eraseDups_cons]

theorem ofBlock_snoc (block : UniformBlock) :
    ofBlock block (calls ++ [c]) = if block = c.block then ofBlock block calls ++ [c] else ofBlock block calls := by
  rw [ofBlock, List.filter_append, ofBlock]
  split
  · next h => simp [h]
  · next h => simp [Ne.symm h]

theorem firstType?_eq_none {name : String} : firstType? calls name = none ↔ name ∉ calls.map (·.name) := by
  rw [firstType?, List.lookup_eq_none_iff]
  simp only [List.mem_map, bne_iff_ne, forall_exists_index, and_imp, forall_apply_eq_imp_iff₂, not_exists, not_and]
  exact forall₂_congr fun d _ => ne_comm

theorem firstType?_snoc (name : String) : firstType? (calls ++ [c]) name =
    (firstType? calls name).or (if name = c.name then some c.type else none) := by
  rw [firstType?, List.map_append, List.lookup_append, firstType?]
  congr 1
  split
  · next h => rw [h]; exact List.lookup_cons_self
  · next h => exact Table.lookup_cons_of_ne h _ _

/-- the first type stays the first -/
theorem firstType?_snoc_of_some {name type : String} (h : firstType? calls name = some type) :
    firstType? (calls ++ [c]) name = some type := by
  rw [firstType?_snoc, h, Option.some_or]

theorem finalValue?_snoc (name : String) :
    finalValue? (calls ++ [c]) name = if name = c.name then some c.value else finalValue? calls name := by
  rw [finalValue?, List.map_append, List.map_singleton, lastValue?_snoc, finalValue?]

theorem ReadOff.other {u : Uniform} (h : ReadOff calls u) (hne : u.name ≠ c.name) : ReadOff (calls ++ [c]) u :=
  ⟨firstType?_snoc_of_some h.type, by rw [finalValue?_snoc, if_neg hne, h.value], h.user⟩

theorem ReadOff.update {u : Uniform} (h : ReadOff calls u) (hname : u.name = c.name) :
    ReadOff (calls ++ [c]) { u with value := c.value } :=
  ⟨firstType?_snoc_of_some h.type, by rw [finalValue?_snoc, if_pos hname], h.user⟩

theorem readOff_fresh (hfresh : c.name ∉ calls.map (·.name)) : ReadOff (calls ++ [c]) c.uniform := by
  refine ⟨?_, ?_, rfl⟩
  · rw [uniform_name, firstType?_snoc, firstType?_eq_none.2 hfresh, Option.none_or, if_pos rfl]
    rfl
  · rw [uniform_name, finalValue?_snoc, if_pos rfl]
    rfl

end Snoc

namespace FirstTypeLastValue

variable {calls : List UniformCall} {uniforms others : List Uniform}

theorem mem_names (h : FirstTypeLastValue calls uniforms) {name : String} :
    name ∈ uniforms.map (·.name) ↔ name ∈ calls.map (·.name) := by
  rw [h.names, List.mem_eraseDups]

/-- **One call more**, and one update of the list. -/
theorem snoc (h : FirstTypeLastValue calls uniforms) (hn : (uniforms.map (·.name)).Nodup) (c : UniformCall) :
    FirstTypeLastValue (calls ++ [c]) (upsert c.uniform uniforms) := by
  have hnames : ((calls ++ [c]).map (·.name)).eraseDups =
      if c.name ∈ calls.map (·.name) then (calls.map (·.name)).eraseDups
      else (calls.map (·.name)).eraseDups ++ [c.name] := by
    rw [List.map_append, List.map_singleton, eraseDups_snoc]
  by_cases hknown : c.name ∈ calls.map (·.name)
  · have hmem : c.uniform.name ∈ uniforms.map (·.name) := h.mem_names.2 hknown
    refine ⟨?_, fun v hv => ?_⟩
    · rw [map_name_of_shape (upsert_shape hmem), hnames, if_pos hknown, h.names]
    · rcases of_mem_upsert hn hmem hv with ⟨hv, hne⟩ | ⟨w, hw, hname, rfl⟩
      · exact (h.each v hv).other hne
      · exact (h.each w hw).update hname
  · rw [upsert_of_notMem (mt h.mem_names.1 hknown)]
    refine ⟨?_, List.forall_mem_append.2 ⟨fun v hv => (h.each v hv).other ?_, ?_⟩⟩
    · rw [List.map_append, List.map_singleton, hnames, if_neg hknown, h.names]
      rfl
    · intro hname
      exact hknown (h.mem_names.1 (List.mem_map.2 ⟨v, hv, hname⟩))
    · exact List.forall_mem_singleton.2 (readOff_fresh hknown)

/-- the warning of an update compares with the first type -/
theorem typeChange?_eq (h : FirstTypeLastValue calls uniforms) (c : UniformCall) :
    typeChange? c.uniform uniforms = (firstType? calls c.name).bind c.clashWith? := by
  rw [typeChange?, uniform_name]
  cases hfind : uniforms.find? (·.name = c.name) with
  | none =>
    have hfresh : c.name ∉ calls.map (·.name) := by
      rw [← h.mem_names, List.mem_map]
      rintro ⟨v, hv, hname⟩
      exact absurd (List.find?_eq_none.1 hfind v hv) (by simpa using hname)
    rw [firstType?_eq_none.2 hfresh, Option.bind_none]
  | some kept =>
    have hname : kept.name = c.name := by simpa using List.find?_some hfind
    have htype := (h.each kept (List.mem_of_find?_eq_some hfind)).type
    rw [← hname, htype, Option.bind_some, clashWith?, hname]
    rfl

/-- the calls leave one list only -/
theorem unique (h : FirstTypeLastValue calls uniforms) (h' : FirstTypeLastValue calls others) : uniforms = others := by
  let held (name : String) : Option Uniform :=
    (firstType? calls name).bind fun type => (finalValue? calls name).map (⟨name, type, ·, false⟩)
  have hheld : ∀ {list : List Uniform}, FirstTypeLastValue calls list → list = (list.map (·.name)).filterMap held := by
    intro list hlist
    have heach : ∀ u ∈ list, held u.name = some u := by
      intro u hu
      obtain ⟨htype, hvalue, huser⟩ := hlist.each u hu
      simp only [held, htype, hvalue, Option.bind_some, Option.map_some, ← huser]
    rw [List.filterMap_map]
    exact (List.filterMap_some.symm.trans (List.filterMap_congr heach).symm)
  rw [hheld h, hheld h', h.names, h'.names]

end FirstTypeLastValue

/-! ## One step -/

/-- the warning of one of the calls is known when it comes -/
theorem clash?_snoc {calls : List UniformCall} {c d : UniformCall} (hd : d ∈ calls ++ [c]) :
    clash? (calls ++ [c]) d = clash? calls d := by
  rw [clash?, ofBlock_snoc, clash?]
  by_cases hblock : d.block = c.block
  · rw [if_pos hblock]
    cases hfirst : firstType? (ofBlock d.block calls) d.name with
    | some kept => rw [firstType?_snoc_of_some hfirst]
    | none =>
      -- no call before had the name in the block, so this is the last one, which has its own type
      have hnew : d ∉ calls := by
        intro hmem
        refine firstType?_eq_none.1 hfirst (List.mem_map.2 ⟨d, ?_, rfl⟩)
        exact List.mem_filter.2 ⟨hmem, by simp⟩
      obtain rfl : d = c := by simpa [hnew] using hd
      rw [firstType?_snoc, hfirst, Option.none_or, if_pos rfl, Option.bind_some, clashWith?, if_pos rfl, Option.bind_none]
  · rw [if_neg hblock]

/-- the registry holds what the calls say, in every block, and has warned of each clash -/
structure ReadsBack (calls : List UniformCall) (r : Registry) : Prop where
  blocks : ∀ block, FirstTypeLastValue (ofBlock block calls) (r.held block)
  warnings : r.warnings = calls.filterMap (clash? calls)

namespace Registry

variable {r : Registry}

/-- a call updates the list of its own block -/
theorem held_step (r : Registry) (c : UniformCall) (block : UniformBlock) :
    (r.step c.declaration).held block =
      if block = c.block then upsert c.uniform (r.held block) else r.held block := by
  obtain ⟨own, name, value, type⟩ := c
  cases own with
  | user =>
    cases block with
    | user => exact (if_pos rfl).symm
    | mesh pass => exact (if_neg nofun).symm
  | mesh pass =>
    cases block with
    | user => exact (if_neg nofun).symm
    | mesh index =>
      have hinsert : (r.step (.meshUniform pass name value type)).meshUniforms =
          r.meshUniforms.insert pass (upsert ⟨name, type, value, false⟩ (r.passUniforms pass)) := rfl
      simp only [held, declaration, passUniforms_of_insert hinsert, UniformBlock.mesh.injEq]
      split
      · next heq => rw [heq]; rfl
      · rfl

theorem warnings_step (r : Registry) (c : UniformCall) :
    (r.step c.declaration).warnings = r.warnings ++ (typeChange? c.uniform (r.held c.block)).toList := by
  obtain ⟨own, name, value, type⟩ := c
  cases own <;> rfl

theorem DistinctUniforms.held (h : r.DistinctUniforms) (block : UniformBlock) :
    ((r.held block).map (·.name)).Nodup := by
  cases block with
  | user => exact h.uniforms
  | mesh pass => exact h.meshes pass

/-- **One call**: its block takes it up, the others stay, and it warns if it clashes with the calls before. -/
theorem readsBack_step {calls : List UniformCall} (hdistinct : r.DistinctUniforms) (h : ReadsBack calls r)
    (c : UniformCall) : ReadsBack (calls ++ [c]) (r.step c.declaration) := by
  refine ⟨fun block => ?_, ?_⟩
  · rw [held_step, ofBlock_snoc]
    split
    · exact (h.blocks block).snoc (hdistinct.held block) c
    · exact h.blocks block
  · have hclash : (calls ++ [c]).filterMap (clash? (calls ++ [c])) = (calls ++ [c]).filterMap (clash? calls) :=
      List.filterMap_congr fun d hd => clash?_snoc hd
    rw [warnings_step, (h.blocks c.block).typeChange?_eq, h.warnings, hclash, List.filterMap_append]
    rfl

theorem readsBack_run (calls : List UniformCall) : ReadsBack calls (run (calls.map declaration)) := by
  induction calls using List.reverseRecOn with
  | nil => exact ⟨fun block => by cases block <;> exact ⟨rfl, nofun⟩, rfl⟩
  | append_singleton calls c ih =>
    have hrun : run ((calls ++ [c]).map declaration) = (run (calls.map declaration)).step c.declaration := by
      rw [run, List.map_append, List.foldl_append]
      rfl
    rw [hrun]
    exact readsBack_step (distinctUniforms_run _) ih c

end Registry

/-- **Uniforms are read off the calls.** After any calls that declare uniforms of the user's and of passes, the user's
uniforms are those of the user's calls, each name once, with its first type and its last value, and the uniforms of a pass
are those of the calls for that pass, whatever is called for others. The warnings are those of the calls, in order, whose
type is not the first of their name in their block. The store that keeps the uniforms of all passes in one list holds the
same. -/
theorem uniforms_read_back (calls : List UniformCall) :
    let r := Registry.run (calls.map declaration)
    FirstTypeLastValue (ofBlock .user calls) (r.groupUniforms false) ∧
      (∀ pass, FirstTypeLastValue (ofBlock (.mesh pass) calls) (r.passUniforms pass)) ∧
      (∀ pass others, ofBlock (.mesh pass) others = ofBlock (.mesh pass) calls →
        (Registry.run (others.map declaration)).passUniforms pass = r.passUniforms pass) ∧
      r.warnings = calls.filterMap (clash? calls) ∧
      (Store.run (calls.map declaration)).Represents r := by
  intro r
  have hreads : ReadsBack calls r := Registry.readsBack_run calls
  have huser : r.groupUniforms false = r.uniforms :=
    List.filter_eq_self.2 fun u hu => by simp [((hreads.blocks .user).each u hu).user]
  refine ⟨huser ▸ hreads.blocks .user, fun pass => hreads.blocks (.mesh pass), fun pass others hsame => ?_,
    hreads.warnings, Store.represents_run _⟩
  have hothers := (Registry.readsBack_run others).blocks (.mesh pass)
  rw [hsame] at hothers
  exact hothers.unique (hreads.blocks (.mesh pass))

-- two passes take turns, and one of them asks for another type
example :
    let r := Registry.run [.meshUniform 0 "color" (.f32 [1]) "f32", .meshUniform 1 "color" (.u32 [2]) "u32",
      .meshUniform 0 "scale" (.f32 [3]) "f32", .meshUniform 0 "color" (.u32 [4]) "u32"]
    r.passUniforms 0 = [⟨"color", "f32", .u32 [4], false⟩, ⟨"scale", "f32", .f32 [3], false⟩] ∧
      r.passUniforms 1 = [⟨"color", "u32", .u32 [2], false⟩] ∧
      r.warnings = [.uniformTypeChanged "color" "f32" "u32"] := by decide

end ShaderInterface
