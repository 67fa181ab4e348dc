/-
The registry changed in place.

A `Store` holds what a registry holds, but the mesh uniforms of all passes share one list, and a call works on the store
step by step: it looks something up, takes entries out, writes others back, appends a warning. A call that fails leaves
behind what it has written so far. `Store.Represents` ties a store to a registry: the lists are the same, and the
entries of a pass are, in order, the mesh uniforms of that pass.

- `passUniforms_rebuild`: taking the entries of one pass out and appending them again moves no other pass.
- `map_setPayload`: where kind and name identify resources, new contents reach one of them.
- `call_follows`: a call makes of the store what the declaration makes of the registry, and a call that fails has
  written nothing.
- `represents_run`: so a store represents the registry of its history.
-/
import ShaderInterface.Proofs.Resource.UniformLists

namespace ShaderInterface

/-! ## The store -/

/-- a mesh uniform with the pass it belongs to -/
structure MeshEntry where
  pass : Nat
  uniform : Uniform
deriving DecidableEq

structure Store where
  uniforms : List Uniform := []
  /-- the mesh uniforms of every pass -/
  meshUniforms : List MeshEntry := []
  resources : List Resource := []
  constants : List Constant := []
  warnings : List Warning := []
deriving DecidableEq

/-- an operation on the store; a failure keeps the store as it is by then -/
abbrev Call (α : Type) := EStateM Error Store α

namespace Store

/-- the mesh uniforms of a pass, in the order of the shared list -/
def passUniforms (s : Store) (pass : Nat) : List Uniform := (s.meshUniforms.filter (·.pass = pass)).map (·.uniform)

/-- where the resource of a kind and name stands -/
def position? (s : Store) (kind : ResourceKind) (name : String) : Option Nat := s.resources.findIdx? (·.is kind name)

def warn (warning : Warning) : Call Unit := modify fun s => { s with warnings := s.warnings ++ [warning] }

def push (new : Resource) : Call Unit := modify fun s => { s with resources := s.resources ++ [new] }

def declareUniform (u : Uniform) : Call Unit := do
  let warning := typeChange? u (← get).uniforms
  modify fun s => { s with uniforms := upsert u s.uniforms }
  warning.forM warn

/-- the entries of the pass are taken out of the shared list and come back at its end -/
def declareMeshUniform (pass : Nat) (u : Uniform) : Call Unit := do
  let own := (← get).passUniforms pass
  modify fun s => { s with meshUniforms := s.meshUniforms.filter (·.pass ≠ pass) }
  modify fun s => { s with meshUniforms := s.meshUniforms ++ (upsert u own).map (⟨pass, ·⟩) }
  (typeChange? u own).forM warn

def declareResource (new : Resource) : Call Unit := do
  match (← get).position? new.kind new.name with
  | some _ => warn (.duplicateDeclaration new.kind new.name)
  | none => push new

def declareStorage (name type : String) (readable : Bool) (payload : Option Bytes) (options : DeclareOptions) :
    Call Unit := do
  match (← get).position? .storage name with
  | some _ => throw (.duplicateStorage name)
  | none =>
    match TypeExpr.parse type with
    | .error e => throw e
    | .ok type => push ⟨name, options.internal, .storage type options.visibility readable payload⟩

def replacePayload (name : String) (bytes : Bytes) : Call Unit := do
  let s ← get
  match s.position? .storage name with
  | none => throw (.unknownResource name)
  | some i =>
    match s.resources[i]? with
    | some ⟨name, internal, .storage type visibility readable (some _)⟩ =>
      set { s with resources := s.resources.set i ⟨name, internal, .storage type visibility readable (some bytes)⟩ }
    | _ => throw (.storageNotMapped name)

def declareBindingTexture (name readName : String) (format : TexelFormat) (writer reader : Option Nat)
    (internal : Bool) : Call Unit :=
  match writer, reader with
  | some writer, some reader =>
    declareResource ⟨name, internal, .bindingTexture readName format (some ⟨writer, reader⟩)⟩
  | none, none => declareResource ⟨name, internal, .bindingTexture readName format none⟩
  | _, _ => throw (.halfPinnedTexture name)

def declareConstant (c : Constant) : Call Unit := do
  if (← get).constants.any (·.name = c.name) then throw (.duplicateConstant c.name)
  modify fun s => { s with constants := s.constants ++ [c] }

/-- carry out one declaration -/
def call : Declaration → Call Unit
  | .uniform internal name value type => declareUniform ⟨name, type, value, internal⟩
  | .meshUniform pass name value type => declareMeshUniform pass ⟨name, type, value, false⟩
  | .storage name type readable payload o => declareStorage name type readable payload o
  | .payload name bytes => replacePayload name bytes
  | .layers count width height o => declareResource ⟨layersName, o.internal, .layers count width height o.visibility⟩
  | .sampler name type o => declareResource ⟨name, o.internal, .sampler type o.visibility⟩
  | .storageTexture name format o => declareResource ⟨name, o.internal, .storageTexture format o.visibility⟩
  | .texture name o => declareResource ⟨name, o.internal, .texture o.visibility⟩
  | .depthTexture name writer o => declareResource ⟨name, o.internal, .depthTexture writer o.visibility⟩
  | .textureArray name o => declareResource ⟨name, o.internal, .textureArray o.visibility⟩
  | .externalTexture name o => declareResource ⟨name, o.internal, .externalTexture o.visibility⟩
  | .bindingTexture name readName format writer reader internal =>
    declareBindingTexture name readName format writer reader internal
  | .constant name type value => declareConstant ⟨name, type, value⟩

/-- the store after one call, whether it succeeds or fails -/
def step (s : Store) (d : Declaration) : Store :=
  match (call d).run s with
  | .ok _ s => s
  | .error _ s => s

/-- the store after a history of calls -/
def run (history : List Declaration) : Store := history.foldl step {}

/-- the store holds the registry -/
structure Represents (s : Store) (r : Registry) : Prop where
  uniforms : s.uniforms = r.uniforms
  meshes : ∀ pass, s.passUniforms pass = r.passUniforms pass
  resources : s.resources = r.resources
  constants : s.constants = r.constants
  warnings : s.warnings = r.warnings

/-- what a call makes of the store, against what the declaration makes of the registry: both succeed and the store
represents the new registry, or both fail alike and the store is the same as before -/
inductive Follows (s : Store) : EStateM.Result Error Store Unit → Except Error Registry → Prop where
  | succeeds {after : Store} {r : Registry} (represents : after.Represents r) : Follows s (.ok () after) (.ok r)
  | fails (e : Error) : Follows s (.error e s) (.error e)

/-! ## Lists -/

/-- the entries of one pass, taken out and appended anew, move no other pass -/
theorem passUniforms_rebuild {s after : Store} {pass : Nat} {own : List Uniform}
    (h : after.meshUniforms = s.meshUniforms.filter (·.pass ≠ pass) ++ own.map (⟨pass, ·⟩)) (index : Nat) :
    after.passUniforms index = if index = pass then own else s.passUniforms index := by
  have hold : ((s.meshUniforms.filter (·.pass ≠ pass)).filter (·.pass = index)).map (·.uniform) =
      if index = pass then [] else s.passUniforms index := by
    rw [List.filter_filter]
    split
    · next heq =>
      rw [heq, List.filter_eq_nil_iff.2 (by simp)]
      rfl
    · next hne =>
      rw [passUniforms]
      congr 1
      apply List.filter_congr
      intro entry _
      by_cases hentry : entry.pass = index
      · simp [hentry, hne]
      · simp [hentry]
  have hnew : ((own.map (MeshEntry.mk pass ·)).filter (·.pass = index)).map (·.uniform) =
      if index = pass then own else [] := by
    split
    · next heq => simp [heq, List.filter_map, Function.comp_def]
    · next hne => simp [List.filter_map, Function.comp_def, Ne.symm hne]
  rw [passUniforms, h, List.filter_append, List.map_append, hold, hnew]
  split
  · rfl
  · exact List.append_nil _

/-- new contents reach the one resource of that kind and name -/
theorem map_setPayload {resources : List Resource} (hkeys : (resources.map Resource.key).Nodup) {i : Nat}
    {storage : Resource} (hi : resources[i]? = some storage) {name : String} (his : storage.is .storage name = true)
    (bytes : Bytes) :
    resources.map (·.setPayload name bytes) = resources.set i (storage.setPayload name bytes) := by
  obtain ⟨hlt, hget⟩ := List.getElem?_eq_some_iff.1 hi
  apply List.ext_getElem?
  intro j
  rw [List.getElem?_map, List.getElem?_set]
  split
  · next heq => rw [← heq, hi, Option.map_some]
  · next hne =>
    cases hj : resources[j]? with
    | none => rfl
    | some other =>
      have hother : ¬ other.is .storage name = true := by
        intro hotheris
        have hkey : (resources.map Resource.key)[i]? = (resources.map Resource.key)[j]? := by
          rw [List.getElem?_map, List.getElem?_map, hi, hj, Option.map_some, Option.map_some, Resource.is_iff.1 his,
            Resource.is_iff.1 hotheris]
        exact hne ((List.getElem?_inj (by simpa using hlt) hkeys).1 hkey)
      rw [Option.map_some, Resource.setPayload, if_neg hother]

/-! ## One call -/

section Call

variable {s : Store} {r : Registry}

theorem Represents.position?_eq_none (h : s.Represents r) {kind : ResourceKind} {name : String}
    (hp : s.position? kind name = none) : r.find? kind name = none := by
  rw [position?, List.findIdx?_eq_none_iff, h.resources] at hp
  rw [Registry.find?, List.find?_eq_none]
  intro t ht
  simp [hp t ht]

theorem Represents.position?_eq_some (h : s.Represents r) {kind : ResourceKind} {name : String} {i : Nat}
    (hp : s.position? kind name = some i) :
    ∃ t, s.resources[i]? = some t ∧ t.is kind name = true ∧ r.find? kind name = some t := by
  obtain ⟨hlt, his, hfirst⟩ := List.findIdx?_eq_some_iff_getElem.1 hp
  refine ⟨s.resources[i], List.getElem?_eq_getElem hlt, his, ?_⟩
  rw [Registry.find?, ← h.resources]
  refine List.find?_eq_some_iff_getElem.2 ⟨his, i, hlt, rfl, ?_⟩
  intro j hj
  simpa using hfirst j hj

theorem run_forM_warn (warning : Option Warning) (s : Store) :
    (warning.forM warn : Call PUnit).run s = .ok () { s with warnings := s.warnings ++ warning.toList } := by
  cases warning with
  | none => simp [Option.forM]
  | some w => simp [Option.forM, warn]

theorem follows_declareUniform (h : s.Represents r) (u : Uniform) :
    s.Follows ((declareUniform u).run s) (.ok (r.declareUniform u)) := by
  simp only [declareUniform, EStateM.run_bind, EStateM.run_get, EStateM.run_modify, run_forM_warn]
  exact .succeeds ⟨by simp [h.uniforms, Registry.declareUniform], h.meshes, h.resources, h.constants,
    by simp [h.uniforms, h.warnings, Registry.declareUniform]⟩

theorem follows_declareMeshUniform (h : s.Represents r) (pass : Nat) (u : Uniform) :
    s.Follows ((declareMeshUniform pass u).run s) (.ok (r.declareMeshUniform pass u)) := by
  simp only [declareMeshUniform, EStateM.run_bind, EStateM.run_get, EStateM.run_modify, run_forM_warn, h.meshes]
  refine .succeeds ⟨h.uniforms, fun index => ?_, h.resources, h.constants, congrArg (· ++ _) h.warnings⟩
  have hinsert : (r.declareMeshUniform pass u).meshUniforms =
      r.meshUniforms.insert pass (upsert u (r.passUniforms pass)) := rfl
  rw [Registry.passUniforms_of_insert hinsert, ← h.meshes index]
  exact passUniforms_rebuild rfl index

theorem Represents.warn (h : s.Represents r) (warning : Warning) :
    { s with warnings := s.warnings ++ [warning] : Store }.Represents
      { r with warnings := r.warnings ++ [warning] } :=
  ⟨h.uniforms, h.meshes, h.resources, h.constants, congrArg (· ++ [warning]) h.warnings⟩

theorem Represents.push (h : s.Represents r) (new : Resource) :
    { s with resources := s.resources ++ [new] : Store }.Represents { r with resources := r.resources ++ [new] } :=
  ⟨h.uniforms, h.meshes, congrArg (· ++ [new]) h.resources, h.constants, h.warnings⟩

theorem follows_declareResource (h : s.Represents r) (new : Resource) :
    s.Follows ((declareResource new).run s) (.ok (r.declareResource new)) := by
  unfold declareResource Registry.declareResource
  rw [EStateM.run_bind, EStateM.run_get]
  cases hp : s.position? new.kind new.name with
  | none =>
    rw [h.position?_eq_none hp]
    simp only [hp, Store.push, EStateM.run_modify]
    exact .succeeds (h.push new)
  | some i =>
    obtain ⟨t, -, -, hfind⟩ := h.position?_eq_some hp
    rw [hfind]
    simp only [hp, Store.warn, EStateM.run_modify]
    exact .succeeds (h.warn _)

theorem follows_declareStorage (h : s.Represents r) (name type : String) (readable : Bool) (payload : Option Bytes)
    (options : DeclareOptions) :
    s.Follows ((declareStorage name type readable payload options).run s)
      (r.declareStorage name type readable payload options) := by
  unfold declareStorage Registry.declareStorage
  rw [EStateM.run_bind, EStateM.run_get]
  cases hp : s.position? .storage name with
  | none =>
    rw [h.position?_eq_none hp]
    simp only [hp]
    cases TypeExpr.parse type with
    | error e => exact .fails e
    | ok parsed =>
      simp only [Store.push, EStateM.run_modify]
      exact .succeeds (h.push _)
  | some i =>
    obtain ⟨t, -, -, hfind⟩ := h.position?_eq_some hp
    rw [hfind]
    simp only [hp]
    exact .fails _

theorem follows_replacePayload (h : s.Represents r) (hid : r.Identified) (name : String) (bytes : Bytes) :
    s.Follows ((replacePayload name bytes).run s) (r.replacePayload name bytes) := by
  unfold replacePayload Registry.replacePayload
  rw [EStateM.run_bind, EStateM.run_get]
  cases hp : s.position? .storage name with
  | none =>
    rw [h.position?_eq_none hp]
    simp only [hp]
    exact .fails _
  | some i =>
    obtain ⟨⟨own, internal, details⟩, hi, his, hfind⟩ := h.position?_eq_some hp
    obtain ⟨hkind, -⟩ := Prod.mk.inj (Resource.is_iff.1 his)
    rw [hfind]
    cases details with
    | storage type visibility readable payload =>
      cases payload with
      | none =>
        simp only [hp, hi]
        exact .fails _
      | some old =>
        have hset := map_setPayload hid.keys (h.resources ▸ hi) his bytes
        rw [Resource.setPayload, if_pos his] at hset
        simp only [hp, hi, EStateM.run_set]
        exact .succeeds ⟨h.uniforms, h.meshes, by rw [h.resources]; exact hset.symm, h.constants, h.warnings⟩
    | _ => exact absurd hkind nofun

theorem follows_declareBindingTexture (h : s.Represents r) (name readName : String) (format : TexelFormat)
    (writer reader : Option Nat) (internal : Bool) :
    s.Follows ((declareBindingTexture name readName format writer reader internal).run s)
      (r.declareBindingTexture name readName format writer reader internal) := by
  cases writer with
  | none =>
    cases reader with
    | none => exact follows_declareResource h _
    | some reader => exact .fails _
  | some writer =>
    cases reader with
    | none => exact .fails _
    | some reader => exact follows_declareResource h _

theorem follows_declareConstant (h : s.Represents r) (c : Constant) :
    s.Follows ((declareConstant c).run s) (r.declareConstant c) := by
  unfold declareConstant Registry.declareConstant
  rw [EStateM.run_bind, EStateM.run_get, ← h.constants]
  cases hknown : s.constants.any (·.name = c.name) with
  | true =>
    simp only [hknown]
    exact .fails _
  | false =>
    simp only [hknown]
    exact .succeeds ⟨h.uniforms, h.meshes, h.resources, rfl, h.warnings⟩

/-- **A call follows the declaration**: it makes of the store what the declaration makes of the registry, and when it
fails the store is the same as before. -/
theorem call_follows (h : s.Represents r) (hid : r.Identified) (d : Declaration) :
    s.Follows ((call d).run s) (r.declare d) := by
  cases d with
  | uniform => exact follows_declareUniform h _
  | meshUniform => exact follows_declareMeshUniform h _ _
  | storage => exact follows_declareStorage h ..
  | payload => exact follows_replacePayload h hid _ _
  | layers => exact follows_declareResource h _
  | sampler => exact follows_declareResource h _
  | storageTexture => exact follows_declareResource h _
  | texture => exact follows_declareResource h _
  | depthTexture => exact follows_declareResource h _
  | textureArray => exact follows_declareResource h _
  | externalTexture => exact follows_declareResource h _
  | bindingTexture => exact follows_declareBindingTexture h ..
  | constant => exact follows_declareConstant h _

theorem represents_step (h : s.Represents r) (hid : r.Identified) (d : Declaration) :
    (s.step d).Represents (r.step d) := by
  have hfollows := call_follows h hid d
  unfold step Registry.step
  generalize (call d).run s = result, r.declare d = outcome at hfollows
  cases hfollows with
  | succeeds represents => exact represents
  | fails e => exact h

end Call

/-! ## Every call -/

/-- **A store represents the registry of its history.** -/
theorem represents_run (history : List Declaration) : (run history).Represents (Registry.run history) := by
  suffices h : ∀ s r, s.Represents r → r.Identified →
      (history.foldl step s).Represents (history.foldl Registry.step r) from
    h {} .empty ⟨rfl, fun _ => rfl, rfl, rfl, rfl⟩ (Registry.identified_run [])
  induction history with
  | nil => exact fun s r h _ => h
  | cons d rest ih => exact fun s r h hid => ih _ _ (represents_step h hid d) (Registry.identified_step r d hid)

end Store
end ShaderInterface
