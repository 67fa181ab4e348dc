/-
Bindings stay where they are while values change.

The slots of a stage depend on which uniforms and resources there are and not on their values and contents. So a call
that changes a value, replaces contents, repeats a declaration, declares a constant or is refused leaves every slot
as it was, and bindings that are refreshed afterwards are those that were compiled.

- `sameSlots_step`, `sameSlots_run`: what one such call and a sequence of them keep.
- `synthesize_congr`: bindings are made from that, and from nothing else.
- `refresh_stable`: a refresh answers with the compiled bindings.
-/
import ShaderInterface.Proofs.Binding.FirstDivergence
import ShaderInterface.Proofs.Pipeline.Compilation
import ShaderInterface.Proofs.Resource.InPlace

namespace ShaderInterface

open Outcome

/-! ## Resources but for their contents -/

/-- the resource with no contents, or with empty ones if it is a storage -/
def Resource.shape (r : Resource) : Resource := { r with details := r.details.withPayload [] }

theorem Resource.kind_shape (r : Resource) : r.shape.kind = r.kind := ResourceDetails.kind_withPayload [] r.details

theorem Resource.shape_setPayload (name : String) (bytes : Bytes) (r : Resource) :
    (r.setPayload name bytes).shape = r.shape := by
  obtain ⟨own, internal, details⟩ := r
  unfold Resource.setPayload
  split
  · cases details <;> rfl
  · rfl

/-- contents do not matter to where a resource is bound, and how -/
theorem Resource.candidate?_shape (r : Resource) (pass : PassContext) (stage : Stage) :
    r.shape.candidate? pass stage = r.candidate? pass stage := by
  obtain ⟨name, internal, details⟩ := r
  cases details <;> rfl

namespace Registry

variable {r after : Registry} {d : Declaration}

/-! ## Calls that change values only -/

/-- the call sets a value or contents, repeats a declaration, declares a constant, or is refused -/
inductive ValueOnly (r : Registry) : Declaration → Prop where
  | uniform {d : Declaration} (redeclares : r.Redeclares d) : ValueOnly r d
  | payload (name : String) (bytes : Bytes) : ValueOnly r (.payload name bytes)
  /-- the declaration of a resource whose kind and name are declared already -/
  | resource {d : Declaration} {key : ResourceKind × String} (declares : d.key? = some key)
    (known : key ∈ r.resources.map Resource.key) : ValueOnly r d
  | constant (name type value : String) : ValueOnly r (.constant name type value)
  | refused {d : Declaration} {e : Error} (error : r.declare d = .error e) : ValueOnly r d

/-- each call of the sequence, when its turn comes, changes values only -/
def ValueUpdates (r : Registry) : List Declaration → Prop
  | [] => True
  | d :: rest => r.ValueOnly d ∧ (r.step d).ValueUpdates rest

/-- the two have the same uniforms up to values and the same resources up to contents, in the same order -/
structure SameSlots (r after : Registry) : Prop where
  uniforms : r.SameUniforms after
  resources : after.resources.map Resource.shape = r.resources.map Resource.shape

theorem SameSlots.refl (r : Registry) : r.SameSlots r := ⟨.refl r, rfl⟩

theorem SameSlots.trans {last : Registry} (h : r.SameSlots after) (h' : after.SameSlots last) : r.SameSlots last :=
  ⟨h.uniforms.trans h'.uniforms, h'.resources.trans h.resources⟩

theorem resources_of_redeclares (h : r.Redeclares d) : (r.step d).resources = r.resources := by
  cases h with
  | uniform => rfl
  | meshUniform => rfl

/-- **A call that changes values only** keeps the uniforms up to values and the resources up to contents. -/
theorem sameSlots_step (hd : r.ValueOnly d) : r.SameSlots (r.step d) := by
  obtain ⟨_, -, hsame⟩ | ⟨hok, heffect⟩ := step_cases r d
  · rw [hsame]
    exact .refl r
  · cases hd with
    | uniform redeclares =>
      exact ⟨sameUniforms_step redeclares, congrArg _ (resources_of_redeclares redeclares)⟩
    | payload name bytes =>
      generalize r.step (.payload name bytes) = after at heffect
      cases heffect with
      | payload bytes found mapped =>
        refine ⟨⟨rfl, fun _ => rfl⟩, ?_⟩
        rw [List.map_map]
        exact List.map_congr_left fun s _ => s.shape_setPayload name bytes
      | keep new key known => exact absurd key nofun
      | append new key fresh named typed => exact absurd key nofun
    | resource declares known =>
      generalize r.step d = after at heffect
      cases heffect with
      | keep new key known => exact ⟨⟨rfl, fun _ => rfl⟩, rfl⟩
      | append new key fresh named typed =>
        -- only a new kind and name is appended
        rw [Option.some.inj (declares.symm.trans key)] at known
        exact absurd known fresh
      | _ => exact absurd declares nofun
    | constant name type value =>
      generalize r.step (.constant name type value) = after at heffect
      cases heffect with
      | constant c fresh => exact ⟨⟨rfl, fun _ => rfl⟩, rfl⟩
      | keep new key known => exact absurd key nofun
      | append new key fresh named typed => exact absurd key nofun
    | refused error => exact absurd (hok.symm.trans error) nofun

/-- **A sequence of such calls** does too. -/
theorem sameSlots_run {updates : List Declaration} (h : r.ValueUpdates updates) :
    r.SameSlots (updates.foldl step r) := by
  induction updates generalizing r with
  | nil => exact .refl r
  | cons d rest ih =>
    obtain ⟨hd, hrest⟩ := h
    exact (sameSlots_step hd).trans (ih hrest)

/-- two registries that one store represents differ in nothing that a slot depends on -/
theorem sameSlots_of_represents {s : Store} (h : s.Represents r) (h' : s.Represents after) : r.SameSlots after := by
  refine ⟨⟨?_, fun pass => ?_⟩, ?_⟩
  · rw [← h'.uniforms, h.uniforms]
  · rw [← h'.meshes, h.meshes]
  · rw [← h'.resources, h.resources]

end Registry

/-! ## Bindings -/

section Bindings

variable {r after : Registry}

theorem isEmpty_of_shape {uniforms others : List Uniform}
    (h : uniforms.map Uniform.shape = others.map Uniform.shape) : uniforms.isEmpty = others.isEmpty := by
  have hempty := congrArg List.isEmpty h
  rwa [List.isEmpty_map, List.isEmpty_map] at hempty

theorem inBindingOrder_shape (r : Registry) : r.inBindingOrder.map Resource.shape =
    ResourceKind.all.flatMap fun kind => (r.resources.map Resource.shape).filter (·.kind = kind) := by
  rw [Registry.inBindingOrder, List.map_flatMap]
  apply List.flatMap_congr
  intro kind _
  rw [Registry.ofKind, List.filter_map]
  simp only [Function.comp_def, Resource.kind_shape]

/-- the candidates of the resources of one owner do not depend on contents -/
theorem resourceCandidates_shape (resources : List Resource) (pass : PassContext) (stage : Stage) (internal : Bool) :
    ((resources.map Resource.shape).filter (·.internal = internal)).filterMap (·.candidate? pass stage) =
      (resources.filter (·.internal = internal)).filterMap (·.candidate? pass stage) := by
  rw [List.filter_map, List.filterMap_map]
  exact List.filterMap_congr fun s _ => s.candidate?_shape pass stage

theorem candidates_congr (h : r.SameSlots after) (pass : PassContext) (stage : Stage) (group : Nat) :
    candidates after pass stage group = candidates r pass stage group := by
  have hblock : ∀ internal, uniformCandidate? after internal = uniformCandidate? r internal := by
    intro internal
    rw [uniformCandidate?, isEmpty_of_shape (h.uniforms.group internal), uniformCandidate?]
  have hmesh : meshCandidate? after pass group = meshCandidate? r pass group := by
    rw [meshCandidate?, isEmpty_of_shape (h.uniforms.meshes pass.index), meshCandidate?]
  have horder : after.inBindingOrder.map Resource.shape = r.inBindingOrder.map Resource.shape := by
    rw [inBindingOrder_shape, inBindingOrder_shape, h.resources]
  have hresources : ∀ internal,
      (after.inBindingOrder.filter (·.internal = internal)).filterMap (·.candidate? pass stage) =
        (r.inBindingOrder.filter (·.internal = internal)).filterMap (·.candidate? pass stage) := by
    intro internal
    rw [← resourceCandidates_shape, horder, resourceCandidates_shape]
  simp only [candidates, hblock, hmesh, hresources]

/-- **Bindings do not depend on values and contents**, neither their text nor their slots. -/
theorem synthesize_congr (h : r.SameSlots after) (pass : PassContext) (stage : Stage) (group : Nat) :
    synthesize after pass stage group = synthesize r pass stage group := by
  unfold synthesize
  rw [candidates_congr h]

/-- a group that is synthesized as before is refreshed to itself -/
theorem refreshGroup_self {now : Registry} {context : PassContext} {stage : Stage} {old : GroupBindings}
    (h : synthesize now context stage old.group = old) :
    CompiledPipeline.refreshGroup now context stage old = .ok old := by
  rw [CompiledPipeline.refreshGroup, h, verifyRefresh_eq_ok_iff.2 rfl]
  rfl

end Bindings

/-- **Bindings stay where they are.** A pipeline is compiled, and then calls change the store in place: they set values
or contents, repeat declarations, declare constants, or are refused. In every pass, a refresh of every stage from that
store succeeds, and answers with the groups that were compiled: their text and all of their slots. -/
theorem refresh_stable {history updates : List Declaration} {passes : List RenderPass} {compiled : CompiledPipeline}
    (h : Pipeline.compile ⟨Registry.run history, passes⟩ = .ok compiled)
    (hupdates : (Registry.run history).ValueUpdates updates) {index : Nat} {pass : CompiledPass}
    (hpass : compiled.pass? index = some pass) {stage : Stage} {cs : CompiledStage}
    (hstage : pass.stage? stage = some cs) :
    (Store.run (history ++ updates)).Represents (Registry.run (history ++ updates)) ∧
      ∀ now, (Store.run (history ++ updates)).Represents now →
        compiled.refreshBindings now index stage = .ok cs.bindings := by
  have hrepresents := Store.represents_run (history ++ updates)
  refine ⟨hrepresents, ?_⟩
  intro now hnow
  obtain ⟨source, -, hof⟩ := source_of_pass h hpass
  have hrun : (Registry.run history).SameSlots (Registry.run (history ++ updates)) := by
    rw [Registry.run, Registry.run, List.foldl_append]
    exact Registry.sameSlots_run hupdates
  have hsame := hrun.trans (Registry.sameSlots_of_represents hrepresents hnow)
  have hcs : cs ∈ pass.stages := List.mem_of_find?_eq_some hstage
  have hown : cs.stage = stage := by simpa using List.find?_some hstage
  have hgroups : ∀ old ∈ cs.bindings, CompiledPipeline.refreshGroup now pass.context stage old = .ok old := by
    intro old hold
    rw [hof.bindings_of_mem hcs, hown] at hold
    obtain ⟨group, -, rfl⟩ := List.mem_map.1 hold
    exact refreshGroup_self (synthesize_congr hsame pass.context stage group)
  refine bind_eq_ok.2 ⟨pass, CompiledPipeline.getPass_of_pass? hpass, ?_⟩
  rw [hstage]
  exact mapM_eq_ok_self hgroups

/-- a video, with a histogram of it, and what changes from frame to frame -/
def videoDecls : List Declaration :=
  [.uniform false "time" (.f32 [0]) "f32", .meshUniform 0 "tint" (.f32 [0]) "f32",
    .meshUniform 1 "tint" (.f32 [0]) "f32", .sampler "linear" .filtering {}, .externalTexture "video" {},
    .storage "histogram" "array<u32, 4>" true (some (List.replicate 16 0)) {}]

def videoPasses : List RenderPass :=
  [⟨"video", false, none, some ⟨"video.vert", ""⟩, some ⟨"video.frag", ""⟩⟩]

def videoFrame : List Declaration :=
  [.uniform true "time" (.f32 [1]) "u32", .meshUniform 0 "tint" (.f32 [1]) "f32",
    .payload "histogram" (List.replicate 32 1), .externalTexture "video" {}, .constant "SIZE" "u32" "4",
    .bindingTexture "out" "in" .rgba16float (some 0) none false]

theorem videoFrame_valueUpdates : (Registry.run videoDecls).ValueUpdates videoFrame :=
  ⟨.uniform (.uniform (by decide +kernel) _ _ _), .uniform (.meshUniform (by decide +kernel) _ _), .payload _ _,
    .resource rfl (by decide +kernel), .constant _ _ _, .refused rfl, trivial⟩

theorem video_refresh_stable :
    ∃ compiled, Pipeline.compile ⟨Registry.run videoDecls, videoPasses⟩ = .ok compiled ∧
      (Registry.run videoDecls).ValueUpdates videoFrame ∧
      ∃ pass, compiled.pass? 0 = some pass ∧ ∃ cs, pass.stage? .fragment = some cs ∧
        compiled.refreshBindings (Registry.run (videoDecls ++ videoFrame)) 0 .fragment = .ok cs.bindings := by
  obtain ⟨compiled, h, hsome⟩ := exists_of_any (p := fun compiled : CompiledPipeline =>
    ((compiled.pass? 0).bind (·.stage? .fragment)).isSome = true)
    (x := Pipeline.compile ⟨Registry.run videoDecls, videoPasses⟩) (by decide +kernel)
  obtain ⟨cs, hcs⟩ := Option.isSome_iff_exists.1 hsome
  obtain ⟨pass, hpass, hstage⟩ := Option.bind_eq_some_iff.1 hcs
  obtain ⟨hrepresents, hrefresh⟩ := refresh_stable h videoFrame_valueUpdates hpass hstage
  exact ⟨compiled, h, videoFrame_valueUpdates, pass, hpass, cs, hstage, hrefresh _ hrepresents⟩

/-- a storage that is declared after compilation would take the slot of the sampler -/
example :
    let now := Registry.run (videoDecls ++ [.storage "late" "array<f32, 4>" false none {}])
    (Pipeline.compile ⟨Registry.run videoDecls, videoPasses⟩).toOption.any (fun compiled =>
      compiled.refreshBindings now 0 .fragment =
        .error (.bindingMismatch 3 (some ⟨.sampler "linear" .filtering, .fragment, 0, 3, .read⟩)
          (some ⟨.storage "late" false, .fragment, 0, 3, .read⟩))) = true := by decide +kernel

end ShaderInterface
