/-
A resource that is declared late, and what a refresh says of it.

A resource takes the last place of its kind, so a late one shifts the slots of all kinds behind its own. These hold
other resources whatever they are called, since a slot shows its kind. So the first slot that differs is the one that
the late resource takes, and a refresh names it, with what it holds now and what it held before.

- `inBindingOrder_withResource`: where a late resource comes in the order of bindings.
- `candidates_withResource`: what it does to a group: nothing, or one slot more, with other kinds behind.
- `verifyRefresh_inserted`: one slot more is what a refresh reports.
- `refresh_detects`: a refresh succeeds exactly where the late resource is not bound, and otherwise names its slot.
-/
import ShaderInterface.Proofs.Binding.SlotOrder
import ShaderInterface.Proofs.Pipeline.StableBindings

namespace ShaderInterface

open Outcome

/-! ## Late resources -/

/-- the registry with one more resource -/
def Registry.withResource (r : Registry) (new : Resource) : Registry := { r with resources := r.resources ++ [new] }

/-- the later registry has one more resource, of a new kind and name, and else differs in values and contents only -/
structure Registry.Gains (r : Registry) (new : Resource) (after : Registry) : Prop where
  fresh : new.key ∉ r.resources.map Resource.key
  kept : ∃ kept, r.SameSlots kept ∧ after = kept.withResource new

theorem Registry.SameSlots.keys {r after : Registry} (h : r.SameSlots after) :
    after.resources.map Resource.key = r.resources.map Resource.key := by
  have hkey : ∀ resources : List Resource,
      resources.map Resource.key = (resources.map Resource.shape).map Resource.key := by
    intro resources
    rw [List.map_map]
    exact List.map_congr_left fun s _ => Prod.ext s.kind_shape.symm rfl
  rw [hkey, h.resources, ← hkey]

/-- **What a registry gains by a declaration**: after calls that change values only, a declaration of a kind and name
that the registry has not is either refused, or appends the resource. -/
theorem Registry.gains_of_declare {r after : Registry} {updates : List Declaration} (h : r.ValueUpdates updates)
    {d : Declaration} {key : ResourceKind × String} (hkey : d.key? = some key)
    (hfresh : key ∉ r.resources.map Resource.key) (hd : (updates.foldl step r).declare d = .ok after) :
    ∃ new, new.key = key ∧ after.resources.getLast? = some new ∧ r.Gains new after := by
  have hsame := sameSlots_run h
  cases effect_of_declare hd with
  | keep new hown known =>
    obtain rfl := Option.some.inj (hkey.symm.trans hown)
    rw [hsame.keys] at known
    exact absurd known hfresh
  | append new hown =>
    obtain rfl := Option.some.inj (hkey.symm.trans hown)
    exact ⟨new, rfl, List.getLast?_concat, hfresh, _, hsame, rfl⟩
  | _ => simp [Declaration.key?] at hkey

theorem ofKind_withResource (r : Registry) (new : Resource) (kind : ResourceKind) :
    (r.withResource new).ofKind kind = r.ofKind kind ++ if new.kind = kind then [new] else [] := by
  rw [Registry.ofKind, Registry.withResource, List.filter_append, List.filter_singleton]
  simp [Registry.ofKind]

/-- other kinds have the resources that they had -/
theorem flatMap_ofKind_withResource (r : Registry) {new : Resource} {kinds : List ResourceKind}
    (h : new.kind ∉ kinds) : kinds.flatMap (r.withResource new).ofKind = kinds.flatMap r.ofKind := by
  apply List.flatMap_congr
  intro kind hkind
  have hne : new.kind ≠ kind := fun heq => h (heq ▸ hkind)
  rw [ofKind_withResource, if_neg hne, List.append_nil]

theorem ResourceKind.all_split (kind : ResourceKind) :
    ∃ early late, all = early ++ kind :: late ∧ kind ∉ early ∧ kind ∉ late := by
  have hmem : kind ∈ all := by cases kind <;> decide
  have hnodup : all.Nodup := by decide
  obtain ⟨early, late, hsplit⟩ := List.append_of_mem hmem
  rw [hsplit, List.nodup_middle, List.nodup_cons, List.mem_append, not_or] at hnodup
  exact ⟨early, late, hsplit, hnodup.1⟩

/-- **The place of a late resource**: behind all others of its kind, ahead of the kinds that come later. -/
theorem inBindingOrder_withResource (r : Registry) (new : Resource) :
    ∃ ahead behind, r.inBindingOrder = ahead ++ behind ∧
      (r.withResource new).inBindingOrder = ahead ++ new :: behind ∧ ∀ s ∈ behind, s.kind ≠ new.kind := by
  obtain ⟨early, late, hsplit, hearly, hlate⟩ := new.kind.all_split
  refine ⟨early.flatMap r.ofKind ++ r.ofKind new.kind, late.flatMap r.ofKind, ?_, ?_, ?_⟩
  · rw [Registry.inBindingOrder, hsplit, List.flatMap_append, List.flatMap_cons, List.append_assoc]
  · rw [Registry.inBindingOrder, hsplit, List.flatMap_append, List.flatMap_cons, flatMap_ofKind_withResource r hearly,
      flatMap_ofKind_withResource r hlate, ofKind_withResource, if_pos rfl]
    simp only [List.append_assoc, List.singleton_append]
  · intro s hs heq
    obtain ⟨kind, hkind, hs⟩ := List.mem_flatMap.1 hs
    have hskind : s.kind = kind := by simpa using (List.mem_filter.1 hs).2
    exact hlate (heq ▸ hskind ▸ hkind)

/-! ## Slots of a group -/

/-- an element is found behind those that are not it -/
theorem idxOf?_middle {α : Type} [DecidableEq α] {a : α} {ahead behind : List α} (h : a ∉ ahead) :
    (ahead ++ a :: behind).idxOf? a = some ahead.length := by
  induction ahead with
  | nil => simp [List.idxOf?_cons]
  | cons b ahead ih =>
    obtain ⟨hne, hnot⟩ := List.ne_and_not_mem_of_not_mem_cons h
    rw [List.cons_append, List.idxOf?_cons, if_neg (by simpa using Ne.symm hne), ih hnot]
    rfl

/-- the kind of the resource that a slot holds, if it holds a resource -/
def BoundResource.kind? : BoundResource → Option ResourceKind
  | .uniforms _ | .meshUniforms => none
  | .storage _ _ => some .storage
  | .layers => some .layers
  | .sampler _ _ => some .sampler
  | .storageTexture _ _ => some .storageTexture
  | .texture _ => some .texture
  | .depthTexture _ => some .depthTexture
  | .textureArray _ => some .textureArray
  | .externalTexture _ => some .externalTexture
  | .bindingTextureWrite _ _ | .bindingTextureRead _ => some .bindingTexture

theorem Resource.kind_slot (r : Resource) (stage : Stage) : (r.slot stage).kind? = some r.kind := by
  obtain ⟨name, internal, details⟩ := r
  cases details with
  | bindingTexture readName format pinned => cases stage <;> rfl
  | _ => rfl

/-- the slot that a stage gives to a resource in a group: the next one behind the blocks and the resources ahead -/
def slotIndex? (registry : Registry) (pass : PassContext) (stage : Stage) (group : Nat) (r : Resource) : Option Nat :=
  ((boundResources registry pass stage group).idxOf? r).map ((blockCandidates registry pass group).length + ·)

section Group

variable {r : Registry} {new : Resource} {pass : PassContext} {stage : Stage} {group : Nat}

theorem groupCandidates_append (resources others : List Resource) :
    groupCandidates pass stage group (resources ++ others) =
      groupCandidates pass stage group resources ++ groupCandidates pass stage group others := by
  rw [groupCandidates, List.filter_append, List.filterMap_append, groupCandidates, groupCandidates]

/-- there is a candidate for each bound resource -/
theorem length_groupCandidates (resources : List Resource) :
    (groupCandidates pass stage group resources).length =
      (resources.filter (·.boundInGroup pass stage group)).length := by
  rw [groupCandidates, List.length_filterMap_eq_countP, List.countP_eq_length_filter, List.filter_filter]
  congr 1
  apply List.filter_congr
  intro s _
  exact Bool.and_comm _ _

theorem groupCandidates_of_unbound (h : new.boundInGroup pass stage group = false) :
    groupCandidates pass stage group [new] = [] := by
  rw [← List.length_eq_zero_iff, length_groupCandidates, List.filter_singleton, h]
  rfl

theorem exists_groupCandidates_of_bound (h : new.boundInGroup pass stage group = true) :
    new.internal = decide (group = internalGroup) ∧
      ∃ c, new.candidate? pass stage = some c ∧ groupCandidates pass stage group [new] = [c] := by
  obtain ⟨howner, hbound⟩ := Bool.and_eq_true_iff.1 h
  obtain ⟨c, hc⟩ := Option.isSome_iff_exists.1 hbound
  refine ⟨of_decide_eq_true howner, c, hc, ?_⟩
  rw [groupCandidates, List.filter_cons, if_pos howner, List.filter_nil, List.filterMap_cons, hc, List.filterMap_nil]

theorem slotIndex?_eq_none {registry : Registry} {s : Resource} :
    slotIndex? registry pass stage group s = none ↔ s ∉ boundResources registry pass stage group := by
  rw [slotIndex?, Option.map_eq_none_iff, List.idxOf?_eq_none_iff]

/-- a bound resource has the slot behind the blocks and what is bound ahead of it -/
theorem slotIndex?_of_bound {registry : Registry} {ahead behind : List Resource}
    (horder : registry.inBindingOrder = ahead ++ new :: behind) (hahead : new ∉ ahead)
    (hbound : new.boundInGroup pass stage group = true) :
    slotIndex? registry pass stage group new =
      some (blockCandidates registry pass group ++ groupCandidates pass stage group ahead).length := by
  have hnot : new ∉ ahead.filter (·.boundInGroup pass stage group) := fun hmem => hahead (List.mem_filter.1 hmem).1
  rw [slotIndex?, boundResources, horder, List.filter_append, List.filter_cons, if_pos hbound, idxOf?_middle hnot,
    Option.map_some, List.length_append, length_groupCandidates]

/-- resources of different kinds do not look alike -/
theorem resource_ne_of_kind {s t : Resource} {c d : Candidate} (hs : s.candidate? pass stage = some c)
    (ht : t.candidate? pass stage = some d) (hkind : s.kind ≠ t.kind) : c.resource ≠ d.resource := by
  intro heq
  have hkinds : some s.kind = some t.kind := by
    rw [← s.kind_slot stage, ← resource_of_candidate hs, heq, resource_of_candidate ht, t.kind_slot]
  exact hkind (Option.some.inj hkinds)

/-- what a late resource does to a group: nothing, or one slot more with other resources behind it -/
inductive LateSlot (r : Registry) (new : Resource) (pass : PassContext) (stage : Stage) (group : Nat) : Prop where
  | unbound (index : slotIndex? (r.withResource new) pass stage group new = none)
    (same : candidates (r.withResource new) pass stage group = candidates r pass stage group)
  | bound (ahead behind : List Candidate) (c : Candidate) (candidate : new.candidate? pass stage = some c)
    (owner : new.internal = decide (group = internalGroup))
    (index : slotIndex? (r.withResource new) pass stage group new = some ahead.length)
    (before : candidates r pass stage group = ahead ++ behind)
    (now : candidates (r.withResource new) pass stage group = ahead ++ c :: behind)
    (other : ∀ d ∈ behind, d.resource ≠ c.resource)

/-- **A late resource in a group.** Behind its slot there are other kinds only, so nothing there looks like it. -/
theorem candidates_withResource (hfresh : new ∉ r.resources) (pass : PassContext) (stage : Stage) (group : Nat) :
    LateSlot r new pass stage group := by
  obtain ⟨ahead, behind, horder, horder', hkinds⟩ := inBindingOrder_withResource r new
  have hblocks : blockCandidates (r.withResource new) pass group = blockCandidates r pass group := rfl
  have hbefore : candidates r pass stage group = blockCandidates r pass group ++
      groupCandidates pass stage group ahead ++ groupCandidates pass stage group behind := by
    rw [candidates_eq, horder, groupCandidates_append, List.append_assoc]
  have hnow : candidates (r.withResource new) pass stage group = blockCandidates r pass group ++
      groupCandidates pass stage group ahead ++
        (groupCandidates pass stage group [new] ++ groupCandidates pass stage group behind) := by
    rw [candidates_eq, hblocks, horder', ← List.singleton_append, groupCandidates_append, groupCandidates_append,
      List.append_assoc]
  cases hnew : new.boundInGroup pass stage group with
  | true =>
    obtain ⟨howner, c, hc, hsingle⟩ := exists_groupCandidates_of_bound hnew
    have hahead : new ∉ ahead := by
      intro hmem
      have hin : new ∈ r.inBindingOrder := horder ▸ List.mem_append_left behind hmem
      exact hfresh (mem_of_mem_inBindingOrder hin)
    have hindex := slotIndex?_of_bound horder' hahead hnew
    rw [hblocks] at hindex
    rw [hsingle, List.singleton_append] at hnow
    refine .bound _ _ c hc howner hindex hbefore hnow ?_
    intro d hd
    obtain ⟨s, hs, hcandidate⟩ := List.mem_filterMap.1 hd
    exact resource_ne_of_kind hcandidate hc (hkinds s (List.mem_filter.1 hs).1)
  | false =>
    refine .unbound ?_ ?_
    · rw [slotIndex?_eq_none, boundResources, List.mem_filter, hnew]
      simp
    · rw [hnow, hbefore, groupCandidates_of_unbound hnew, List.nil_append]

/-- the slots of a group are its candidates, numbered -/
theorem synthesize_append {registry : Registry} {ahead behind : List Candidate}
    (h : candidates registry pass stage group = ahead ++ behind) :
    (synthesize registry pass stage group).assignments =
      ahead.zipIdx.map (assign stage group) ++ (behind.zipIdx ahead.length).map (assign stage group) := by
  simp only [synthesize, h, List.zipIdx_append, List.map_append, Nat.zero_add]

end Group

/-! ## Refreshes -/

/-- **One slot more** behind those that have not changed is what a refresh reports, if what stood there is another
resource. -/
theorem verifyRefresh_inserted {common layout refreshed : List Assignment} {found : Assignment} {index : Nat}
    (hindex : common.length = index) (hother : ∀ a ∈ layout, a.resource ≠ found.resource) :
    verifyRefresh (common ++ layout) (common ++ found :: refreshed) =
      .error (.bindingMismatch (Size.clamp index) (common ++ layout)[index]? (some found)) := by
  have hpart : PartAt layout (found :: refreshed) 0 := by
    cases layout with
    | nil => exact .surplus (Nat.le_refl 0) (Nat.succ_pos _)
    | cons a layout => exact partAt_cons_zero.2 fun hagree => hother a List.mem_cons_self hagree.resource
  have hleast := isLeast_partAt_append common (isLeast_partAt_zero hpart)
  rw [Nat.add_zero, hindex] at hleast
  have hfound : (common ++ found :: refreshed)[index]? = some found := by
    rw [List.getElem?_append_right (Nat.le_of_eq hindex), hindex, Nat.sub_self, List.getElem?_cons_zero]
  exact verifyRefresh_eq_error_iff.2 ⟨index, hleast, by rw [hfound]⟩

theorem refreshGroup_eq_error {now : Registry} {context : PassContext} {stage : Stage} {old : GroupBindings} {e : Error}
    (h : verifyRefresh old.assignments (synthesize now context stage old.group).assignments = .error e) :
    CompiledPipeline.refreshGroup now context stage old = .error e := by
  rw [CompiledPipeline.refreshGroup, h]
  rfl

/-- an error that reports slot `index`, which the late resource holds now, with what it held in the bindings `old` -/
structure ReportsSlot (after : Registry) (pass : PassContext) (stage : Stage) (new : Resource) (old : GroupBindings)
    (index : Nat) (e : Error) : Prop where
  error : ∃ c, new.candidate? pass stage = some c ∧
    (synthesize after pass stage old.group).assignments[index]? = some (assign stage old.group (c, index)) ∧
    e = .bindingMismatch (Size.clamp index) old.assignments[index]? (some (assign stage old.group (c, index)))
  report : ReportsAt old.assignments (synthesize after pass stage old.group).assignments index e
  /-- the slot held something before, unless it is the last one now -/
  last : old.assignments[index]? = none ↔
    (synthesize after pass stage old.group).assignments.length = index + 1

section Inserted

variable {registry now : Registry} {new : Resource} {pass : PassContext} {stage : Stage} {group : Nat}
  {ahead behind : List Candidate} {c : Candidate}

theorem length_assigned (numbered : List Candidate) :
    (numbered.zipIdx.map (assign stage group)).length = numbered.length := by
  rw [List.length_map, List.length_zipIdx]

/-- a candidate that is new in the group is what the check finds, if those behind it look different -/
theorem verifyRefresh_late (before : candidates registry pass stage group = ahead ++ behind)
    (after : candidates now pass stage group = ahead ++ c :: behind) (other : ∀ d ∈ behind, d.resource ≠ c.resource) :
    verifyRefresh (synthesize registry pass stage group).assignments (synthesize now pass stage group).assignments =
      .error (.bindingMismatch (Size.clamp ahead.length)
        (synthesize registry pass stage group).assignments[ahead.length]?
        (some (assign stage group (c, ahead.length)))) := by
  rw [synthesize_append before, synthesize_append after, List.zipIdx_cons, List.map_cons]
  apply verifyRefresh_inserted (length_assigned ahead)
  intro a ha
  obtain ⟨⟨d, i⟩, hd, rfl⟩ := List.mem_map.1 ha
  exact other d (List.fst_mem_of_mem_zipIdx hd)

/-- and this finding reports the slot of the resource that the candidate is for -/
theorem reportsSlot_late (before : candidates registry pass stage group = ahead ++ behind)
    (after : candidates now pass stage group = ahead ++ c :: behind) (candidate : new.candidate? pass stage = some c) :
    ReportsSlot now pass stage new (synthesize registry pass stage group) ahead.length
      (.bindingMismatch (Size.clamp ahead.length) (synthesize registry pass stage group).assignments[ahead.length]?
        (some (assign stage group (c, ahead.length)))) := by
  have hnow := synthesize_append after
  rw [List.zipIdx_cons, List.map_cons] at hnow
  have hslot : (synthesize now pass stage group).assignments[ahead.length]? =
      some (assign stage group (c, ahead.length)) := by
    rw [hnow, List.getElem?_append_right (Nat.le_of_eq (length_assigned ahead)), length_assigned, Nat.sub_self,
      List.getElem?_cons_zero]
  refine ⟨⟨c, candidate, hslot, rfl⟩, ?_, ?_⟩
  · rw [reportsAt_iff, ← hslot]
    rfl
  · show _ ↔ (synthesize now pass stage group).assignments.length = _
    rw [synthesize_append before, hnow, List.getElem?_eq_none_iff]
    simp only [List.length_append, List.length_cons, List.length_map, List.length_zipIdx]
    omega

end Inserted

/-- **A refresh of a group** succeeds if the late resource is not bound in it, and else reports its slot. -/
theorem refreshGroup_late {registry after : Registry} {new : Resource} (hgain : registry.Gains new after)
    (pass : PassContext) (stage : Stage) (group : Nat) :
    let old := synthesize registry pass stage group
    (slotIndex? after pass stage group new = none ∧ CompiledPipeline.refreshGroup after pass stage old = .ok old) ∨
      ∃ index e, slotIndex? after pass stage group new = some index ∧
        new.internal = decide (group = internalGroup) ∧
        CompiledPipeline.refreshGroup after pass stage old = .error e ∧
        ReportsSlot after pass stage new old index e := by
  intro old
  obtain ⟨kept, hsame, rfl⟩ := hgain.kept
  have hfresh : new ∉ kept.resources := by
    intro hmem
    apply hgain.fresh
    rw [← hsame.keys]
    exact List.mem_map_of_mem hmem
  have hold : synthesize kept pass stage group = old := synthesize_congr hsame pass stage group
  rw [← hold]
  cases candidates_withResource hfresh pass stage group with
  | unbound index same =>
    refine .inl ⟨index, refreshGroup_self ?_⟩
    show synthesize (kept.withResource new) pass stage group = _
    rw [synthesize, same, synthesize]
  | bound ahead behind c candidate owner index before now other =>
    exact .inr ⟨_, _, index, owner, refreshGroup_eq_error (verifyRefresh_late before now other),
      reportsSlot_late before now candidate⟩

/-- the groups of a pass have different owners -/
theorem PassContext.group_inj (pass : PassContext) {group other : Nat} (hgroup : group ∈ pass.groups)
    (hother : other ∈ pass.groups) (h : decide (group = internalGroup) = decide (other = internalGroup)) :
    group = other := by
  have hrange : ∀ g ∈ pass.groups, g = userGroup ∨ g = internalGroup := by
    intro g hg
    unfold PassContext.groups at hg
    split at hg
    · simpa using hg
    · exact .inl (List.mem_singleton.1 hg)
  rcases hrange group hgroup with rfl | rfl <;> rcases hrange other hother with rfl | rfl
  · rfl
  · simp [userGroup, internalGroup] at h
  · simp [userGroup, internalGroup] at h
  · rfl

/-- **A late resource is detected.** After a pipeline is compiled, its registry gains one resource of whatever kind. In
every pass, a refresh of a stage that does not bind the resource answers with the groups that were compiled. Any other
refresh fails and reports the slot of the resource in its group: by number, with what holds it now, and with what held
it when the group was compiled, which is nothing if the resource comes last. -/
theorem refresh_detects {pipeline : Pipeline} {compiled : CompiledPipeline} (h : pipeline.compile = .ok compiled)
    {after : Registry} {new : Resource} (hgain : pipeline.registry.Gains new after) {index : Nat} {pass : CompiledPass}
    (hpass : compiled.pass? index = some pass) {stage : Stage} {cs : CompiledStage}
    (hstage : pass.stage? stage = some cs) :
    ((∀ group ∈ pass.context.groups, slotIndex? after pass.context stage group new = none) →
        compiled.refreshBindings after index stage = .ok cs.bindings) ∧
      ∀ group ∈ pass.context.groups, ∀ i, slotIndex? after pass.context stage group new = some i →
        ∃ old ∈ cs.bindings, old.group = group ∧ ∃ e, compiled.refreshBindings after index stage = .error e ∧
          ReportsSlot after pass.context stage new old i e := by
  obtain ⟨source, -, hof⟩ := source_of_pass h hpass
  have hcs : cs ∈ pass.stages := List.mem_of_find?_eq_some hstage
  have hown : cs.stage = stage := by simpa using List.find?_some hstage
  have hbindings : cs.bindings = pass.context.groups.map (synthesize pipeline.registry pass.context stage) := by
    rw [hof.bindings_of_mem hcs, hown]
  have hrefresh : compiled.refreshBindings after index stage =
      cs.bindings.mapM (CompiledPipeline.refreshGroup after pass.context stage) := by
    rw [CompiledPipeline.refreshBindings, CompiledPipeline.getPass_of_pass? hpass]
    simp only [bind, Except.bind, hstage]
  have hlate := refreshGroup_late hgain pass.context stage
  rw [hrefresh, hbindings]
  constructor
  · intro hnone
    apply mapM_eq_ok_self
    rw [List.forall_mem_map]
    intro group hgroup
    obtain ⟨-, hok⟩ | ⟨i, -, hsome, -⟩ := hlate group
    · exact hok
    · simp [hnone group hgroup] at hsome
  · intro group hgroup i hi
    obtain ⟨hnone, -⟩ | ⟨i', e, hsome, howner, herror, hreports⟩ := hlate group
    · simp [hi] at hnone
    · obtain rfl := Option.some.inj (hi.symm.trans hsome)
      refine ⟨_, List.mem_map_of_mem hgroup, rfl, e, ?_, hreports⟩
      apply mapM_eq_error (List.mem_map_of_mem hgroup) herror
      rw [List.forall_mem_map]
      intro other hother hne
      obtain ⟨-, hok⟩ | ⟨-, -, -, howner', -⟩ := hlate other
      · exact hok
      · rw [pass.context.group_inj hother hgroup (howner'.symm.trans howner)] at hne
        exact absurd rfl hne

/-- a sampler that only fragments see -/
def lateSampler : Resource := ⟨"late", false, .sampler .filtering ⟨2⟩⟩

/-- the store of the video after a frame, with the sampler declared -/
def lateRegistry : Registry :=
  (videoFrame.foldl Registry.step (Registry.run videoDecls)).step (.sampler "late" .filtering ⟨false, ⟨2⟩⟩)

theorem late_gains : (Registry.run videoDecls).Gains lateSampler lateRegistry := by
  obtain ⟨new, -, hlast, hgain⟩ := Registry.gains_of_declare videoFrame_valueUpdates
    (d := .sampler "late" .filtering ⟨false, ⟨2⟩⟩) rfl (by decide +kernel) rfl
  have hnew : lateRegistry.resources.getLast? = some lateSampler := by decide +kernel
  obtain rfl := Option.some.inj (hlast.symm.trans hnew)
  exact hgain

/-- the slot of the video when the pipeline was compiled -/
def videoSlot : Assignment := ⟨.externalTexture "video", .fragment, 0, 4, .read⟩

/-- the vertex stage does not see the sampler; in the fragment stage it takes the slot of the video -/
theorem late_refresh_detects :
    ∃ compiled, Pipeline.compile ⟨Registry.run videoDecls, videoPasses⟩ = .ok compiled ∧
      (Registry.run videoDecls).Gains lateSampler lateRegistry ∧ ∃ pass, compiled.pass? 0 = some pass ∧
        (∃ cs, pass.stage? .vertex = some cs ∧ compiled.refreshBindings lateRegistry 0 .vertex = .ok cs.bindings) ∧
        ∃ cs, pass.stage? .fragment = some cs ∧ ∃ old ∈ cs.bindings, old.assignments[4]? = some videoSlot ∧
          ∃ e, compiled.refreshBindings lateRegistry 0 .fragment = .error e ∧
            ReportsSlot lateRegistry pass.context .fragment lateSampler old 4 e ∧
            e = .bindingMismatch 4 (some videoSlot) (some ⟨.sampler "late" .filtering, .fragment, 0, 4, .read⟩) ∧
            e.message = "Binding 4 no longer matches its layout: expected external texture `video` (read), " ++
              "found sampler `late` (read)" := by
  obtain ⟨compiled, h, pass, hpass, hcontext, hvertex, fragment, hfragment, hvideo⟩ := exists_of_any
    (p := fun compiled : CompiledPipeline => ∃ pass ∈ compiled.pass? 0, pass.context = ⟨0, false⟩ ∧
      (pass.stage? .vertex).isSome = true ∧ ∃ cs ∈ pass.stage? .fragment, ∀ bindings ∈ cs.bindings,
        bindings.assignments[4]? = some videoSlot)
    (x := Pipeline.compile ⟨Registry.run videoDecls, videoPasses⟩) (by decide +kernel)
  obtain ⟨vertex, hvertex⟩ := Option.isSome_iff_exists.1 hvertex
  obtain ⟨hunbound, -⟩ := refresh_detects h late_gains hpass hvertex
  obtain ⟨-, hbound⟩ := refresh_detects h late_gains hpass hfragment
  obtain ⟨old, hold, hgroup, e, herror, hreports⟩ := hbound userGroup (by rw [hcontext]; decide) 4
    (by rw [hcontext]; decide +kernel)
  have hcandidate : lateSampler.candidate? pass.context .fragment =
      some (readHandle (.sampler "late" .filtering) "sampler") := rfl
  obtain ⟨c, hc, -, he⟩ := hreports.error
  obtain rfl := Option.some.inj (hc.symm.trans hcandidate)
  rw [hvideo old hold, hgroup] at he
  refine ⟨compiled, h, late_gains, pass, hpass, ⟨vertex, hvertex, hunbound (by rw [hcontext]; decide +kernel)⟩,
    fragment, hfragment, old, hold, hvideo old hold, e, herror, hreports, he, ?_⟩
  rw [he]
  decide +kernel

end ShaderInterface
