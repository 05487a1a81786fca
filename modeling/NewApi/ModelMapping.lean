import Mathlib.Data.List.AList
import Mathlib.Dynamics.PeriodicPts.Defs

/-!
# Following the model mapping of a channel

The mapping is a finite function; a chain that leaves no model twice ends, and the loop finds its
end or the first model that comes back.
-/

namespace NewApi

open Function Finset

abbrev ModelMap := AList fun _ : String => String

namespace ModelMap

variable (modelMap : ModelMap)

def entry (model : String) : Option String :=
  (modelMap.lookup model).filter (· ≠ "")

/-- One step along the chain, which stays at its last model. -/
def next (model : String) : String :=
  (modelMap.entry model).getD model

def targets : Finset String :=
  (modelMap.entries.map Sigma.snd).toFinset

def EntersCycle (origin : String) : Prop :=
  ∃ steps, modelMap.next^[steps] origin ∈ periodicPts modelMap.next ∧
    ¬ IsFixedPt modelMap.next (modelMap.next^[steps] origin)

def EndsAt (origin last : String) : Prop :=
  IsFixedPt modelMap.next last ∧ ∃ steps, modelMap.next^[steps] origin = last

end ModelMap

open ModelMap

variable {modelMap : ModelMap} {origin currentModel last mapped : String} {visited : Finset String}

theorem mem_targets (found : modelMap.entry currentModel = some mapped) :
    mapped ∈ modelMap.targets := by
  have listed := (Option.filter_eq_some_iff.mp found).1
  exact List.mem_toFinset.mpr (List.mem_map_of_mem (AList.mem_lookup_iff.mp listed))

/-- The loop over the mapping: the error of a cycle, `none` for the return at an origin that is
mapped to itself, or the model and the flag with which it is left. -/
def mappingLoop (modelMap : ModelMap) (origin currentModel : String) (visited : Finset String)
    (isModelMapped : Bool) : Except String (Option (String × Bool)) :=
  match _found : modelMap.entry currentModel with
  | none => .ok (some (currentModel, isModelMapped))
  | some mapped =>
    if mapped ∈ visited then
      if mapped = currentModel then
        if currentModel = origin then .ok none else .ok (some (currentModel, true))
      else .error "model_mapping_contains_cycle"
    else mappingLoop modelMap origin mapped (insert mapped visited) true
termination_by #(modelMap.targets \ visited)
decreasing_by
  have new : mapped ∈ modelMap.targets \ visited := mem_sdiff.mpr ⟨mem_targets _found, ‹_›⟩
  simpa only [sdiff_insert] using card_erase_lt_of_mem new

/-- What `ModelMappedHelper` reads and writes. -/
@[ext]
structure MappedModel where
  originModelName : String
  isModelMapped : Bool
  upstreamModelName : String
  -- None for a nil or Gemini chat request, several for a batch.
  requestModels : List String
deriving DecidableEq, Repr

namespace MappedModel

variable (info : MappedModel)

def setModelName : MappedModel :=
  if info.upstreamModelName = "" then info
  else { info with requestModels := info.requestModels.map fun _ => info.upstreamModelName }

/-- `modelMapping` is `none` for an empty text and `{}`, `some none` for one that is no object of
strings. -/
def modelMappedHelper (modelMapping : Option (Option ModelMap)) : Except String MappedModel :=
  match modelMapping with
  | none => .ok info.setModelName
  | some none => .error "unmarshal_model_mapping_failed"
  | some (some modelMap) =>
    match mappingLoop modelMap info.originModelName info.originModelName
      {info.originModelName} info.isModelMapped with
    | .error error => .error error
    | .ok none => .ok { info with isModelMapped := false }
    | .ok (some (currentModel, isModelMapped)) =>
      .ok { info with
        isModelMapped := isModelMapped
        upstreamModelName :=
          if isModelMapped then currentModel else info.upstreamModelName }.setModelName

/-- Another model of the chain, or the origin, written everywhere. -/
def mappedTo (last : String) : MappedModel :=
  { info with
    isModelMapped := last ≠ info.originModelName
    upstreamModelName := last
    requestModels := info.requestModels.map fun _ => last }

end MappedModel

theorem ModelMap.EndsAt.not_entersCycle (ends : modelMap.EndsAt origin last) :
    ¬ modelMap.EntersCycle origin := by
  obtain ⟨fixed,steps,rfl⟩ := ends
  rintro ⟨later,⟨period,positive,periodic⟩,moves⟩
  obtain ⟨more,enough⟩ := Nat.exists_eq_add_of_le (Nat.le_mul_of_pos_left steps positive)
  -- That many rounds lead back to the model, and to the last one.
  have back := periodic.mul_const steps
  rw [IsPeriodicPt,IsFixedPt,enough,← iterate_add_apply,
    show steps + more + later = more + later + steps by omega,iterate_add_apply] at back
  exact moves (back ▸ (fixed.iterate _).symm ▸ fixed)

theorem next_of_entry (found : modelMap.entry currentModel = some mapped) :
    modelMap.next currentModel = mapped := by
  simp [ModelMap.next,found]

theorem fixed_of_missing (missing : modelMap.entry currentModel = none) :
    IsFixedPt modelMap.next currentModel := by
  simp [IsFixedPt,ModelMap.next,missing]

theorem ne_of_entry (found : modelMap.entry currentModel = some mapped) : mapped ≠ "" := by
  simpa using (Option.filter_eq_some_iff.mp found).2

/-- What the loop finds from a model whose visited predecessors lead to it. -/
theorem mappingLoop_spec (modelMap : ModelMap) (isModelMapped : Bool) (known : origin ∈ visited)
    (here : currentModel ∈ visited)
    (behind : ∀ model ∈ visited, ∃ steps, modelMap.next^[steps] model = currentModel) :
    match mappingLoop modelMap origin currentModel visited isModelMapped with
    | .error error => error = "model_mapping_contains_cycle" ∧ modelMap.EntersCycle currentModel
    | .ok none => currentModel = origin ∧ modelMap.entry origin = some origin
    | .ok (some (last, flag)) => modelMap.EndsAt currentModel last ∧
      (modelMap.entry currentModel = none ∧ last = currentModel ∧ flag = isModelMapped ∨
        last ≠ origin ∧ last ≠ "" ∧ flag = true) := by
  fun_induction mappingLoop modelMap origin currentModel visited isModelMapped with
  | case1 currentModel visited _ missing =>
    exact ⟨⟨fixed_of_missing missing,0,rfl⟩,.inl ⟨missing,rfl,rfl⟩⟩
  | case2 visited _ mapped found => exact ⟨rfl,found⟩
  | case3 visited _ mapped seen found other =>
    exact ⟨⟨next_of_entry found,0,rfl⟩,.inr ⟨other,ne_of_entry found,rfl⟩⟩
  | case4 currentModel visited _ mapped found seen other =>
    obtain ⟨steps,back⟩ := behind mapped seen
    rw [← next_of_entry found] at back other
    exact ⟨rfl,0,mk_mem_periodicPts steps.succ_pos back,other⟩
  | case5 currentModel visited _ mapped found unseen ih =>
    have step := next_of_entry found
    have later := ih (mem_insert_of_mem known) (mem_insert_self _ _) ?_
    · generalize mappingLoop modelMap origin mapped (insert mapped visited) true = exit at later ⊢
      match exit, later with
      | .error _, ⟨same,steps,cycle⟩ =>
        exact ⟨same,steps + 1,by rwa [iterate_succ_apply,step]⟩
      | .ok none, ⟨isOrigin,_⟩ => exact absurd known (isOrigin ▸ unseen)
      | .ok (some (last, flag)), ⟨⟨fixed,steps,reached⟩,left⟩ =>
        refine ⟨⟨fixed,steps + 1,by rwa [iterate_succ_apply,step]⟩,.inr ?_⟩
        rcases left with ⟨-,rfl,set⟩ | left
        · exact ⟨fun same => unseen (same ▸ known),ne_of_entry found,set⟩
        · exact left
    · refine (forall_mem_insert _ _ _).mpr ⟨⟨0,rfl⟩,fun model old => ?_⟩
      obtain ⟨steps,reached⟩ := behind model old
      exact ⟨steps + 1,by rw [iterate_succ_apply',reached,step]⟩

open MappedModel

/-- The error exactly on a cycle, and otherwise the last model of the chain everywhere. -/
def FollowsMapping (modelMap : ModelMap) (info : MappedModel)
    (result : Except String MappedModel) : Prop :=
  (result = .error "model_mapping_contains_cycle" ↔ modelMap.EntersCycle info.originModelName) ∧
    (¬ modelMap.EntersCycle info.originModelName →
      ∃ last, modelMap.EndsAt info.originModelName last ∧ result = .ok (info.mappedTo last))

/-- When the origin is the last model, nothing of another model is left from before. -/
def NothingStale (modelMap : ModelMap) (info : MappedModel) : Prop :=
  modelMap.next info.originModelName = info.originModelName →
    info.upstreamModelName = info.originModelName ∧
      (modelMap.entry info.originModelName = none → info.isModelMapped = false) ∧
      (modelMap.entry info.originModelName ≠ none ∨ info.originModelName = "" →
        ∀ model ∈ info.requestModels, model = info.originModelName)

theorem followsMapping_of_fixed {info after : MappedModel}
    (fixed : IsFixedPt modelMap.next info.originModelName) :
    FollowsMapping modelMap info (.ok after) ↔ after = info.mappedTo info.originModelName := by
  have ends : modelMap.EndsAt info.originModelName info.originModelName := ⟨fixed,0,rfl⟩
  have only (last : String) : modelMap.EndsAt info.originModelName last ↔
      last = info.originModelName := by
    refine ⟨?_,fun same => same ▸ ends⟩
    rintro ⟨-,steps,rfl⟩
    exact fixed.iterate steps
  simp [FollowsMapping,ends.not_entersCycle,only]

theorem setModelName_eq_mappedTo_iff {info : MappedModel} {upstream : String}
    (missing : modelMap.entry info.originModelName = none)
    (kept : info.isModelMapped = false → upstream = info.upstreamModelName) :
    { info with upstreamModelName := upstream }.setModelName = info.mappedTo info.originModelName ↔
      NothingStale modelMap info := by
  have fixed := fixed_of_missing missing
  simp only [NothingStale,fixed.eq,
    setModelName]
  split_ifs <;> simp [mappedTo] <;> grind [List.eq_replicate_length]

/-- Followed exactly when nothing is left from before: without an entry the flag is not cleared,
and the return at a self-mapped origin writes no model name. -/
theorem mapping_followed_iff (modelMapping : Option ModelMap) (info : MappedModel) :
    FollowsMapping (modelMapping.getD ∅) info (info.modelMappedHelper (modelMapping.map some)) ↔
      NothingStale (modelMapping.getD ∅) info := by
  cases modelMapping with
  | none =>
    exact (followsMapping_of_fixed (fixed_of_missing rfl)).trans
      (setModelName_eq_mappedTo_iff rfl fun _ => rfl)
  | some modelMap =>
    have spec := mappingLoop_spec modelMap info.isModelMapped
      (mem_singleton_self info.originModelName) (mem_singleton_self info.originModelName)
      (by simpa using ⟨0,rfl⟩)
    simp only [Option.map_some,modelMappedHelper]
    generalize mappingLoop modelMap info.originModelName info.originModelName
      {info.originModelName} info.isModelMapped = exit at spec ⊢
    match exit, spec with
    | .error _, ⟨rfl,cycle⟩ =>
      refine iff_of_true ⟨iff_of_true rfl cycle,absurd cycle⟩ fun fixed => ?_
      exact absurd cycle (EndsAt.not_entersCycle ⟨fixed,0,rfl⟩)
    | .ok none, ⟨_,own⟩ =>
      have fixed := next_of_entry own
      refine (followsMapping_of_fixed fixed).trans ?_
      simp [NothingStale,fixed,own,mappedTo,List.eq_replicate_length]
    | .ok (some (last, flag)), ⟨_,.inl ⟨missing,isOrigin,kept⟩⟩ =>
      subst isOrigin kept
      exact (followsMapping_of_fixed (fixed_of_missing missing)).trans
        (setModelName_eq_mappedTo_iff missing fun unmapped => by simp [unmapped])
    | .ok (some (last, flag)), ⟨ends,.inr ⟨other,named,set⟩⟩ =>
      subst set
      refine iff_of_true ⟨iff_of_false nofun ends.not_entersCycle,fun _ => ⟨_,ends,?_⟩⟩ ?_
      · simp [setModelName,mappedTo,named,other]
      · intro fixed
        obtain ⟨-,steps,rfl⟩ := ends
        exact absurd (IsFixedPt.iterate fixed steps) other

/-- A flag that was set stays set for a model without an entry. -/
theorem flag_left_set :
    let modelMap : ModelMap := AList.singleton "gpt-4" "gpt-4o"
    let info : MappedModel := ⟨"o1", true, "o1", ["o1"]⟩
    info.modelMappedHelper (some (some modelMap)) = .ok info ∧
      ¬ FollowsMapping modelMap info (info.modelMappedHelper (some (some modelMap))) := by
  intro modelMap info
  have unchanged : info.modelMappedHelper (some (some modelMap)) = .ok info := by
    rw [modelMappedHelper,mappingLoop]
    rfl
  refine ⟨unchanged,fun follows => ?_⟩
  rw [unchanged,followsMapping_of_fixed (fixed_of_missing rfl)] at follows
  exact absurd follows (by decide)

end NewApi
