import NewApi.ChannelSelection

/-!
# Vision interception

A sub-call describes the images of a request before the distributor looks for a channel. Its own
channel is selected in the context of the request.
-/

namespace NewApi

open GoStrings

structure UserVisionSetting where
  enabled : Bool
  visionSuffix : String
  visionModel : String
deriving DecidableEq, Repr

def visionInterceptPaths : List String :=
  ["/v1/chat/completions", "/v1/messages", "/v1/responses", "/chat/completions", "/messages"]

/-- What the middleware reads of a request, and the models of its token if they are limited. -/
structure VisionRequest where
  path : String
  vision : Option UserVisionSetting
  modelName : String
  modelLimit : Option (List String)
deriving DecidableEq, Repr

def VisionRequest.intercepts (request : VisionRequest) (setting : UserVisionSetting) : Bool :=
  request.path ∈ visionInterceptPaths && setting.enabled && trimSpace setting.visionSuffix ≠ "" &&
    trimSpace setting.visionModel ≠ "" && hasSuffix request.modelName setting.visionSuffix

/-- The keys of a request context that tell how far the auto groups have been tried. -/
structure AutoGroupKeys where
  autoGroup : Option String
  autoGroupIndex : Option Nat
  autoGroupRetryIndex : Option Nat
deriving DecidableEq, Repr

/-- A group of images: it has a description in a cache or by a call in flight, it is refused
before a sub-call, or a sub-call with the channels of `lookup` is tried. -/
inductive ImageGroup (Candidate : Type) where
  | described
  | refused
  | relayed (lookup : Lookup Candidate) (succeeds : Bool)

section

variable {Candidate : Type} (settings : RetrySettings) (request : AutoRequest)

/-- `CacheGetRandomSatisfiedChannel` with a new retry parameter on a context. The retry index is
reset with every group that is passed over. -/
def AutoGroupKeys.select (keys : AutoGroupKeys) (lookup : Lookup Candidate) :
    AutoGroupKeys × Option (Selected Candidate) :=
  match cacheGetRandomSatisfiedChannel settings request lookup ⟨keys.autoGroupIndex, 0, false⟩ with
  | .error _ => (keys, none)
  | .ok (state, found) =>
    let reached := (found.map Selected.group).getD request.autoGroups.length
    ({ autoGroup := found.elim keys.autoGroup fun selected => request.autoGroups[selected.group]?
       autoGroupIndex := state.autoGroupIndex
       autoGroupRetryIndex :=
         if keys.autoGroupIndex.getD 0 < reached then some 0 else keys.autoGroupRetryIndex }, found)

/-- The loop of `InterceptImages`: the context of the request and the number of sub-calls. -/
def interceptImages : List (ImageGroup Candidate) → AutoGroupKeys → AutoGroupKeys × Nat
  | [], keys | .refused :: _, keys => (keys, 0)
  | .described :: groups, keys => interceptImages groups keys
  | .relayed lookup succeeds :: groups, keys =>
    match keys.select settings request lookup with
    | (after, none) => (after, 0)
    | (after, some _) =>
      if succeeds then (interceptImages groups after).map id (· + 1) else (after, 1)

def visionIntercept (vision : VisionRequest) (groups : List (ImageGroup Candidate))
    (keys : AutoGroupKeys) : AutoGroupKeys × Nat :=
  if vision.vision.any vision.intercepts then interceptImages settings request groups keys
  else (keys, 0)

/-- The context is as before, so that the channels are chosen as before, and a sub-call is made
only for a model of the token. -/
structure Undisturbed (Candidate : Type) (formatMatchingModelName : String → String)
    (vision : VisionRequest) (before : AutoGroupKeys) (after : AutoGroupKeys × Nat) : Prop where
  keys : after.1 = before
  choices : ∀ (lookup : Lookup Candidate) retry reset,
    cacheGetRandomSatisfiedChannel settings request lookup ⟨after.1.autoGroupIndex, retry, reset⟩ =
      cacheGetRandomSatisfiedChannel settings request lookup ⟨before.autoGroupIndex, retry, reset⟩
  limited : after.2 ≠ 0 → ∀ models ∈ vision.modelLimit, ∀ setting ∈ vision.vision,
    formatMatchingModelName setting.visionModel ∈ models

def ReachesRelay : List (ImageGroup Candidate) → Prop
  | .described :: groups => ReachesRelay groups
  | .relayed _ _ :: _ => True
  | _ => False

variable {settings request}

theorem searchGroups_index {crossGroupRetry : Bool} {lookup : Lookup Candidate}
    {start place : Nat} {groups : List String} {state : SelectionState}
    (moves : groups ≠ [] ∨ state.autoGroupIndex.isSome) :
    (searchGroups settings crossGroupRetry lookup start groups place
      state).1.autoGroupIndex.isSome := by
  induction groups generalizing place state with
  | nil => exact moves.resolve_left (· rfl)
  | cons group groups induction =>
    rw [searchGroups]
    generalize (if start < place then 0 else state.retry) = priorityRetry
    cases lookup place group priorityRetry with
    | none => exact induction (.inr rfl)
    | some =>
      dsimp only
      split <;> rfl

variable {groups : List (ImageGroup Candidate)} {keys : AutoGroupKeys}

theorem select_index (lookup : Lookup Candidate) (groupsGiven : request.autoGroups ≠ [])
    (inside : keys.autoGroupIndex = none ∨ keys.autoGroupIndex.isSome) :
    (keys.select settings request lookup).1.autoGroupIndex.isSome := by
  simp only [AutoGroupKeys.select,cacheGetRandomSatisfiedChannel,groupsGiven]
  apply searchGroups_index
  rcases inside with fresh | moved
  · simpa [fresh] using groupsGiven
  · exact .inr moved

/-- A sub-call that is tried leaves a place in the context for good. -/
theorem interceptImages_index (groupsGiven : request.autoGroups ≠ [])
    (moves : keys.autoGroupIndex.isSome ∨ keys.autoGroupIndex = none ∧ ReachesRelay groups) :
    (interceptImages settings request groups keys).1.autoGroupIndex.isSome := by
  induction groups generalizing keys with
  | nil => exact moves.resolve_right (·.2)
  | cons group groups induction =>
    cases group with
    | described => exact induction moves
    | refused => exact moves.resolve_right (·.2)
    | relayed lookup succeeds =>
      have placed : (keys.select settings request lookup).1.autoGroupIndex.isSome :=
        select_index lookup groupsGiven (moves.symm.imp_left And.left)
      rw [interceptImages]
      generalize keys.select settings request lookup = selection at placed ⊢
      obtain ⟨after,_ | selected⟩ := selection
      · exact placed
      · cases succeeds with
        | false => exact placed
        | true => exact induction (.inl placed)

theorem interceptImages_of_none (quiet : request.autoGroups = [] ∨ ¬ ReachesRelay groups) :
    interceptImages settings request groups keys = (keys, 0) := by
  induction groups with
  | nil => rfl
  | cons group groups induction =>
    cases group with
    | described => exact induction quiet
    | refused => rfl
    | relayed =>
      have noGroups := quiet.resolve_right (· trivial)
      simp [interceptImages,AutoGroupKeys.select,cacheGetRandomSatisfiedChannel,noGroups]

end

/-- Nothing has written the keys before the middleware. Any sub-call that is tried disturbs the
request. -/
theorem vision_undisturbed_iff {Candidate : Type} (settings : RetrySettings) (request : AutoRequest)
    (formatMatchingModelName : String → String) (vision : VisionRequest)
    (groups : List (ImageGroup Candidate)) :
    Undisturbed settings request Candidate formatMatchingModelName vision ⟨none, none, none⟩
        (visionIntercept settings request vision groups ⟨none, none, none⟩) ↔
      vision.vision.any vision.intercepts = false ∨ request.autoGroups = [] ∨
        ¬ ReachesRelay groups := by
  constructor
  · intro undisturbed
    by_contra disturbed
    simp only [not_or,not_not,Bool.not_eq_false] at disturbed
    obtain ⟨intercepts,groupsGiven,reaches⟩ := disturbed
    have placed : (interceptImages settings request groups
        ⟨none,none,none⟩).1.autoGroupIndex.isSome :=
      interceptImages_index groupsGiven (.inr ⟨rfl,reaches⟩)
    have keys := undisturbed.keys
    rw [visionIntercept,if_pos intercepts] at keys
    simp [keys] at placed
  · intro quiet
    have unchanged : visionIntercept settings request vision groups ⟨none,none,none⟩ =
        (⟨none,none,none⟩, 0) := by
      unfold visionIntercept
      split_ifs with intercepts
      · exact interceptImages_of_none (quiet.resolve_left (by simp [intercepts]))
      · rfl
    rw [unchanged]
    exact ⟨rfl,fun _ _ _ => rfl,fun calls => absurd rfl calls⟩

/-- The vision model is served in the second group and the requested one in the first: after a
sub-call for a model that the token does not have, no channel is found for the request. -/
theorem vision_hides_channel :
    let settings : RetrySettings := ⟨3, fun _ => false, fun _ => false⟩
    let request : AutoRequest := ⟨["a", "b"], false, "m-see", false, false⟩
    let vision : VisionRequest :=
      ⟨"/v1/messages", some ⟨true, "-see", "eye"⟩, "m-see", some ["m-see"]⟩
    let served (group : Nat) : Lookup Unit := fun place _ _ => if place = group then some () else none
    let after := visionIntercept settings request vision [.relayed (served 1) true] ⟨none, none, none⟩
    after = (⟨some "b", some 1, some 0⟩, 1) ∧
      (((⟨none, none, none⟩ : AutoGroupKeys).select settings request (served 0)).2.isSome ∧
        (after.1.select settings request (served 0)).2 = none) := by
  decide +kernel

end NewApi
