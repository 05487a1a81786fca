import Mathlib.Algebra.Ring.Nat
import NewApi.ChannelCache

/-! # Looking a channel up by group, model and retry number -/

namespace NewApi

open List

structure RandomDraw where
  intn : Nat → Nat
  below : ∀ bound, 0 < bound → intn bound < bound

/-- The channel a lookup answers with, and the priority under which it was found. -/
structure Routed where
  channelId : Int
  priority : Int
deriving DecidableEq

/-- The model and the path of a request. `pathCheck` says of an Advanced Custom channel whether
one of its routes serves the path and the model; other channels are not checked. -/
structure RouteRequest where
  modelName : String
  requestPath : String
  pathCheck : Int → Option Bool

def RouteRequest.serves (request : RouteRequest) (channelId : Int) : Bool :=
  decide (request.requestPath = "") || (request.pathCheck channelId).getD true

def uniquePriorities (priorities : List Int) : List Int :=
  priorities.dedup.insertionSort fun first second => second ≤ first

/-- The priority of a retry number; a number beyond the last priority is clamped to it. -/
def clampedPriority (priorities : List Int) (retry : Nat) : Option Int :=
  if retry ≥ priorities.length then priorities.getLast? else priorities[retry]?

/-- Walk over candidates and take their weights off a random number until the test stops it. -/
def weightedPick {Candidate : Type} (stops : Int → Bool) (weight : Candidate → Nat) :
    List Candidate → Int → Option Candidate
  | [], _ => none
  | candidate :: candidates, random =>
    let left := random - weight candidate
    if stops left then some candidate else weightedPick stops weight candidates left

/-! ### From the cache -/

structure ChannelIndex where
  group2model2channels : GroupModelChannels
  channelsIDM : Int → Option Channel
  known : ∀ group model id, id ∈ group2model2channels.channels group model →
    (channelsIDM id).isSome

def filterChannelsByRequestPathAndModel (index : ChannelIndex) (request : RouteRequest)
    (channels : List Int) : List Int :=
  if request.requestPath = "" ∨ channels = [] then channels
  else channels.filter fun id =>
    match index.channelsIDM id with
    | none => true
    | some _ => (request.pathCheck id).getD true

def pickByWeight (draw : RandomDraw) (targetChannels : List Channel) : Option Channel :=
  let weights := (targetChannels.map Channel.getWeight).sum
  let sumWeight := if weights = 0 then targetChannels.length * 100 else weights
  let smoothingAdjustment := if weights = 0 then 100 else 0
  let smoothingFactor :=
    if weights ≠ 0 ∧ weights / targetChannels.length < 10 then 100 else 1
  weightedPick (fun left => decide (left < 0))
    (fun channel => channel.getWeight * smoothingFactor + smoothingAdjustment) targetChannels
    (draw.intn (sumWeight * smoothingFactor))

/-- The ids that the cache offers for the request: those under the model's own name, or under its
normalized name when no channel of the former serves the request. -/
def cachedChannels (index : ChannelIndex) (request : RouteRequest) (group : String) : List Int :=
  let exact_ := index.group2model2channels.channels group request.modelName
  if filterChannelsByRequestPathAndModel index request exact_ = [] then
    index.group2model2channels.channels group (formatMatchingModelName request.modelName)
  else exact_

/-- `GetRandomSatisfiedChannel` with the cache; its caller takes an error for no channel. -/
def getRandomSatisfiedChannel (index : ChannelIndex) (request : RouteRequest) (draw : RandomDraw)
    (group : String) (retry : Nat) : Option Channel :=
  let channels := filterChannelsByRequestPathAndModel index request
    (cachedChannels index request group)
  match channels with
  | [] => none
  | [only] => index.channelsIDM only
  | _ => do
    let found ← channels.mapM index.channelsIDM
    let targetPriority ← clampedPriority (uniquePriorities (found.map Channel.getPriority)) retry
    pickByWeight draw (found.filter fun channel => channel.getPriority = targetPriority)

/-! ### From the ability table -/

def Ability.getPriority (ability : Ability) : Int := ability.priority.getD 0

def enabledAbilities (abilities : List Ability) (group model : String) : List Ability :=
  abilities.filter fun ability =>
    ability.group = group ∧ ability.model = model ∧ ability.enabled

/-- The priority that the query of `getChannelQuery` asks for. -/
def queriedPriority (priorities : List Int) (retry : Nat) : Option Int :=
  if retry = 0 then priorities.max? else clampedPriority (uniquePriorities priorities) retry

def pickAbility (draw : RandomDraw) (rows : List Ability) : Option Ability :=
  weightedPick (fun left => decide (left ≤ 0)) (fun ability => ability.weight + 10) rows
    (draw.intn (rows.map fun ability => ability.weight + 10).sum)

/-- `GetChannel`: the rows of one priority by falling weight, those that serve the path, and a
draw among them. -/
def getChannelFromAbilities (abilities : List Ability) (request : RouteRequest) (draw : RandomDraw)
    (group : String) (retry : Nat) : Option Ability := do
  let enabled := enabledAbilities abilities group request.modelName
  let priority ← queriedPriority (enabled.map Ability.getPriority) retry
  let rows := (enabled.filter fun ability => ability.getPriority = priority).insertionSort
    fun first second => second.weight ≤ first.weight
  pickAbility draw (rows.filter fun ability => request.serves ability.channelId)

/-! ### Both -/

structure ChannelDirectory where
  memoryCacheEnabled : Bool
  index : ChannelIndex
  abilities : List Ability

def lookupChannel (directory : ChannelDirectory) (request : RouteRequest) (draw : RandomDraw)
    (group : String) (retry : Nat) : Option Routed :=
  if directory.memoryCacheEnabled then
    (getRandomSatisfiedChannel directory.index request draw group retry).map fun channel =>
      { channelId := channel.id, priority := channel.getPriority }
  else
    (getChannelFromAbilities directory.abilities request draw group retry).map fun ability =>
      { channelId := ability.channelId, priority := ability.getPriority }

/-! ### Which priority a lookup answers with -/

variable {priorities lower : List Int} (draw : RandomDraw) {priority highest : Int} {retry : Nat}
  {channels : List Channel}

theorem mem_uniquePriorities : priority ∈ uniquePriorities priorities ↔ priority ∈ priorities := by
  unfold uniquePriorities
  rw [(perm_insertionSort _ _).mem_iff,mem_dedup]

theorem nodup_uniquePriorities (priorities : List Int) : (uniquePriorities priorities).Nodup :=
  (perm_insertionSort _ _).nodup_iff.mpr (nodup_dedup priorities)

theorem uniquePriorities_falls (priorities : List Int) :
    (uniquePriorities priorities).Pairwise fun first second => second ≤ first :=
  pairwise_insertionSort _ _

theorem uniquePriorities_eq_nil :
    uniquePriorities priorities = [] ↔ priorities = [] := by
  constructor
  · intro none
    cases priorities with
    | nil => rfl
    | cons priority rest =>
      have listed : priority ∈ uniquePriorities (priority :: rest) :=
        mem_uniquePriorities.mpr (by simp)
      simp [none] at listed
  · rintro rfl
    rfl

theorem clampedPriority_mem
    (clamped : clampedPriority priorities retry = some priority) : priority ∈ priorities := by
  unfold clampedPriority at clamped
  split at clamped
  · exact mem_of_getLast? clamped
  · exact mem_of_getElem? clamped

theorem clampedPriority_eq_none :
    clampedPriority priorities retry = none ↔ priorities = [] := by
  unfold clampedPriority
  split
  next => exact getLast?_eq_none_iff
  next inside =>
    rw [getElem?_eq_none_iff]
    constructor
    · omega
    · rintro rfl
      simp at inside

theorem le_of_uniquePriorities_cons (sorted : uniquePriorities priorities = highest :: lower)
    (listed : priority ∈ uniquePriorities priorities) : priority ≤ highest := by
  have falls := uniquePriorities_falls priorities
  rw [sorted] at falls listed
  rcases mem_cons.mp listed with rfl | below
  · exact le_rfl
  · exact (pairwise_cons.mp falls).1 priority below

theorem max_eq_clampedPriority (priorities : List Int) :
    priorities.max? = clampedPriority (uniquePriorities priorities) 0 := by
  cases sorted : uniquePriorities priorities with
  | nil =>
    rw [uniquePriorities_eq_nil] at sorted
    simp [sorted,clampedPriority]
  | cons highest lower =>
    have first : clampedPriority (highest :: lower) 0 = some highest := by simp [clampedPriority]
    rw [first,max?_eq_some_iff]
    exact ⟨mem_uniquePriorities.mp (by simp [sorted]),fun priority member =>
      le_of_uniquePriorities_cons sorted (mem_uniquePriorities.mpr member)⟩

section

variable {Candidate : Type} {stops : Int → Bool} {weight : Candidate → Nat}
  {candidates : List Candidate} {random : Int}

theorem weightedPick_isSome (negative : ∀ left, left < 0 → stops left = true)
    (nonempty : candidates ≠ []) (below : random < (candidates.map weight).sum) :
    ∃ candidate ∈ candidates, weightedPick stops weight candidates random = some candidate := by
  induction candidates generalizing random with
  | nil => exact absurd rfl nonempty
  | cons first rest ih =>
    simp only [weightedPick]
    by_cases stopped : stops (random - weight first) = true
    · exact ⟨first,mem_cons_self,by simp [stopped]⟩
    · have notNegative : ¬ random - weight first < 0 := fun isNegative =>
        stopped (negative _ isNegative)
      simp only [map_cons,sum_cons] at below
      have more : rest ≠ [] := by
        rintro rfl
        simp at below
        omega
      have restBelow : random - weight first < (rest.map weight).sum := by
        omega
      obtain ⟨candidate,member,picked⟩ := ih more restBelow
      exact ⟨candidate,mem_cons_of_mem first member,by simp [stopped,picked]⟩

end

def effectiveWeight (targetChannels : List Channel) (channel : Channel) : Nat :=
  let weights := (targetChannels.map Channel.getWeight).sum
  channel.getWeight *
    (if weights ≠ 0 ∧ weights / targetChannels.length < 10 then 100 else 1) +
      if weights = 0 then 100 else 0

theorem sum_scaled_weights (channels : List Channel) (factor adjustment : Nat) :
    (channels.map fun channel => channel.getWeight * factor + adjustment).sum =
      (channels.map Channel.getWeight).sum * factor + channels.length * adjustment := by
  induction channels with
  | nil => simp
  | cons channel channels ih =>
    simp only [map_cons,sum_cons,length_cons,Nat.add_mul]
    omega

/-- The smoothing keeps the total that is drawn from equal to the sum of what is taken off. -/
theorem pickByWeight_eq (channels : List Channel) :
    pickByWeight draw channels = weightedPick (fun left => decide (left < 0))
      (effectiveWeight channels) channels
      (draw.intn (channels.map (effectiveWeight channels)).sum) := by
  have total : (channels.map (effectiveWeight channels)).sum = _ :=
    sum_scaled_weights channels _ _
  rw [total]
  show weightedPick _ (effectiveWeight channels) _ _ = _
  by_cases none : (channels.map Channel.getWeight).sum = 0 <;> simp [none]

theorem sum_effectiveWeight_pos (nonempty : channels ≠ []) :
    0 < (channels.map (effectiveWeight channels)).sum := by
  have someChannel : 0 < channels.length := length_pos_iff.mpr nonempty
  have total : (channels.map (effectiveWeight channels)).sum = _ :=
    sum_scaled_weights channels _ _
  rw [total]
  by_cases none : (channels.map Channel.getWeight).sum = 0
  · simp [none,someChannel]
  · split <;> omega

theorem pickByWeight_isSome (nonempty : channels ≠ []) :
    ∃ channel ∈ channels, pickByWeight draw channels = some channel := by
  rw [pickByWeight_eq]
  apply weightedPick_isSome (fun left isNegative => by simpa using isNegative) nonempty
  exact_mod_cast draw.below _ (sum_effectiveWeight_pos nonempty)

/-! ### The priorities of a group -/

section

variable (directory : ChannelDirectory) (request : RouteRequest) (group : String)

def ChannelDirectory.enabledPriorities : List Int :=
  uniquePriorities <|
    if directory.memoryCacheEnabled then
      ((cachedChannels directory.index request group).filterMap directory.index.channelsIDM).map
        Channel.getPriority
    else (enabledAbilities directory.abilities group request.modelName).map Ability.getPriority

def ChannelDirectory.servedPriorities : List Int :=
  uniquePriorities <|
    if directory.memoryCacheEnabled then
      ((filterChannelsByRequestPathAndModel directory.index request
        (cachedChannels directory.index request group)).filterMap directory.index.channelsIDM).map
        Channel.getPriority
    else ((enabledAbilities directory.abilities group request.modelName).filter fun ability =>
      request.serves ability.channelId).map Ability.getPriority

/-- The priority with which a lookup answers. The cache counts the priorities of the channels that
serve the path; the ability table counts all of them and then finds nothing at some. -/
def ChannelDirectory.priorityAt (retry : Nat) : Option Int :=
  if directory.memoryCacheEnabled then
    clampedPriority (directory.servedPriorities request group) retry
  else
    (clampedPriority (directory.enabledPriorities request group) retry).filter fun priority =>
      priority ∈ directory.servedPriorities request group

open ChannelDirectory

variable {directory request group} {index : ChannelIndex}

theorem filterChannels_sublist (index : ChannelIndex) (request : RouteRequest)
    (channels : List Int) :
    (filterChannelsByRequestPathAndModel index request channels).Sublist channels := by
  unfold filterChannelsByRequestPathAndModel
  split
  · exact List.Sublist.refl _
  · exact filter_sublist

theorem cachedChannels_known {id : Int} (member : id ∈ cachedChannels index request group) :
    (index.channelsIDM id).isSome := by
  unfold cachedChannels at member
  dsimp only at member
  split at member <;> exact index.known _ _ _ member

theorem mapM_eq_filterMap {lookup : Int → Option Channel} {ids : List Int}
    (known : ∀ id ∈ ids, (lookup id).isSome) : ids.mapM lookup = some (ids.filterMap lookup) := by
  induction ids with
  | nil => rfl
  | cons id ids ih =>
    obtain ⟨channel,found⟩ := Option.isSome_iff_exists.mp (known id mem_cons_self)
    have rest := ih (forall_mem_cons.mp known).2
    simp [found,rest]

theorem getRandomSatisfiedChannel_priority (index : ChannelIndex) (request : RouteRequest)
    (draw : RandomDraw) (group : String) (retry : Nat) :
    (getRandomSatisfiedChannel index request draw group retry).map Channel.getPriority =
      clampedPriority (uniquePriorities (((filterChannelsByRequestPathAndModel index request
        (cachedChannels index request group)).filterMap index.channelsIDM).map
          Channel.getPriority)) retry := by
  have known : ∀ id ∈ filterChannelsByRequestPathAndModel index request
      (cachedChannels index request group), (index.channelsIDM id).isSome := fun id member =>
    cachedChannels_known ((filterChannels_sublist index request _).subset member)
  unfold getRandomSatisfiedChannel
  generalize filterChannelsByRequestPathAndModel index request
    (cachedChannels index request group) = channels at known
  match channels with
  | [] => simp [uniquePriorities,clampedPriority]
  | [only] =>
    obtain ⟨channel,found⟩ := Option.isSome_iff_exists.mp (known only mem_cons_self)
    have single : uniquePriorities [channel.getPriority] = [channel.getPriority] := by
      simp [uniquePriorities]
    simp only [found,filterMap_cons_some found,filterMap_nil,map_cons,
      map_nil,single]
    cases retry <;> simp [clampedPriority]
  | first :: second :: rest =>
    simp only [mapM_eq_filterMap known]
    have listed : (first :: second :: rest).filterMap index.channelsIDM ≠ [] := by
      obtain ⟨channel,found⟩ := Option.isSome_iff_exists.mp (known first mem_cons_self)
      simp [found]
    generalize (first :: second :: rest).filterMap index.channelsIDM = found at listed
    have answered : uniquePriorities (found.map Channel.getPriority) ≠ [] := by
      rwa [ne_eq,uniquePriorities_eq_nil,map_eq_nil_iff]
    cases target : clampedPriority (uniquePriorities (found.map Channel.getPriority)) retry with
    | none => exact absurd (clampedPriority_eq_none.mp target) answered
    | some targetPriority =>
      obtain ⟨channel,member,atTarget⟩ := mem_map.mp
        (mem_uniquePriorities.mp (clampedPriority_mem target))
      have targets : found.filter (fun channel => channel.getPriority = targetPriority) ≠ [] :=
        ne_nil_of_mem (mem_filter.mpr ⟨member,by simpa using atTarget⟩)
      obtain ⟨chosen,among,picked⟩ := pickByWeight_isSome draw targets
      have chosenPriority : chosen.getPriority = targetPriority := by
        simpa using (mem_filter.mp among).2
      simp [target,picked,chosenPriority]

theorem getChannelFromAbilities_priority (abilities : List Ability) (request : RouteRequest)
    (draw : RandomDraw) (group : String) (retry : Nat) :
    (getChannelFromAbilities abilities request draw group retry).map Ability.getPriority =
      (clampedPriority (uniquePriorities ((enabledAbilities abilities group
        request.modelName).map Ability.getPriority)) retry).filter fun priority =>
          priority ∈ uniquePriorities (((enabledAbilities abilities group
            request.modelName).filter fun ability =>
              request.serves ability.channelId).map Ability.getPriority) := by
  unfold getChannelFromAbilities
  generalize enabledAbilities abilities group request.modelName = enabled
  have queried : queriedPriority (enabled.map Ability.getPriority) retry =
      clampedPriority (uniquePriorities (enabled.map Ability.getPriority)) retry := by
    unfold queriedPriority
    split
    next first => rw [max_eq_clampedPriority,first]
    next => rfl
  simp only [queried]
  cases clampedPriority (uniquePriorities (enabled.map Ability.getPriority)) retry with
  | none => rfl
  | some priority =>
    simp only [Option.bind_eq_bind,Option.bind_some]
    have mem_rows : ∀ ability, ability ∈ ((enabled.filter fun ability =>
          ability.getPriority = priority).insertionSort
            fun first second => second.weight ≤ first.weight).filter
              (fun ability => request.serves ability.channelId) ↔
        (ability ∈ enabled ∧ ability.getPriority = priority) ∧
          request.serves ability.channelId = true := by
      intro ability
      rw [mem_filter,(perm_insertionSort _ _).mem_iff,mem_filter,
        decide_eq_true_eq]
    generalize ((enabled.filter fun ability =>
      ability.getPriority = priority).insertionSort
        fun first second => second.weight ≤ first.weight).filter
          (fun ability => request.serves ability.channelId) = rows at mem_rows
    by_cases served : priority ∈ uniquePriorities ((enabled.filter fun ability =>
        request.serves ability.channelId).map Ability.getPriority)
    · obtain ⟨ability,member,atPriority⟩ := mem_map.mp (mem_uniquePriorities.mp served)
      rw [mem_filter] at member
      have listed : ability ∈ rows := (mem_rows ability).mpr ⟨⟨member.1,atPriority⟩,member.2⟩
      have heavy : 0 < (rows.map fun ability => ability.weight + 10).sum :=
        List.sum_pos_iff_exists_pos_nat.mpr
          ⟨ability.weight + 10,List.mem_map_of_mem listed,by omega⟩
      have below : ((draw.intn (rows.map fun ability => ability.weight + 10).sum : Nat) : Int) <
          ((rows.map fun ability => ability.weight + 10).sum : Nat) := by
        exact_mod_cast draw.below _ heavy
      have stops : ∀ left : Int, left < 0 → decide (left ≤ 0) = true := fun left isNegative =>
        decide_eq_true (le_of_lt isNegative)
      obtain ⟨chosen,among,picked⟩ :=
        weightedPick_isSome stops (ne_nil_of_mem listed) below
      rw [pickAbility,picked,Option.filter_some,if_pos (decide_eq_true served),Option.map_some,
        ((mem_rows chosen).mp among).1.2]
    · have none : rows = [] := by
        rw [eq_nil_iff_forall_not_mem]
        intro ability listed
        obtain ⟨⟨member,atPriority⟩,serves⟩ := (mem_rows ability).mp listed
        exact served (mem_uniquePriorities.mpr (mem_map.mpr
          ⟨ability,mem_filter.mpr ⟨member,serves⟩,atPriority⟩))
      rw [none,Option.filter_some,if_neg (by simpa using served)]
      rfl

theorem lookupChannel_priority (directory : ChannelDirectory) (request : RouteRequest)
    (draw : RandomDraw) (group : String) (retry : Nat) :
    (lookupChannel directory request draw group retry).map Routed.priority =
      directory.priorityAt request group retry := by
  unfold lookupChannel priorityAt enabledPriorities
    servedPriorities
  cases directory.memoryCacheEnabled with
  | true =>
    have answered := getRandomSatisfiedChannel_priority directory.index request draw group retry
    simp only [if_true,Option.map_map]
    exact answered
  | false =>
    have answered := getChannelFromAbilities_priority directory.abilities request draw group retry
    simp only [Bool.false_eq_true,if_false,Option.map_map]
    exact answered

theorem servedPriorities_subset :
    directory.servedPriorities request group ⊆ directory.enabledPriorities request group := by
  intro priority served
  unfold servedPriorities at served
  unfold enabledPriorities
  rw [mem_uniquePriorities] at served ⊢
  cases mode : directory.memoryCacheEnabled with
  | true =>
    simp only [mode,if_true,mem_map] at served ⊢
    obtain ⟨channel,listed,rfl⟩ := served
    exact ⟨channel,((filterChannels_sublist _ _ _).filterMap _).subset listed,rfl⟩
  | false =>
    simp only [mode,Bool.false_eq_true,if_false,mem_map] at served ⊢
    obtain ⟨ability,listed,rfl⟩ := served
    exact ⟨ability,(mem_filter.mp listed).1,rfl⟩

theorem uniquePriorities_congr {first second : List Int}
    (same : ∀ priority, priority ∈ first ↔ priority ∈ second) :
    uniquePriorities first = uniquePriorities second := by
  have permuted : (uniquePriorities first).Perm (uniquePriorities second) :=
    (perm_ext_iff_of_nodup (nodup_uniquePriorities _) (nodup_uniquePriorities _)).mpr
      fun priority => by rw [mem_uniquePriorities,mem_uniquePriorities,same]
  exact permuted.eq_of_pairwise (fun _ _ _ _ falls rises => le_antisymm rises falls)
    (uniquePriorities_falls first) (uniquePriorities_falls second)

theorem servedPriorities_eq (all : ∀ priority ∈ directory.enabledPriorities request group,
      priority ∈ directory.servedPriorities request group) :
    directory.servedPriorities request group = directory.enabledPriorities request group :=
  uniquePriorities_congr fun priority =>
    mem_uniquePriorities.symm.trans <|
      Iff.trans ⟨fun served => servedPriorities_subset served,all priority⟩ mem_uniquePriorities

theorem priorityAt_mem (answered : directory.priorityAt request group retry = some priority) :
    priority ∈ directory.servedPriorities request group := by
  unfold priorityAt at answered
  split at answered
  · exact clampedPriority_mem answered
  · simpa using (Option.filter_eq_some_iff.mp answered).2

theorem priorityAt_of_served (all : ∀ priority ∈ directory.enabledPriorities request group,
      priority ∈ directory.servedPriorities request group) (retry : Nat) :
    directory.priorityAt request group retry =
      clampedPriority (directory.enabledPriorities request group) retry := by
  unfold priorityAt
  split
  · rw [servedPriorities_eq all]
  · cases clamped : clampedPriority (directory.enabledPriorities request group) retry with
    | none => rfl
    | some priority =>
      rw [Option.filter_some,if_pos (decide_eq_true (all priority (clampedPriority_mem clamped)))]

theorem priorityAt_zero (enabled : directory.enabledPriorities request group = highest :: lower)
    (served : highest ∈ directory.servedPriorities request group) :
    directory.priorityAt request group 0 = some highest := by
  unfold priorityAt
  split
  · cases listed : directory.servedPriorities request group with
    | nil => simp [listed] at served
    | cons first =>
      have atMost : first ≤ highest :=
        le_of_uniquePriorities_cons enabled (servedPriorities_subset (by simp [listed]))
      have atLeast : highest ≤ first := le_of_uniquePriorities_cons listed served
      simp [clampedPriority,le_antisymm atMost atLeast]
  · rw [enabled]
    have first : clampedPriority (highest :: lower) 0 = some highest := by simp [clampedPriority]
    rw [first,Option.filter_some,if_pos (decide_eq_true served)]

end

end NewApi
