import Mathlib.Data.List.ProdSigma
import NewApi.ChannelAbilities

/-! # In-memory routing against the ability table -/

namespace NewApi

open GuardedRuns GoStrings Option List ChannelStore

/-- `map[string]map[string][]int`. A group that is no key has a nil inner map. -/
abbrev GroupModelChannels := String → Option (String → List Int)

namespace GroupModelChannels

/-- Reading `cache[group][model]`; a nil map reads as empty. -/
def channels (cache : GroupModelChannels) (group model : String) : List Int :=
  ((cache group).map fun models => models model).getD []

end GroupModelChannels

structure CacheEntry where
  group : String
  model : String
  channelId : Int
deriving DecidableEq

/-- `newGroup2model2channels[group][model] = append(…, channel.Id)`; there is no
result when the inner map is nil, since the assignment panics. -/
def addEntry (cache : GroupModelChannels) (entry : CacheEntry) : Option GroupModelChannels :=
  match cache entry.group with
  | none => none
  | some models =>
    some (Function.update cache entry.group (some
      (Function.update models entry.model (models entry.model ++ [entry.channelId]))))

/-- The two loops over the raw columns of a channel. -/
def channelEntries (channel : Channel) : List CacheEntry :=
  (split channel.group ',' ×ˢ split channel.models ',').map fun pair =>
    { group := pair.1, model := pair.2, channelId := channel.id }

def cacheEntries (channels : List Channel) : List CacheEntry :=
  (channels.filter (·.status = channelStatusEnabled)).flatMap channelEntries

def abilityGroups (abilities : List Ability) : GroupModelChannels := fun group =>
  if abilities.any (·.group = group) then some (fun _ => []) else none

/-- Higher priority first. `sort.Slice` leaves the order of equal priorities
open; this is the stable choice. -/
def sortByPriority (channels : KeyedTable Channel.id) (ids : List Int) : List Int :=
  ids.insertionSort fun first second =>
    ((channels.find? second).map Channel.getPriority).getD 0 ≤
      ((channels.find? first).map Channel.getPriority).getD 0

/-- `InitChannelCache`; there is no result when it panics. -/
def initChannelCache (store : ChannelStore) : Option GroupModelChannels := do
  let cache ←
    (cacheEntries store.channels.rows).foldlM addEntry (abilityGroups store.abilities.rows)
  some fun group => (cache group).map fun models model =>
    sortByPriority store.channels (models model)

def handleThinkingBudgetModel (name start wildcard : String) : String :=
  if hasPrefix name start && contains name "-thinking-" then wildcard else name

def formatMatchingModelName (name : String) : String :=
  let name :=
    if hasPrefix name "gemini-2.5-flash-lite" then
      handleThinkingBudgetModel name "gemini-2.5-flash-lite" "gemini-2.5-flash-lite-thinking-*"
    else if hasPrefix name "gemini-2.5-flash" then
      handleThinkingBudgetModel name "gemini-2.5-flash" "gemini-2.5-flash-thinking-*"
    else if hasPrefix name "gemini-2.5-pro" then
      handleThinkingBudgetModel name "gemini-2.5-pro" "gemini-2.5-pro-thinking-*"
    else name
  let name := if hasPrefix name "gpt-4-gizmo" then "gpt-4-gizmo-*" else name
  if hasPrefix name "gpt-4o-gizmo" then "gpt-4o-gizmo-*" else name

def hasEnabledAbility (abilities : List Ability) (group model : String) (channelId : Int) : Bool :=
  abilities.any fun ability =>
    ability.group = group ∧ ability.model = model ∧ ability.channelId = channelId ∧ ability.enabled

def isChannelEnabledForGroupModelDB (abilities : List Ability) (group modelName : String)
    (channelId : Int) : Bool :=
  if hasEnabledAbility abilities group modelName channelId then true
  else
    let normalized := formatMatchingModelName modelName
    if normalized = "" ∨ normalized = modelName then false
    else hasEnabledAbility abilities group normalized channelId

def isChannelEnabledForGroupModel (memoryCacheEnabled : Bool) (cache : Option GroupModelChannels)
    (abilities : List Ability) (group modelName : String) (channelId : Int) : Bool :=
  if group = "" ∨ modelName = "" ∨ channelId ≤ 0 then false
  else if memoryCacheEnabled = false then
    isChannelEnabledForGroupModelDB abilities group modelName channelId
  else
    match cache with
    | none => false
    | some cache =>
      if channelId ∈ cache.channels group modelName then true
      else
        let normalized := formatMatchingModelName modelName
        if normalized ≠ "" ∧ normalized ≠ modelName then
          channelId ∈ cache.channels group normalized
        else false

structure CacheAgrees (store : ChannelStore) (cache : GroupModelChannels) : Prop where
  sameChannels : ∀ group model id, id ∈ cache.channels group model ↔
    hasEnabledAbility store.abilities.rows group model id
  once : ∀ group model, (cache.channels group model).Nodup

def RoutingRefines (store : ChannelStore) : Prop :=
  ∃ cache, initChannelCache store = some cache ∧ CacheAgrees store cache ∧
    ∀ group modelName channelId,
      isChannelEnabledForGroupModel true (some cache) store.abilities.rows group modelName
          channelId =
        isChannelEnabledForGroupModel false none store.abilities.rows group modelName channelId

/-- The raw columns of a channel say what its abilities say. -/
structure Routable (store : ChannelStore) (channel : Channel) : Prop where
  modelsTrimmed : ∀ model ∈ split channel.models ',', trimSpace model = model ∧ model ≠ ""
  modelsDistinct : (split channel.models ',').Nodup
  groupsDistinct : (split channel.group ',').Nodup
  published : ∀ earlier model later, split channel.models ',' = earlier ++ model :: later →
    ∀ group, group ∈ split channel.group ',' ↔
      group ∈ publishedGroups store channel model ∧
        ¬ Shadowed (publishedGroups store channel) earlier (group, model)

def entryIds (entries : List CacheEntry) (group model : String) : List Int :=
  (entries.filter fun entry => entry.group = group ∧ entry.model = model).map
    CacheEntry.channelId

theorem entryIds_append (first second : List CacheEntry) (group model : String) :
    entryIds (first ++ second) group model =
      entryIds first group model ++ entryIds second group model := by
  simp [entryIds]

theorem addEntry_isSome {cache next : GroupModelChannels} {entry : CacheEntry}
    (added : addEntry cache entry = some next) :
    (∀ group, (next group).isSome = (cache group).isSome) ∧ (cache entry.group).isSome ∧
      ∀ group, next group = (cache group).map fun models model =>
        models model ++ entryIds [entry] group model := by
  unfold addEntry at added
  cases found : cache entry.group with
  | none => simp [found] at added
  | some =>
    simp only [found,Option.some.injEq] at added
    subst added
    refine ⟨fun group => ?_,rfl,fun group => ?_⟩
    · by_cases same : group = entry.group
      · simp [same,found]
      · simp [same]
    · by_cases same : group = entry.group
      · subst same
        simp only [Function.update_self,found,map_some,Option.some.injEq]
        funext model
        by_cases sameModel : model = entry.model
        · simp [sameModel,entryIds]
        · simp [sameModel,entryIds,Ne.symm sameModel]
      · simp [same,entryIds,Ne.symm same]

/-- The loops complete exactly when every group they assign under has a map, and
then they append the ids in order. -/
theorem foldlM_addEntry {entries : List CacheEntry} {cache result : GroupModelChannels} :
    entries.foldlM addEntry cache = some result ↔
      (∀ entry ∈ entries, (cache entry.group).isSome) ∧
        result = fun group => (cache group).map fun models model =>
          models model ++ entryIds entries group model := by
  induction entries generalizing cache with
  | nil =>
    have unchanged : (fun group => (cache group).map fun models model =>
        models model ++ entryIds [] group model) = cache := by
      simp [entryIds]
    rw [unchanged]
    simpa using eq_comm
  | cons entry rest ih =>
    rw [foldlM_cons]
    cases added : addEntry cache entry with
    | none =>
      have nilMap : cache entry.group = none := by
        unfold addEntry at added
        split at added <;> simp_all
      simp [nilMap]
    | some next =>
      obtain ⟨sameGroups,present,nextEq⟩ := addEntry_isSome added
      have sameResult : (fun group => (next group).map fun models model =>
          models model ++ entryIds rest group model) =
          fun group => (cache group).map fun models model =>
            models model ++ entryIds (entry :: rest) group model := by
        funext group
        rw [nextEq,Option.map_map]
        congr 1
        funext models model
        rw [Function.comp_apply,append_assoc,← entryIds_append,singleton_append]
      simp only [Option.bind_eq_bind,Option.bind_some,ih,sameGroups,sameResult,
        forall_mem_cons,present,true_and]

section

variable {channels : KeyedTable Channel.id} {group model : String} {id : Int}

theorem mem_entryIds {entries : List CacheEntry} :
    id ∈ entryIds entries group model ↔
      { group := group, model := model, channelId := id : CacheEntry } ∈ entries := by
  simp only [entryIds,List.mem_map,List.mem_filter,decide_eq_true_eq]
  constructor
  · rintro ⟨entry,⟨member,rfl,rfl⟩,rfl⟩
    exact member
  · exact fun member => ⟨_,⟨member,rfl,rfl⟩,rfl⟩

theorem mem_cacheEntries {rows : List Channel} {entry : CacheEntry} :
    entry ∈ cacheEntries rows ↔
      ∃ channel ∈ rows, channel.status = channelStatusEnabled ∧ channel.id = entry.channelId ∧
        entry.group ∈ split channel.group ',' ∧ entry.model ∈ split channel.models ',' := by
  simp only [cacheEntries,channelEntries,mem_flatMap,List.mem_filter,List.mem_map,
    decide_eq_true_eq]
  constructor
  · rintro ⟨channel,⟨member,enabled⟩,pair,inColumns,rfl⟩
    rw [mem_product] at inColumns
    exact ⟨channel,member,enabled,rfl,inColumns⟩
  · rintro ⟨channel,member,enabled,idEq,inGroups,inModels⟩
    refine ⟨channel,⟨member,enabled⟩,(entry.group, entry.model),?_,?_⟩
    · exact mem_product.mpr ⟨inGroups,inModels⟩
    · rw [idEq]

theorem nodup_product_iff {first second : List String} (firstNonempty : first ≠ [])
    (secondNonempty : second ≠ []) :
    (first ×ˢ second).Nodup ↔ first.Nodup ∧ second.Nodup := by
  refine ⟨fun distinct => ?_,fun distinct => distinct.1.product distinct.2⟩
  obtain ⟨inner,outer⟩ := nodup_flatMap.mp distinct
  constructor
  · refine outer.imp fun {group other} disjoint same => ?_
    obtain ⟨model,member⟩ := exists_mem_of_ne_nil second secondNonempty
    subst same
    exact disjoint (mem_map_of_mem member) (mem_map_of_mem member)
  · obtain ⟨group,member⟩ := exists_mem_of_ne_nil first firstNonempty
    exact (inner group member).of_map

theorem entryIds_channel (channel : Channel) (group model : String) :
    entryIds (channelEntries channel) group model =
      List.replicate ((split channel.group ',' ×ˢ split channel.models ',').count (group, model))
        channel.id := by
  simp only [entryIds,channelEntries,List.filter_map,List.map_map,Function.comp_def,
    List.map_const',count_eq_countP,countP_eq_length_filter]
  congr 3
  funext pair
  rw [Bool.eq_iff_iff]
  simp [Prod.ext_iff]

theorem entryIds_cacheEntries (rows : List Channel) (group model : String) :
    entryIds (cacheEntries rows) group model =
      (rows.filter (·.status = channelStatusEnabled)).flatMap fun channel =>
        entryIds (channelEntries channel) group model := by
  simp [entryIds,cacheEntries,filter_flatMap,map_flatMap]

theorem entryIds_nodup_iff :
    (∀ group model, (entryIds (cacheEntries channels.rows) group model).Nodup) ↔
      ∀ channel ∈ channels.rows, channel.status = channelStatusEnabled →
        (split channel.group ',').Nodup ∧ (split channel.models ',').Nodup := by
  have perChannel : ∀ channel : Channel,
      (∀ group model, (entryIds (channelEntries channel) group model).Nodup) ↔
        (split channel.group ',').Nodup ∧ (split channel.models ',').Nodup := by
    intro channel
    rw [← nodup_product_iff (split_ne_nil _ _) (split_ne_nil _ _),nodup_iff_count_le_one,
      Prod.forall]
    simp only [entryIds_channel,nodup_replicate]
  have apart : ∀ group model, (channels.rows.filter (·.status = channelStatusEnabled)).Pairwise
      (Function.onFun List.Disjoint fun channel =>
        entryIds (channelEntries channel) group model) := by
    intro group model
    have distinct := (pairwise_map.mp channels.keysNodup).sublist
      (filter_sublist (p := fun channel => decide (channel.status = channelStatusEnabled)))
    refine distinct.imp fun {first second} different id inFirst inSecond => different ?_
    simp only [entryIds_channel] at inFirst inSecond
    rw [← eq_of_mem_replicate inFirst,← eq_of_mem_replicate inSecond]
  simp only [entryIds_cacheEntries,nodup_flatMap,apart,and_true,mem_filter,
    decide_eq_true_eq,← perChannel]
  constructor
  · exact fun nodup channel member enabled group model => nodup group model channel ⟨member,enabled⟩
  · exact fun nodup group model channel member => nodup channel member.1 member.2 group model

end

section

variable {store : ChannelStore}

def GroupsCovered (store : ChannelStore) : Prop :=
  ∀ entry ∈ cacheEntries store.channels.rows,
    ∃ ability ∈ store.abilities.rows, ability.group = entry.group

theorem abilityGroups_isSome {abilities : List Ability} {group : String} :
    (abilityGroups abilities group).isSome ↔ ∃ ability ∈ abilities, ability.group = group := by
  unfold abilityGroups
  split_ifs with present <;> simpa using present

theorem perm_sortByPriority (channels : KeyedTable Channel.id) (ids : List Int) :
    (sortByPriority channels ids).Perm ids :=
  perm_insertionSort _ ids

theorem initChannelCache_some {cache : GroupModelChannels}
    (filled : initChannelCache store = some cache) :
    GroupsCovered store ∧ ∀ group model,
      (cache.channels group model).Perm
        (entryIds (cacheEntries store.channels.rows) group model) := by
  simp only [initChannelCache,Option.bind_eq_bind,Option.bind_eq_some_iff,
    Option.some.injEq] at filled
  obtain ⟨raw,filledRaw,rfl⟩ := filled
  obtain ⟨covered,rfl⟩ := foldlM_addEntry.mp filledRaw
  simp only [abilityGroups_isSome] at covered
  refine ⟨covered,fun group model => ?_⟩
  simp only [GroupModelChannels.channels,abilityGroups]
  split_ifs with present
  · simpa using perm_sortByPriority _ _
  · have noIds : entryIds (cacheEntries store.channels.rows) group model = [] := by
      rw [eq_nil_iff_forall_not_mem]
      intro id member
      obtain ⟨ability,stored,same⟩ := covered _ (mem_entryIds.mp member)
      exact present (any_eq_true.mpr ⟨ability,stored,by simpa using same⟩)
    simp [noIds]

theorem initChannelCache_completes (covered : GroupsCovered store) :
    ∃ cache, initChannelCache store = some cache := by
  have filled := foldlM_addEntry.mpr
    ⟨fun entry member => abilityGroups_isSome.mpr (covered entry member),rfl⟩
  unfold initChannelCache
  rw [filled]
  exact ⟨_,rfl⟩

end

section

variable {store : ChannelStore}

theorem hasEnabledAbility_iff (projected : Projected store) {group model : String} {id : Int} :
    hasEnabledAbility store.abilities.rows group model id ↔
      ∃ channel ∈ store.channels.rows, channel.status = channelStatusEnabled ∧ channel.id = id ∧
        (group, model) ∈ publishPairs ∅ (channelModelPairs store channel) := by
  simp only [hasEnabledAbility,List.any_eq_true,decide_eq_true_eq]
  constructor
  · rintro ⟨ability,stored,rfl,rfl,rfl,enabled⟩
    obtain ⟨channel,member,built⟩ := (projected ability).mp stored
    obtain ⟨pair,published,rfl⟩ := List.mem_map.mp built
    exact ⟨channel,member,by simpa [toAbility] using enabled,rfl,published⟩
  · rintro ⟨channel,member,enabled,rfl,published⟩
    have built := mem_map_of_mem (f := toAbility channel) published
    exact ⟨_,(projected _).mpr ⟨channel,member,built⟩,rfl,rfl,rfl,
      by simpa [toAbility] using enabled⟩

theorem CacheAgrees.sameAnswers {cache : GroupModelChannels} (agrees : CacheAgrees store cache)
    (group modelName : String) (channelId : Int) :
    isChannelEnabledForGroupModel true (some cache) store.abilities.rows group modelName
        channelId =
      isChannelEnabledForGroupModel false none store.abilities.rows group modelName channelId := by
  simp only [isChannelEnabledForGroupModel,isChannelEnabledForGroupModelDB,agrees.sameChannels]
  by_cases invalid : group = "" ∨ modelName = "" ∨ channelId ≤ 0
  · simp
  · by_cases direct : hasEnabledAbility store.abilities.rows group modelName channelId
    · simp
    · by_cases unnormalized : formatMatchingModelName modelName = "" ∨
          formatMatchingModelName modelName = modelName
      · simp [← not_or]
      · simp [← not_or]

theorem routable_iff (store : ChannelStore) (channel : Channel) :
    Routable store channel ↔
      (split channel.group ',').Nodup ∧ (split channel.models ',').Nodup ∧
        ∀ group model, (group, model) ∈ publishPairs ∅ (channelModelPairs store channel) ↔
          group ∈ split channel.group ',' ∧ model ∈ split channel.models ',' := by
  have sameModels : (∀ model ∈ split channel.models ',', trimSpace model = model ∧ model ≠ "") →
      publishedModels channel = split channel.models ',' := by
    intro trimmed
    have noEmpty : "" ∉ split channel.models ',' := fun member => (trimmed "" member).2 rfl
    have named : channel.models ≠ "" := by
      intro unnamed
      rw [unnamed] at noEmpty
      exact noEmpty (by decide)
    have unchanged : (split channel.models ',').map trimSpace = split channel.models ',' :=
      (map_congr_left fun model member => (trimmed model member).1).trans (List.map_id' _)
    rw [publishedModels,Channel.getModels,if_neg named,trim_eq_self_of_split noEmpty,unchanged,
      filter_eq_self]
    exact fun model member => by simpa using (trimmed model member).2
  constructor
  · intro routable
    refine ⟨routable.groupsDistinct,routable.modelsDistinct,fun group model => ?_⟩
    rw [mem_published,sameModels routable.modelsTrimmed]
    constructor
    · rintro ⟨earlier,later,position,inGroups,clear⟩
      refine ⟨(routable.published earlier model later position group).mpr ⟨inGroups,clear⟩,?_⟩
      simp [position]
    · rintro ⟨inColumn,inModels⟩
      obtain ⟨earlier,later,position⟩ := append_of_mem inModels
      have := (routable.published earlier model later position group).mp inColumn
      exact ⟨earlier,later,position,this.1,this.2⟩
  · rintro ⟨groupsDistinct,modelsDistinct,sameSet⟩
    have trimmed : ∀ model ∈ split channel.models ',', trimSpace model = model ∧ model ≠ "" := by
      intro model inModels
      obtain ⟨group,inColumn⟩ := exists_mem_of_ne_nil _ (split_ne_nil channel.group ',')
      obtain ⟨earlier,later,position,-⟩ :=
        mem_published.mp ((sameSet group model).mpr ⟨inColumn,inModels⟩)
      have inPublished : model ∈ publishedModels channel := by simp [position]
      simp only [publishedModels,List.mem_filter,List.mem_map,decide_eq_true_eq] at inPublished
      obtain ⟨⟨raw,-,rfl⟩,nonempty⟩ := inPublished
      exact ⟨trimSpace_idem raw,nonempty⟩
    refine ⟨trimmed,modelsDistinct,groupsDistinct,fun earlier model later position group => ?_⟩
    have inModels : model ∈ split channel.models ',' := by simp [position]
    have published := sameSet group model
    rw [mem_published,sameModels trimmed] at published
    constructor
    · intro inColumn
      obtain ⟨before,after,otherPosition,inGroups,clear⟩ :=
        published.mpr ⟨inColumn,inModels⟩
      -- A model occurs once, so both positions have the same models before them.
      have sameEarlier : before = earlier := by
        rw [position] at otherPosition modelsDistinct
        have notBefore : model ∉ earlier ∧ model ∉ later := by
          have := nodup_middle.mp modelsDistinct
          simpa using (nodup_cons.mp this).1
        exact ((append_cons_inj_of_notMem notBefore.1 notBefore.2).mp otherPosition).1.symm
      exact ⟨inGroups,sameEarlier ▸ clear⟩
    · rintro ⟨inGroups,clear⟩
      exact (published.mp ⟨earlier,later,position,inGroups,clear⟩).1

end

theorem cacheAgrees_iff {store : ChannelStore} (projected : Projected store)
    {cache : GroupModelChannels} (filled : initChannelCache store = some cache) :
    CacheAgrees store cache ↔
      ∀ channel ∈ store.channels.rows, channel.status = channelStatusEnabled →
        Routable store channel := by
  obtain ⟨-,holds⟩ := initChannelCache_some filled
  have once : (∀ group model, (cache.channels group model).Nodup) ↔
      ∀ channel ∈ store.channels.rows, channel.status = channelStatusEnabled →
        (split channel.group ',').Nodup ∧ (split channel.models ',').Nodup := by
    rw [← entryIds_nodup_iff]
    exact forall_congr' fun group => forall_congr' fun model => (holds group model).nodup_iff
  have cached : ∀ group model id, id ∈ cache.channels group model ↔
      ∃ channel ∈ store.channels.rows, channel.status = channelStatusEnabled ∧ channel.id = id ∧
        group ∈ split channel.group ',' ∧ model ∈ split channel.models ',' := by
    intro group model id
    rw [(holds group model).mem_iff,mem_entryIds,mem_cacheEntries]
  constructor
  · rintro ⟨sameChannels,nodup⟩ channel member enabled
    refine (routable_iff store channel).mpr ⟨(once.mp nodup channel member enabled).1,
      (once.mp nodup channel member enabled).2,fun group model => ?_⟩
    have same := sameChannels group model channel.id
    rw [cached,hasEnabledAbility_iff projected] at same
    constructor
    · intro published
      obtain ⟨other,otherMember,-,sameId,inColumns⟩ :=
        same.mpr ⟨channel,member,enabled,rfl,published⟩
      exact KeyedTable.eq_of_key_eq otherMember member sameId ▸ inColumns
    · intro inColumns
      obtain ⟨other,otherMember,-,sameId,published⟩ :=
        same.mp ⟨channel,member,enabled,rfl,inColumns⟩
      exact KeyedTable.eq_of_key_eq otherMember member sameId ▸ published
  · intro routable
    have columns := fun channel member enabled =>
      (routable_iff store channel).mp (routable channel member enabled)
    refine ⟨fun group model id => ?_,once.mpr fun channel member enabled =>
      ⟨(columns channel member enabled).1,(columns channel member enabled).2.1⟩⟩
    rw [cached,hasEnabledAbility_iff projected]
    refine exists_congr fun channel => and_congr_right fun member => and_congr_right fun enabled =>
      and_congr_right fun _ => ((columns channel member enabled).2.2 group model).symm

theorem groupsCovered_of_routable {store : ChannelStore} (projected : Projected store)
    (routable : ∀ channel ∈ store.channels.rows, channel.status = channelStatusEnabled →
      Routable store channel) : GroupsCovered store := by
  intro entry member
  obtain ⟨channel,stored,enabled,-,inColumns⟩ := mem_cacheEntries.mp member
  have published := ((routable_iff store channel).mp (routable channel stored enabled)).2.2
    entry.group entry.model |>.mpr inColumns
  have built := mem_map_of_mem (f := toAbility channel) published
  exact ⟨_,(projected _).mpr ⟨channel,stored,built⟩,rfl⟩

/-- In every database that `Insert` and `Update` reach, in-memory routing is
routing through the ability table exactly when each enabled channel has clean
columns: its models are trimmed, named and distinct, its groups are distinct, and
every model is published to just the groups of the channel. -/
theorem routing_refines_iff (writes : List ChannelWrite) :
    RoutingRefines (run write .empty writes) ↔
      ∀ channel ∈ (run write .empty writes).channels.rows,
        channel.status = channelStatusEnabled →
          Routable (run write .empty writes) channel := by
  have projected := projected_run writes
  constructor
  · rintro ⟨cache,filled,agrees,-⟩
    exact (cacheAgrees_iff projected filled).mp agrees
  · intro routable
    obtain ⟨cache,filled⟩ :=
      initChannelCache_completes (groupsCovered_of_routable projected routable)
    have agrees := (cacheAgrees_iff projected filled).mpr routable
    exact ⟨cache,filled,agrees,agrees.sameAnswers⟩

def faultlessWrite : ChannelTxFaults where
  beginTx := none
  write := none
  duplicateKey := .message "UNIQUE constraint failed: channels.id"
  policies := none
  endpoints := none
  reload := none
  abilities := none
  commit := none

def createChannelOne (group models : String)
    (modes : Option (List ChannelModelGroupModeInput)) : ChannelWrite :=
  .insert faultlessWrite ["default", "vip"] 1
    { channel :=
        { id := 0, status := 1, group := group, models := models
          priority := none, weight := none, tag := none }
      modelGroupModes := modes }

/-- A space after a comma makes the cache assign to a nil map, and a model that is
disabled on the channel is still routed to it. -/
theorem channelCache_disagrees :
    (initChannelCache (run write .empty
        [createChannelOne "default, vip" "gpt-4o" none])).isNone ∧
      let store := run write .empty [createChannelOne "default" "gpt-4o,o3"
        (some [{ model := "o3", mode := "disabled", groups := [] }])]
      isChannelEnabledForGroupModel true (initChannelCache store) store.abilities.rows "default"
          "o3" 1 = true ∧
        isChannelEnabledForGroupModel false none store.abilities.rows "default" "o3" 1 = false := by
  decide

end NewApi
