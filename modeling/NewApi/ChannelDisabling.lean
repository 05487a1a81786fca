import NewApi.PriorityLookup

/-!
# A disabled channel in the cache

`CacheUpdateChannelStatus` takes only the first entry of a channel out of each list.
-/

namespace NewApi

open GuardedRuns GoStrings List

/-- `CacheUpdateChannelStatus`. The loop over a list ends at the first entry it removes. -/
def cacheUpdateChannelStatus (index : ChannelIndex) (id status : Int) : ChannelIndex where
  group2model2channels group := (index.group2model2channels group).map fun models model =>
    if status = channelStatusEnabled then models model else (models model).erase id
  channelsIDM := Function.update index.channelsIDM id
    ((index.channelsIDM id).map fun channel => { channel with status := status })
  known group model listed member := by
    have before : listed ∈ index.group2model2channels.channels group model := by
      simp only [GroupModelChannels.channels, Option.map_map] at member ⊢
      cases found : index.group2model2channels group with
      | none => simp [found] at member
      | some =>
        simp only [found, Option.map_some, Option.getD_some, Function.comp_apply] at member ⊢
        split at member
        · exact member
        · exact mem_of_mem_erase member
    have isKnown := index.known group model listed before
    by_cases same : listed = id
    · simpa [same] using same ▸ isKnown
    · simpa [same] using isKnown

structure Disappeared (id : Int) (before after : GroupModelChannels) : Prop where
  gone : ∀ group model, id ∉ after.channels group model
  others : ∀ group model, (after.channels group model).filter (· ≠ id) =
    (before.channels group model).filter (· ≠ id)

theorem filter_ne_erase (ids : List Int) (id : Int) :
    (ids.erase id).filter (· ≠ id) = ids.filter (· ≠ id) := by
  induction ids with
  | nil => rfl
  | cons first rest ih =>
    by_cases same : first = id
    · simp [same]
    · simpa [same] using ih

theorem notMem_erase_iff {ids : List Int} {id : Int} :
    id ∉ ids.erase id ↔ (ids.filter (· = id)).Nodup := by
  rw [← count_eq_zero,count_erase_self,Nat.sub_eq_zero_iff_le,filter_eq,
    nodup_replicate]

section

variable {index : ChannelIndex} {id status : Int}

theorem channels_updated (disabled : status ≠ channelStatusEnabled) (group model : String) :
    (cacheUpdateChannelStatus index id status).group2model2channels.channels group model =
      (index.group2model2channels.channels group model).erase id := by
  simp only [cacheUpdateChannelStatus,GroupModelChannels.channels,if_neg disabled]
  cases index.group2model2channels group with
  | none => rfl
  | some => rfl

theorem disappeared_iff (index : ChannelIndex) (disabled : status ≠ channelStatusEnabled) :
    Disappeared id index.group2model2channels
        (cacheUpdateChannelStatus index id status).group2model2channels ↔
      ∀ group model,
        ((index.group2model2channels.channels group model).filter (· = id)).Nodup := by
  constructor
  · intro disappeared group model
    have gone := disappeared.gone group model
    rw [channels_updated disabled] at gone
    exact notMem_erase_iff.mp gone
  · intro once
    refine ⟨fun group model => ?_,fun group model => ?_⟩
    · rw [channels_updated disabled]
      exact notMem_erase_iff.mpr (once group model)
    · rw [channels_updated disabled,filter_ne_erase]

end

/-- The entries of one channel are those that the cache would have if it were the only one. -/
theorem entryIds_only (rows : List Channel) (group model : String) (id : Int) :
    (entryIds (cacheEntries rows) group model).filter (· = id) =
      entryIds (cacheEntries (rows.filter fun channel => channel.id = id)) group model := by
  induction rows with
  | nil => rfl
  | cons channel rows ih =>
    simp only [entryIds_cacheEntries,entryIds_channel] at ih ⊢
    by_cases enabled : channel.status = channelStatusEnabled
    all_goals
      by_cases same : channel.id = id <;> simpa [enabled,same] using ih

def builtIndex {store : ChannelStore} {cache : GroupModelChannels}
    (filled : initChannelCache store = some cache) : ChannelIndex where
  group2model2channels := cache
  channelsIDM := store.channels.find?
  known group model id member := by
    rw [((initChannelCache_some filled).2 group model).mem_iff, mem_entryIds,
      mem_cacheEntries] at member
    obtain ⟨channel, stored, -, sameId, -⟩ := member
    rw [← show channel.id = id from sameId, KeyedTable.find?_of_mem stored]
    rfl

/-- In a cache that `InitChannelCache` built, a channel disappears exactly when its own columns
repeat no group and no model. -/
theorem disabled_channel_disappears_iff (store : ChannelStore) (cache : GroupModelChannels)
    (filled : initChannelCache store = some cache) (id status : Int)
    (disabled : status ≠ channelStatusEnabled) :
    Disappeared id cache
        (cacheUpdateChannelStatus (builtIndex filled) id status).group2model2channels ↔
      ∀ channel ∈ store.channels.rows, channel.id = id →
        channel.status = channelStatusEnabled →
          (split channel.group ',').Nodup ∧ (split channel.models ',').Nodup := by
  let only := store.channels.deleteWhere fun channel => channel.id ≠ id
  have sameRows : only.rows = store.channels.rows.filter fun channel => channel.id = id := by
    simp [only,KeyedTable.deleteWhere]
  have sameEntries : ∀ group model, ((cache.channels group model).filter (· = id)).Nodup ↔
      (entryIds (cacheEntries only.rows) group model).Nodup := by
    intro group model
    rw [sameRows,← entryIds_only]
    exact (((initChannelCache_some filled).2 group model).filter _).nodup_iff
  have disappeared : Disappeared id cache
      (cacheUpdateChannelStatus (builtIndex filled) id status).group2model2channels ↔
        ∀ group model, ((cache.channels group model).filter (· = id)).Nodup :=
    disappeared_iff (builtIndex filled) disabled
  rw [disappeared,forall₂_congr sameEntries,entryIds_nodup_iff]
  simp only [sameRows,mem_filter,decide_eq_true_eq,and_imp]

theorem plain_channel_disappears :
    ∃ cache, ∃ filled : initChannelCache (run ChannelStore.write .empty
        [createChannelOne "default,vip" "gpt-4o,o3" none]) = some cache,
      Disappeared 1 cache
        (cacheUpdateChannelStatus (builtIndex filled) 1 2).group2model2channels := by
  obtain ⟨cache,filled⟩ := Option.isSome_iff_exists.mp (show (initChannelCache (run
    ChannelStore.write .empty [createChannelOne "default,vip" "gpt-4o,o3" none])).isSome by decide)
  refine ⟨cache,filled,?_⟩
  exact (disabled_channel_disappears_iff _ cache filled 1 2 (by decide)).mpr (by decide)

/-- A model that is written twice keeps the disabled channel in its list. -/
theorem repeated_model_keeps_channel :
    ∃ cache, ∃ filled : initChannelCache (run ChannelStore.write .empty
        [createChannelOne "default" "gpt-4o,gpt-4o" none]) = some cache,
      1 ∈ (cacheUpdateChannelStatus (builtIndex filled) 1 2).group2model2channels.channels
        "default" "gpt-4o" := by
  have twice : (initChannelCache (run ChannelStore.write .empty
      [createChannelOne "default" "gpt-4o,gpt-4o" none])).map
        (fun cache => cache.channels "default" "gpt-4o") = some [1, 1] := by decide
  obtain ⟨cache,filled,listed⟩ := Option.map_eq_some_iff.mp twice
  refine ⟨cache,filled,?_⟩
  rw [channels_updated (by decide)]
  have before : (builtIndex filled).group2model2channels.channels "default" "gpt-4o" = [1, 1] :=
    listed
  rw [before]
  decide

end NewApi
