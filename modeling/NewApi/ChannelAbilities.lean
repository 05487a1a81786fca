import NewApi.ChannelStore
import NewApi.GuardedRuns

/-! # The ability table is the projection of the channel table -/

namespace NewApi

open Transactions GuardedRuns GoStrings KeyedTable List

section

theorem abilityKey_left_cancel {first second modelName : String}
    (same : abilityKey (first, modelName) = abilityKey (second, modelName)) : first = second := by
  have chars := congrArg String.toList same
  simp only [abilityKey,String.toList_append,append_assoc] at chars
  exact String.toList_inj.mp (append_cancel_right chars)

variable {abilitySet : Finset String} {pair : String × String} {groupsOf : String → List String}

theorem mem_publishPairs {pairs : List (String × String)}
    (published : pair ∈ publishPairs abilitySet pairs) :
    pair ∈ pairs ∧ abilityKey pair ∉ abilitySet := by
  induction pairs generalizing abilitySet with
  | nil => simp [publishPairs] at published
  | cons first rest ih =>
    unfold publishPairs at published
    split_ifs at published with known
    · obtain ⟨later,unseen⟩ := ih published
      exact ⟨mem_cons_of_mem _ later,unseen⟩
    · rcases mem_cons.mp published with rfl | inRest
      · exact ⟨mem_cons_self,known⟩
      · obtain ⟨later,unseen⟩ := ih inRest
        exact ⟨mem_cons_of_mem _ later,
          fun member => unseen (Finset.mem_insert_of_mem member)⟩

theorem publishPairs_nodup (pairs : List (String × String)) (abilitySet : Finset String) :
    (publishPairs abilitySet pairs).Nodup := by
  induction pairs generalizing abilitySet with
  | nil => simp [publishPairs]
  | cons first rest ih =>
    unfold publishPairs
    split_ifs with known
    · exact ih abilitySet
    · refine nodup_cons.mpr ⟨fun member => ?_,ih _⟩
      exact (mem_publishPairs member).2 (Finset.mem_insert_self _ _)

theorem publishPairs_append (first second : List (String × String)) (abilitySet : Finset String) :
    publishPairs abilitySet (first ++ second) =
      publishPairs abilitySet first ++
        publishPairs (abilitySet ∪ (first.map abilityKey).toFinset) second := by
  induction first generalizing abilitySet with
  | nil => simp [publishPairs]
  | cons pair rest ih =>
    simp only [cons_append,publishPairs,map_cons,toFinset_cons]
    split_ifs with known
    · rw [ih,Finset.union_insert,Finset.insert_eq_of_mem (Finset.mem_union_left _ known)]
    · rw [ih,Finset.insert_union,Finset.union_insert,cons_append]

theorem mem_publishPairs_map {groups : List String} {modelName : String} :
    pair ∈ publishPairs abilitySet (groups.map fun group => (group, modelName)) ↔
      pair.2 = modelName ∧ pair.1 ∈ groups ∧ abilityKey pair ∉ abilitySet := by
  constructor
  · intro published
    obtain ⟨member,unseen⟩ := mem_publishPairs published
    obtain ⟨group,inGroups,rfl⟩ := mem_map.mp member
    exact ⟨rfl,inGroups,unseen⟩
  · obtain ⟨group,pairModel⟩ := pair
    rintro ⟨rfl,inGroups,unseen⟩
    induction groups generalizing abilitySet with
    | nil => simp at inGroups
    | cons first rest ih =>
      simp only [map_cons,publishPairs]
      by_cases same : first = group
      · subst same
        simp [unseen]
      · have inRest : group ∈ rest := by
          rcases mem_cons.mp inGroups with rfl | later
          · exact absurd rfl same
          · exact later
        have otherKey : abilityKey (group, pairModel) ≠ abilityKey (first, pairModel) :=
          fun keys => same (abilityKey_left_cancel keys).symm
        split_ifs with known
        · exact ih inRest unseen
        · exact mem_cons_of_mem _ (ih inRest (by simp [otherKey,unseen]))

def Shadowed (groupsOf : String → List String) (earlier : List String) (pair : String × String) :
    Prop :=
  ∃ modelName ∈ earlier, ∃ group ∈ groupsOf modelName,
    abilityKey (group, modelName) = abilityKey pair

theorem shadowed_cons {first : String} {earlier : List String} :
    Shadowed groupsOf (first :: earlier) pair ↔
      abilityKey pair ∈ ((groupsOf first).map fun group => (group, first)).map abilityKey ∨
        Shadowed groupsOf earlier pair := by
  simp [Shadowed]

theorem mem_publishPairs_flatMap {models : List String} :
    pair ∈ publishPairs abilitySet
        (models.flatMap fun modelName =>
          (groupsOf modelName).map fun group => (group, modelName)) ↔
      abilityKey pair ∉ abilitySet ∧
        ∃ earlier later, models = earlier ++ pair.2 :: later ∧ pair.1 ∈ groupsOf pair.2 ∧
          ¬ Shadowed groupsOf earlier pair := by
  induction models generalizing abilitySet with
  | nil => simp [publishPairs]
  | cons first rest ih =>
    rw [flatMap_cons,publishPairs_append,mem_append,mem_publishPairs_map,ih,
      Finset.mem_union,mem_toFinset,not_or]
    constructor
    · rintro (⟨rfl,inGroups,unseen⟩ | ⟨⟨unseen,notFirst⟩,earlier,later,rfl,inGroups,clear⟩)
      · exact ⟨unseen,[],rest,rfl,inGroups,by simp [Shadowed]⟩
      · refine ⟨unseen,first :: earlier,later,rfl,inGroups,?_⟩
        rw [shadowed_cons]
        exact not_or.mpr ⟨notFirst,clear⟩
    · rintro ⟨unseen,earlier,later,split,inGroups,clear⟩
      cases earlier with
      | nil =>
        obtain ⟨rfl,-⟩ := List.cons.inj split
        exact .inl ⟨rfl,inGroups,unseen⟩
      | cons head earlier =>
        obtain ⟨rfl,rfl⟩ := List.cons.inj split
        rw [shadowed_cons,not_or] at clear
        exact .inr ⟨⟨unseen,clear.1⟩,earlier,later,rfl,inGroups,clear.2⟩

end

variable {store : ChannelStore}

theorem mem_published {channel : Channel} {pair : String × String} :
    pair ∈ publishPairs ∅ (channelModelPairs store channel) ↔
      ∃ earlier later, publishedModels channel = earlier ++ pair.2 :: later ∧
        pair.1 ∈ publishedGroups store channel pair.2 ∧
        ¬ Shadowed (publishedGroups store channel) earlier pair := by
  simp [channelModelPairs,mem_publishPairs_flatMap]

section

variable {before after : ChannelStore} {channel : Channel} {ability : Ability}

theorem channelId_of_mem_buildAbilities (built : ability ∈ buildAbilities before channel) :
    ability.channelId = channel.id := by
  obtain ⟨pair,-,rfl⟩ := mem_map.mp built
  rfl

theorem buildAbilities_keys_nodup (store : ChannelStore) (channel : Channel) :
    ((buildAbilities store channel).map Ability.key).Nodup := by
  rw [buildAbilities,map_map]
  refine (publishPairs_nodup _ ∅).map fun first second same => ?_
  simp only [Function.comp_apply,Ability.key,Prod.mk.injEq] at same
  exact Prod.ext same.1 same.2.1

theorem mem_rebuilt {table : KeyedTable Ability.key}
    (unused : ∀ ability ∈ table.rows, ability.channelId ≠ channel.id) :
    ability ∈ ((buildAbilities store channel).foldl insertOrIgnore table).rows ↔
      ability ∈ table.rows ∨ ability ∈ buildAbilities store channel := by
  refine table.mem_foldl_insertOrIgnore (buildAbilities_keys_nodup store channel) ?_
  intro built member
  rw [KeyedTable.find?_eq_none_iff]
  intro stored inTable same
  refine unused stored inTable ?_
  rw [← channelId_of_mem_buildAbilities member]
  exact congrArg (fun key => key.2.2) same

/-- The ability table holds what is built from the stored channels. -/
def Projected (store : ChannelStore) : Prop :=
  ∀ ability, ability ∈ store.abilities.rows ↔
    ∃ channel ∈ store.channels.rows, ability ∈ buildAbilities store channel

theorem Projected.rebuild (projected : Projected before) (row : Channel)
    (stored : row ∈ after.channels.rows) (others : ∀ channel, channel.id ≠ row.id →
      (channel ∈ after.channels.rows ↔ channel ∈ before.channels.rows))
    (policies : ∀ channel, channel.id ≠ row.id →
      buildAbilities after channel = buildAbilities before channel)
    (abilities : ∀ ability, ability ∈ after.abilities.rows ↔
      (ability ∈ before.abilities.rows ∧ ability.channelId ≠ row.id) ∨
        ability ∈ buildAbilities after row) : Projected after := by
  intro ability
  rw [abilities,projected]
  constructor
  · rintro (⟨⟨channel,member,built⟩,different⟩ | built)
    · rw [channelId_of_mem_buildAbilities built] at different
      exact ⟨channel,(others channel different).mpr member,(policies channel different) ▸ built⟩
    · exact ⟨row,stored,built⟩
  · rintro ⟨channel,member,built⟩
    by_cases same : channel.id = row.id
    · exact .inr (eq_of_key_eq member stored same ▸ built)
    · refine .inl ⟨⟨channel,(others channel same).mp member,policies channel same ▸ built⟩,?_⟩
      rwa [channelId_of_mem_buildAbilities built]

end

section

variable {catalog : List String} {fault : Option GoError} {request : ChannelRequest}
  {before after : ChannelStore} {id : Int}

theorem buildAbilities_congr {channel : Channel}
    (overrides : before.overrides.filter (·.channelId = channel.id) =
      after.overrides.filter (·.channelId = channel.id))
    (disabled : before.disabled.filter (·.channelId = channel.id) =
      after.disabled.filter (·.channelId = channel.id)) :
    buildAbilities before channel = buildAbilities after channel := by
  have sameGroups : publishedGroups before channel = publishedGroups after channel := by
    funext modelName
    have sameOverrides : before.overrides.filter (fun row =>
        row.channelId = channel.id ∧ row.model = modelName) =
        after.overrides.filter (fun row => row.channelId = channel.id ∧ row.model = modelName) := by
      have := congrArg (filter fun row => decide (row.model = modelName)) overrides
      simpa [Bool.and_comm] using this
    have sameDisabled : before.disabled.any (fun row =>
        row.channelId = channel.id ∧ row.model = modelName) =
        after.disabled.any (fun row => row.channelId = channel.id ∧ row.model = modelName) := by
      have := congrArg (any · fun row => decide (row.model = modelName)) disabled
      simpa using this
    simp only [publishedGroups,resolveChannelModelGroups,sameOverrides,sameDisabled]
  simp only [buildAbilities,channelModelPairs,sameGroups]

theorem filter_replaced {Row : Type*} {owner : Row → Int} {old new : List Row} {other : Int}
    (different : other ≠ id) (owned : ∀ row ∈ new, owner row = id) :
    (old.filter (owner · ≠ id) ++ new).filter (owner · = other) =
      old.filter (owner · = other) := by
  have noneNew : new.filter (owner · = other) = [] := by
    rw [filter_eq_nil_iff]
    intro row member
    simpa [owned row member] using different.symm
  rw [filter_append,noneNew,append_nil,filter_filter]
  refine filter_congr fun row _ => ?_
  by_cases same : owner row = other <;> simp [same,different]

theorem replaceModes_effect
    (called : replaceChannelModelGroupModes catalog fault id request before = .ok after) :
    after.channels = before.channels ∧ after.abilities = before.abilities ∧
      ∀ channel, channel.id ≠ id → buildAbilities after channel = buildAbilities before channel := by
  unfold replaceChannelModelGroupModes at called
  split at called
  · cases called
    exact ⟨rfl,rfl,fun _ _ => rfl⟩
  · obtain ⟨-,-,replaced⟩ := bind_succeeds_iff.mp called
    obtain ⟨-,rfl⟩ := attempt_eq_ok.mp replaced
    refine ⟨rfl,rfl,fun channel different => buildAbilities_congr ?_ ?_⟩
    · refine filter_replaced different ?_
      simp only [overrideRows,mem_flatMap,mem_map]
      rintro row ⟨input,-,entry,-,rfl⟩
      rfl
    · refine filter_replaced different ?_
      simp only [disabledRows,mem_map]
      rintro row ⟨input,-,rfl⟩
      rfl

variable {faults : ChannelTxFaults} {assigned : Int}

theorem insertChannel_projected (projected : Projected before)
    (called : insertChannel faults catalog assigned request before = (.ok (), after)) :
    Projected after := by
  unfold insertChannel at called
  obtain ⟨-,-,body⟩ := transaction_ok_iff.mp called
  simp only [bind_succeeds_iff] at body
  obtain ⟨created,creates,replaced,replaces,-,-,rebuilt,rebuilds,done⟩ := body
  cases done
  obtain ⟨-,rfl⟩ := attempt_eq_ok.mp rebuilds
  unfold createChannel at creates
  split_ifs at creates with free
  obtain ⟨-,rfl⟩ := attempt_eq_ok.mp creates
  obtain ⟨channels,abilities,policies⟩ := replaceModes_effect replaces
  have unused : ∀ ability ∈ before.abilities.rows,
      ability.channelId ≠ (request.channel.withDefaults assigned).id := by
    intro ability member
    obtain ⟨channel,stored,built⟩ := (projected ability).mp member
    rw [channelId_of_mem_buildAbilities built]
    exact before.channels.find?_eq_none_iff.mp free channel stored
  refine projected.rebuild (request.channel.withDefaults assigned) ?_ ?_ ?_ ?_
  · simp [channels,KeyedTable.insert]
  · intro channel different
    have notNew : channel ≠ request.channel.withDefaults assigned :=
      fun same => different (congrArg Channel.id same)
    simp [channels,KeyedTable.insert,notNew]
  · exact policies
  · intro ability
    rw [mem_rebuilt (by simpa [abilities] using unused),abilities]
    exact or_congr_left ⟨fun member => ⟨member,unused ability member⟩,And.left⟩

theorem updateChannelRow_effect {channel : Channel}
    (called : updateChannelRow fault channel before = .ok after) :
    after.abilities = before.abilities ∧ buildAbilities after = buildAbilities before ∧
      ∀ other, other.id ≠ channel.id →
        (other ∈ after.channels.rows ↔ other ∈ before.channels.rows) := by
  obtain ⟨-,rfl⟩ := attempt_eq_ok.mp called
  cases found : before.channels.find? channel.id with
  | none => exact ⟨rfl,rfl,fun _ _ => Iff.rfl⟩
  | some stored =>
    refine ⟨rfl,rfl,fun other different => ?_⟩
    have storedId : stored.id = channel.id := KeyedTable.key_of_find? found
    have savedId : (stored.updatedBy channel).id = channel.id := storedId
    rw [mem_save,savedId]
    constructor
    · rintro (⟨member,-⟩ | ⟨rfl,-⟩)
      · exact member
      · exact absurd savedId different
    · exact fun member => .inl ⟨member,different⟩

theorem updateChannel_projected (projected : Projected before)
    (called : updateChannel faults catalog request before = (.ok (), after)) :
    Projected after := by
  obtain ⟨-,-,body⟩ := transaction_ok_iff.mp called
  simp only [bind_succeeds_iff] at body
  obtain ⟨written,writes,replaced,replaces,-,-,body⟩ := body
  split at body
  · cases body
  · cases body
  rename_i row _ reloaded
  obtain ⟨rebuilt,rebuilds,done⟩ := bind_succeeds_iff.mp body
  cases done
  obtain ⟨-,rfl⟩ := attempt_eq_ok.mp rebuilds
  obtain ⟨writtenAbilities,writtenBuild,others⟩ := updateChannelRow_effect writes
  obtain ⟨channels,abilities,policies⟩ := replaceModes_effect replaces
  have rowId : row.id = request.channel.id := KeyedTable.key_of_find? reloaded
  rw [← rowId] at others policies
  refine projected.rebuild row ?_ ?_ ?_ ?_
  · exact (replaced.channels.find?_eq_some_iff.mp reloaded).1
  · simpa [channels] using others
  · intro channel different
    rw [← writtenBuild]
    exact policies channel different
  · intro ability
    rw [mem_rebuilt,mem_deleteWhere,abilities,writtenAbilities]
    · simp only [decide_eq_false_iff_not]
      rfl
    · intro stored member
      simpa using (mem_deleteWhere _).mp member |>.2

end

inductive ChannelWrite where
  | insert (faults : ChannelTxFaults) (catalog : List String) (assigned : Int)
      (request : ChannelRequest)
  | update (faults : ChannelTxFaults) (catalog : List String) (request : ChannelRequest)

/-- The database after a call, whether it succeeded or was rolled back. -/
def ChannelStore.write (store : ChannelStore) : ChannelWrite → ChannelStore
  | .insert faults catalog assigned request =>
    (insertChannel faults catalog assigned request store).2
  | .update faults catalog request => (updateChannel faults catalog request store).2

theorem projected_write (projected : Projected store)
    (write : ChannelWrite) : Projected (store.write write) := by
  cases write with
  | insert faults catalog assigned request =>
    rcases called : insertChannel faults catalog assigned request store with ⟨result,after⟩
    simp only [ChannelStore.write,called]
    cases result with
    | ok => exact insertChannel_projected projected called
    | error =>
      unfold insertChannel at called
      exact transaction_error_state called ▸ projected
  | update faults catalog request =>
    rcases called : updateChannel faults catalog request store with ⟨result,after⟩
    simp only [ChannelStore.write,called]
    cases result with
    | ok => exact updateChannel_projected projected called
    | error =>
      exact transaction_error_state called ▸ projected

theorem projected_run (writes : List ChannelWrite) :
    Projected (run ChannelStore.write .empty writes) := by
  have initially : Projected .empty := by simp [Projected,ChannelStore.empty]
  exact run_invariant Projected (fun store write projected _ => projected_write projected write)
    initially (guarded_true _ writes)

end NewApi
