import NewApi.ChannelOperations

/-!
# When an operation keeps the ability table in step

Most operations do; some only when they change nothing that abilities carry.
-/

namespace NewApi

open Transactions ChannelStore TagEdit KeyedTable List

section

variable {store : ChannelStore} {first second : Channel}

/-- What a channel publishes does not depend on its status, priority, weight and tag. -/
theorem channelModelPairs_congr (id : first.id = second.id) (models : first.models = second.models)
    (group : first.group = second.group) :
    channelModelPairs store first = channelModelPairs store second := by
  have sameModels : publishedModels first = publishedModels second := by
    simp only [publishedModels,Channel.getModels,models]
  have sameGroups : publishedGroups store first = publishedGroups store second := by
    funext modelName
    simp only [publishedGroups,channelDefaultGroups,Channel.getGroups,id,group]
  simp only [channelModelPairs,sameModels,sameGroups]

theorem buildAbilities_eq_nil_iff :
    buildAbilities store first = [] ↔ publishPairs ∅ (channelModelPairs store first) = [] := by
  simp [buildAbilities]

/-- The channels agree in what abilities carry. -/
def Channel.CarriesAs (first second : Channel) : Prop :=
  (first.status = channelStatusEnabled ↔ second.status = channelStatusEnabled) ∧
    first.priority = second.priority ∧ first.getWeight = second.getWeight ∧ first.tag = second.tag

/-- Two channels that publish the same pairs have the same abilities when they publish
nothing, or agree in what abilities carry. -/
theorem sameAbilities_iff (first second : Channel) (id : first.id = second.id)
    (models : first.models = second.models) (group : first.group = second.group) :
    (∀ ability, ability ∈ buildAbilities store first ↔ ability ∈ buildAbilities store second) ↔
      buildAbilities store first = [] ∨ first.CarriesAs second := by
  have samePairs : channelModelPairs store first = channelModelPairs store second :=
    channelModelPairs_congr id models group
  constructor
  · intro same
    rw [buildAbilities_eq_nil_iff]
    cases published : publishPairs ∅ (channelModelPairs store first) with
    | nil => exact .inl rfl
    | cons pair =>
      right
      have built : toAbility first pair ∈ buildAbilities store first :=
        mem_map.mpr ⟨pair,by rw [published]; exact mem_cons_self,rfl⟩
      obtain ⟨other,-,agree⟩ := mem_map.mp ((same _).mp built)
      simp only [toAbility,Ability.mk.injEq,decide_eq_decide] at agree
      obtain ⟨-,-,-,enabled,priority,weight,tag⟩ := agree
      exact ⟨enabled.symm,priority.symm,weight.symm,tag.symm⟩
  · rintro (none | ⟨enabled,priority,weight,tag⟩)
    · have otherNone : buildAbilities store second = [] := by
        rw [buildAbilities_eq_nil_iff] at none ⊢
        rw [← samePairs,none]
      simp [none,otherNone]
    · have agree : toAbility first = toAbility second := by
        funext pair
        simp only [toAbility,id,enabled,priority,weight,tag]
      intro ability
      simp only [buildAbilities,samePairs,agree]

end

section

variable {before after : ChannelStore}

/-- The projection of a database whose channels have been changed, and whose ability rows are
known channel by channel. -/
theorem projected_iff_of_update (before : ChannelStore) (stored seen : Channel → Channel)
    (storedId : ∀ channel, (stored channel).id = channel.id)
    (seenId : ∀ channel, (seen channel).id = channel.id)
    (builds : buildAbilities after = buildAbilities before)
    (channels : after.channels.rows = before.channels.rows.map stored)
    (abilities : ∀ ability, ability ∈ after.abilities.rows ↔
      ∃ channel ∈ before.channels.rows, ability ∈ buildAbilities before (seen channel)) :
    Projected after ↔ ∀ channel ∈ before.channels.rows, ∀ ability,
      ability ∈ buildAbilities before (seen channel) ↔
        ability ∈ buildAbilities before (stored channel) := by
  refine Iff.trans (forall_congr' fun ability => ?_) (before.channels.forall_exists_iff
    (fun channel ability built => (channelId_of_mem_buildAbilities built).trans (seenId channel))
    fun channel ability built => (channelId_of_mem_buildAbilities built).trans (storedId channel))
  rw [abilities]
  simp [channels,builds]

theorem mem_adjusted (projected : Projected before) (adjust : Ability → Ability)
    {seen : Channel → Channel} (samePairs : ∀ channel, channelModelPairs before (seen channel) =
      channelModelPairs before channel) (adjusts : ∀ channel pair,
      adjust (toAbility channel pair) = toAbility (seen channel) pair) (ability : Ability) :
    ability ∈ before.abilities.rows.map adjust ↔
      ∃ channel ∈ before.channels.rows, ability ∈ buildAbilities before (seen channel) := by
  have built (channel : Channel) :
      buildAbilities before (seen channel) = (buildAbilities before channel).map adjust := by
    simp only [buildAbilities,samePairs,map_map]
    exact map_congr_left fun pair _ => (adjusts channel pair).symm
  rw [mem_map]
  constructor
  · rintro ⟨old,stored,rfl⟩
    obtain ⟨channel,member,oldBuilt⟩ := (projected old).mp stored
    exact ⟨channel,member,built channel ▸ mem_map_of_mem oldBuilt⟩
  · rintro ⟨channel,member,newBuilt⟩
    rw [built channel] at newBuilt
    obtain ⟨old,oldBuilt,rfl⟩ := mem_map.mp newBuilt
    exact ⟨old,(projected old).mpr ⟨channel,member,oldBuilt⟩,rfl⟩

end

section

def ChannelStore.rebuild (store : ChannelStore) (channel : Channel) : ChannelStore :=
  { store with
    abilities := (buildAbilities store channel).foldl KeyedTable.insertOrIgnore
      (store.abilities.deleteWhere (·.channelId = channel.id)) }

variable (channel : Channel) {ability : Ability} {store : ChannelStore} {channels : List Channel}

theorem updateAbilities_eq (fault : Option GoError) (store : ChannelStore) :
    updateAbilities fault channel store = attempt fault (store.rebuild channel) := rfl

theorem buildAbilities_rebuild (store : ChannelStore) :
    buildAbilities (store.rebuild channel) = buildAbilities store := rfl

theorem mem_rebuild {channel : Channel} :
    ability ∈ (store.rebuild channel).abilities.rows ↔
      (ability ∈ store.abilities.rows ∧ ability.channelId ≠ channel.id) ∨
        ability ∈ buildAbilities store channel := by
  have unused : ∀ stored ∈ (store.abilities.deleteWhere (·.channelId = channel.id)).rows,
      stored.channelId ≠ channel.id := by
    intro stored member
    simpa using ((mem_deleteWhere _).mp member).2
  rw [rebuild,mem_rebuilt unused,mem_deleteWhere]
  simp

theorem rebuildAll_keeps (channels : List Channel) (store : ChannelStore) :
    buildAbilities (channels.foldl rebuild store) = buildAbilities store ∧
      (channels.foldl rebuild store).channels = store.channels := by
  induction channels generalizing store with
  | nil => exact ⟨rfl,rfl⟩
  | cons channel rest ih => exact ih (store.rebuild channel)

/-- Channels with different ids do not disturb each other's abilities. -/
theorem mem_rebuildAll (distinct : (channels.map Channel.id).Nodup) :
    ability ∈ (channels.foldl rebuild store).abilities.rows ↔
      (ability ∈ store.abilities.rows ∧ ∀ channel ∈ channels, ability.channelId ≠ channel.id) ∨
        ∃ channel ∈ channels, ability ∈ buildAbilities store channel := by
  induction channels generalizing store with
  | nil => simp
  | cons first rest ih =>
    simp only [map_cons,nodup_cons,mem_map,not_exists,not_and] at distinct
    rw [foldl_cons,ih distinct.2,mem_rebuild]
    simp only [forall_mem_cons,exists_mem_cons_iff]
    have apart (built : ability ∈ buildAbilities store first) :
        ∀ channel ∈ rest, ability.channelId ≠ channel.id := by
      rw [channelId_of_mem_buildAbilities built]
      exact fun channel member same => distinct.1 channel member same.symm
    tauto

theorem rebuildListed_eq (faults : Int → Option GoError) (channels : List Channel)
    (store : ChannelStore) :
    rebuildListed faults channels store =
      (channels.filter fun channel => (faults channel.id).isNone).foldl
        rebuild store := by
  unfold rebuildListed
  induction channels generalizing store with
  | nil => rfl
  | cons channel rest ih =>
    rw [foldl_cons,ih,updateAbilities_eq]
    cases fault : faults channel.id <;> simp [fault]

theorem rebuildAll_of_ok {faults : Int → Option GoError}
    {rebuilt : ChannelStore} (called : channels.foldlM (fun store channel =>
      updateAbilities (faults channel.id) channel store) store = .ok rebuilt) :
    rebuilt = channels.foldl rebuild store := by
  induction channels generalizing store with
  | nil => exact (Except.ok.inj called).symm
  | cons channel rest ih =>
    rw [foldlM_cons] at called
    obtain ⟨next,first,later⟩ := bind_succeeds_iff.mp called
    obtain ⟨-,rfl⟩ := attempt_eq_ok.mp (updateAbilities_eq _ _ _ ▸ first)
    exact ih later

end

/-- What has to hold, in the database before it, for an operation to keep the ability
table in step. -/
def ChannelOperation.KeepsAbilities (store : ChannelStore) : ChannelOperation → Prop
  | .write _ | .delete _ _ | .enableByTag _ _ | .disableByTag _ _ => True
  | .updateStatus call =>
    call.abilityFault = none ∨
      ∀ row ∈ store.channels.rows, row.id = call.channelId → ∀ next, call.next row = some next →
        buildAbilities store row = [] ∨
          (row.status = channelStatusEnabled ↔ next.status = channelStatusEnabled)
  | .editByTag faults tag edit =>
    if edit.shouldReCreateAbilities then
      ∀ channel ∈ store.channels.rows, channel.tag = some tag →
        (faults.listing = none ∧ faults.rebuild channel.id = none) ∨
          ∀ ability, ability ∈ buildAbilities store channel ↔
            ability ∈ buildAbilities store (edit.apply tag channel)
    else
      edit.weight = some 0 → ∀ channel ∈ store.channels.rows, channel.tag = some tag →
        channel.getWeight = 0 ∨ buildAbilities store channel = []
  | .batchSetTag _ ids tag =>
    ∀ channel ∈ store.channels.rows, channel.id ∈ ids →
      channel.tag = tag ∨ buildAbilities store channel = []
  | .deleteByStatus _ status =>
    ∀ channel ∈ store.channels.rows, channel.status = status → buildAbilities store channel = []
  | .deleteDisabled _ =>
    ∀ channel ∈ store.channels.rows,
      channel.status = channelStatusAutoDisabled ∨ channel.status = channelStatusManuallyDisabled →
        buildAbilities store channel = []

section

variable {before after : ChannelStore}

theorem adjust_toAbility {change : Channel → Channel} {adjust : Ability → Ability}
    (adjusts : ∀ channel pair, adjust (toAbility channel pair) = toAbility (change channel) pair)
    (wanted : Channel → Prop) (hit : Ability → Prop) [DecidablePred wanted] [DecidablePred hit]
    (same : ∀ channel pair, hit (toAbility channel pair) ↔ wanted channel) (channel : Channel)
    (pair : String × String) :
    (if hit (toAbility channel pair) then adjust (toAbility channel pair)
        else toAbility channel pair) =
      toAbility (if wanted channel then change channel else channel) pair := by
  by_cases isWanted : wanted channel
  · rw [if_pos isWanted,if_pos ((same channel pair).mpr isWanted),adjusts]
  · rw [if_neg isWanted,if_neg (mt (same channel pair).mp isWanted)]

theorem filter_remaining {Row : Type*} (owner : Row → Int) (rows : List Row) {id other : Int}
    (different : other ≠ id) :
    (rows.filter (owner · ≠ id)).filter (owner · = other) = rows.filter (owner · = other) := by
  simpa using filter_replaced different (forall_mem_nil _)

/-- The row that the status flow stores, as routing reads it. -/
def storeStatus (channelId status : Int) (channel : Channel) : Channel :=
  if channel.id = channelId then channel.withStatus status else channel

theorem storeStatus_id (channelId status : Int) (channel : Channel) :
    (storeStatus channelId status channel).id = channel.id := by
  unfold storeStatus
  split_ifs <;> rfl

variable {tag : String} {faults : EditFaults} {channel : Channel} {edit : TagEdit}

theorem TagEdit.apply_tag (edit : TagEdit) (tagged : channel.tag = some tag) :
    (edit.apply tag channel).tag = some (edit.updatedTag tag) := by
  simp only [apply,updatedTag,tagged]
  cases edit.newTag with
  | none => rfl
  | some newTag => by_cases same : newTag = tag <;> simp [Option.filter,same]

/-- The channel whose abilities `UpdateAbilityByTag` leaves behind. -/
def TagEdit.seen (edit : TagEdit) (channel : Channel) : Channel :=
  { channel with
    tag := edit.newTag <|> channel.tag
    priority := edit.priority <|> channel.priority
    weight := some (if edit.weight.getD 0 = 0 then channel.getWeight else edit.weight.getD 0) }

theorem TagEdit.seen_carriesAs_iff (edit : TagEdit) (tagged : channel.tag = some tag) :
    (edit.seen channel).CarriesAs (edit.apply tag channel) ↔
      (edit.weight = some 0 → channel.getWeight = 0) := by
  have sameTag : (edit.newTag <|> channel.tag) = (edit.apply tag channel).tag := by
    rw [edit.apply_tag tagged,tagged,updatedTag]
    cases edit.newTag <;> rfl
  simp only [Channel.CarriesAs,seen,sameTag,Channel.getWeight]
  simp only [apply]
  rcases edit.weight with _ | _ | weight <;> simp

variable (projected : Projected before)

include projected

/-- An update that is the same for the channels and for what their abilities carry. -/
theorem Projected.of_update (stored : Channel → Channel)
    (adjust : Ability → Ability) (same : ∀ channel, (stored channel).id = channel.id ∧
      (stored channel).models = channel.models ∧ (stored channel).group = channel.group)
    (adjusts : ∀ channel pair,
      adjust (toAbility channel pair) = toAbility (stored channel) pair)
    (builds : buildAbilities after = buildAbilities before)
    (channels : after.channels.rows = before.channels.rows.map stored)
    (abilities : after.abilities.rows = before.abilities.rows.map adjust) : Projected after := by
  have sameId := fun channel => (same channel).1
  rw [projected_iff_of_update before stored stored sameId sameId builds channels]
  · exact fun channel _ ability => Iff.rfl
  · rw [abilities]
    exact mem_adjusted projected adjust (fun channel => channelModelPairs_congr (same channel).1
      (same channel).2.1 (same channel).2.2) adjusts

theorem setChannelStatusByTag_projected {status : Int}
    {enabled : Bool} (agree : enabled = decide (status = channelStatusEnabled)) {faults : TagFaults}
    (called : setChannelStatusByTag status enabled faults tag before = (.ok (), after)) :
    Projected after := by
  unfold setChannelStatusByTag at called
  split at called
  · cases called
  split at called
  · cases called
  cases called
  apply projected.of_update (whenTagged tag (Channel.withStatus status))
    (whenAbilityTagged tag (Ability.withEnabled enabled))
  · intro channel
    unfold whenTagged
    split_ifs <;> exact ⟨rfl,rfl,rfl⟩
  · subst agree
    exact adjust_toAbility (fun _ _ => rfl) (·.tag = some tag) (·.tag = some tag) fun _ _ => .rfl
  · rfl
  · rfl
  · rfl

theorem deleteChannels_projected_iff (doomed : Channel → Bool) :
    Projected (before.deleteChannels doomed) ↔
      ∀ channel ∈ before.channels.rows, doomed channel = true →
        buildAbilities before channel = [] := by
  have owned (channel : Channel) (ability : Ability) :
      ability ∈ buildAbilities before channel → ability.channelId = channel.id :=
    channelId_of_mem_buildAbilities
  have kept : Projected (before.deleteChannels doomed) ↔ ∀ ability,
      (∃ channel ∈ before.channels.rows, ability ∈ buildAbilities before channel) ↔
        ∃ channel ∈ before.channels.rows,
          doomed channel = false ∧ ability ∈ buildAbilities before channel := by
    refine forall_congr' fun ability => iff_congr (projected ability) ?_
    simp only [deleteChannels,mem_deleteWhere,and_assoc]
    rfl
  rw [kept,before.channels.forall_exists_iff owned fun channel ability both =>
    owned channel ability both.2]
  refine forall₂_congr fun channel _ => ?_
  cases doomed channel <;> simp [eq_nil_iff_forall_not_mem]

theorem deleteChannel_projected {faults : DeleteFaults}
    {channelId : Int} (called : deleteChannel faults channelId before = (.ok (), after)) :
    Projected after := by
  obtain ⟨-,-,body⟩ := transaction_ok_iff.mp called
  split_ifs at body with noId
  · cases body
  simp only [bind_succeeds_iff] at body
  obtain ⟨deleted,deletes,cleared,clears,dropped,drops,-,-,done⟩ := body
  cases done
  obtain ⟨-,rfl⟩ := attempt_eq_ok.mp deletes
  obtain ⟨-,rfl⟩ := attempt_eq_ok.mp clears
  obtain ⟨-,rfl⟩ := attempt_eq_ok.mp drops
  -- Other channels keep their policies.
  have builds (channel : Channel) (other : channel.id ≠ channelId) :
      buildAbilities (((before.deleteChannels (·.id = channelId)).deleteAbilities
        channelId).deleteChannelModelGroupPolicies channelId) channel =
        buildAbilities before channel := by
    apply buildAbilities_congr
    · exact filter_remaining ChannelModelGroupOverride.channelId before.overrides other
    · exact filter_remaining ChannelModelGroupDisabled.channelId before.disabled other
  intro ability
  simp only [deleteChannelModelGroupPolicies,deleteAbilities,
    deleteChannels,mem_deleteWhere,projected ability] at builds ⊢
  constructor
  · rintro ⟨⟨channel,member,built⟩,kept⟩
    have other : channel.id ≠ channelId := by
      rw [← channelId_of_mem_buildAbilities built]
      simpa using kept
    exact ⟨channel,⟨member,by simpa using other⟩,(builds channel other).symm ▸ built⟩
  · rintro ⟨channel,⟨member,kept⟩,built⟩
    have other : channel.id ≠ channelId := by simpa using kept
    rw [builds channel other] at built
    refine ⟨⟨channel,member,built⟩,?_⟩
    simpa [channelId_of_mem_buildAbilities built] using other

/-- After the channels are changed and listed ones rebuilt, each of these has the abilities of the
row it was rebuilt from, and the others have theirs. -/
theorem projected_rebuildAll_iff (listed : Channel → Bool)
    {stored : Channel → Channel} (storedId : ∀ channel, (stored channel).id = channel.id)
    (read : Channel → Channel) (readId : ∀ channel, (read channel).id = channel.id) :
    Projected (((before.channels.rows.filter listed).map read).foldl rebuild
        (before.updateChannels stored storedId)) ↔
      ∀ channel ∈ before.channels.rows, ∀ ability,
        ability ∈ buildAbilities before (if listed channel then read channel else channel) ↔
          ability ∈ buildAbilities before (stored channel) := by
  refine projected_iff_of_update before stored
    (fun channel => if listed channel then read channel else channel) storedId ?_
    (rebuildAll_keeps _ _).1 (by rw [(rebuildAll_keeps _ _).2]; rfl) ?_
  · intro channel
    split_ifs
    · exact readId channel
    · rfl
  intro ability
  have distinct : (((before.channels.rows.filter listed).map read).map Channel.id).Nodup := by
    have sameIds : ((before.channels.rows.filter listed).map read).map Channel.id =
        (before.channels.rows.filter listed).map Channel.id := by
      rw [map_map]
      exact map_congr_left fun channel _ => readId channel
    rw [sameIds]
    exact before.channels.keysNodup.sublist (filter_sublist.map Channel.id)
  rw [mem_rebuildAll distinct,show (before.updateChannels stored storedId).abilities =
    before.abilities from rfl,projected ability]
  constructor
  · rintro (⟨⟨channel,member,built⟩,others⟩ | ⟨changed,inList,built⟩)
    · have notListed : ¬ listed channel = true := by
        intro isListed
        apply others (read channel)
        · exact mem_map_of_mem (mem_filter.mpr ⟨member,isListed⟩)
        · rw [readId,channelId_of_mem_buildAbilities built]
      exact ⟨channel,member,by rwa [if_neg notListed]⟩
    · obtain ⟨channel,inRows,rfl⟩ := mem_map.mp inList
      obtain ⟨member,isListed⟩ := mem_filter.mp inRows
      exact ⟨channel,member,by rwa [if_pos isListed]⟩
  · rintro ⟨channel,member,built⟩
    split_ifs at built with isListed
    · exact .inr ⟨read channel,mem_map_of_mem (mem_filter.mpr ⟨member,isListed⟩),built⟩
    · refine .inl ⟨⟨channel,member,built⟩,fun changed inList same => isListed ?_⟩
      obtain ⟨other,inRows,rfl⟩ := mem_map.mp inList
      obtain ⟨otherMember,otherListed⟩ := mem_filter.mp inRows
      rw [readId,channelId_of_mem_buildAbilities built] at same
      rwa [eq_of_key_eq member otherMember same]

theorem batchSetChannelTag_projected_iff {faults : BatchFaults} {ids : List Int}
    {tag : Option String} (called : batchSetChannelTag faults ids tag before = (.ok (), after)) :
    Projected after ↔ ∀ channel ∈ before.channels.rows, channel.id ∈ ids →
      channel.tag = tag ∨ buildAbilities before channel = [] := by
  obtain ⟨-,-,body⟩ := transaction_ok_iff.mp called
  simp only [bind_succeeds_iff] at body
  obtain ⟨tagged,tags,channels,reads,rebuilt,rebuilds,done⟩ := body
  cases done
  obtain ⟨-,rfl⟩ := attempt_eq_ok.mp tags
  obtain ⟨-,rfl⟩ := attempt_eq_ok.mp reads
  obtain rfl := rebuildAll_of_ok rebuilds
  rw [← map_id (before.channels.rows.filter _),setTags,
    projected_rebuildAll_iff projected _ _ id fun _ => rfl]
  apply forall₂_congr
  intro channel _
  by_cases inIds : channel.id ∈ ids
  · simp only [id,ite_self,if_pos inIds]
    rw [sameAbilities_iff channel (channel.withTag tag) rfl rfl rfl]
    simp [inIds,Channel.CarriesAs,Channel.withTag,Channel.getWeight,or_comm]
  · simp [inIds]

theorem editChannelByTag_update_projected_iff (keeps : edit.shouldReCreateAbilities = false)
    (called : editChannelByTag faults tag edit before = (.ok (), after)) :
    Projected after ↔ (edit.weight = some 0 → ∀ channel ∈ before.channels.rows,
      channel.tag = some tag → channel.getWeight = 0 ∨ buildAbilities before channel = []) := by
  unfold editChannelByTag at called
  split at called
  · cases called
  simp only [keeps,Bool.false_eq_true,if_false] at called
  split at called
  · cases called
  cases called
  have unchanged : edit.models.getD "" = "" ∧ edit.group.getD "" = "" := by
    simpa [shouldReCreateAbilities] using keeps
  have pairs (channel : Channel) : channelModelPairs before (whenTagged tag edit.seen channel) =
      channelModelPairs before channel := by
    unfold whenTagged
    split_ifs
    · exact channelModelPairs_congr rfl rfl rfl
    · rfl
  have abilities := mem_adjusted projected (whenAbilityTagged tag edit.updateAbility) pairs
    (adjust_toAbility (fun _ _ => rfl) (·.tag = some tag) (·.tag = some tag) fun _ _ => .rfl)
  refine Iff.trans (projected_iff_of_update before (whenTagged tag (edit.apply tag))
    (whenTagged tag edit.seen) (whenTagged_id fun _ => rfl) (whenTagged_id fun _ => rfl) rfl rfl
    abilities) ?_
  have agrees (channel : Channel) :
      (∀ ability, ability ∈ buildAbilities before (whenTagged tag edit.seen channel) ↔
        ability ∈ buildAbilities before (whenTagged tag (edit.apply tag) channel)) ↔
      (channel.tag = some tag → edit.weight = some 0 →
        channel.getWeight = 0 ∨ buildAbilities before channel = []) := by
    by_cases tagged : channel.tag = some tag
    · have seenPairs : channelModelPairs before (edit.seen channel) =
          channelModelPairs before channel := channelModelPairs_congr rfl rfl rfl
      simp only [whenTagged,if_pos tagged]
      rw [sameAbilities_iff (edit.seen channel) (edit.apply tag channel) rfl
        (by simp [apply,seen,unchanged]) (by simp [apply,seen,unchanged]),
        edit.seen_carriesAs_iff tagged,buildAbilities_eq_nil_iff,seenPairs,
        ← buildAbilities_eq_nil_iff]
      tauto
    · simp [whenTagged,tagged]
  simp only [agrees]
  constructor
  · exact fun keepsAll zero channel member tagged => keepsAll channel member tagged zero
  · exact fun keepsAll channel member tagged zero => keepsAll zero channel member tagged

theorem editChannelByTag_rebuild_projected_iff (recreates : edit.shouldReCreateAbilities = true)
    (called : editChannelByTag faults tag edit before = (.ok (), after)) :
    Projected after ↔ ∀ channel ∈ before.channels.rows, channel.tag = some tag →
      (faults.listing = none ∧ faults.rebuild channel.id = none) ∨
        ∀ ability, ability ∈ buildAbilities before channel ↔
          ability ∈ buildAbilities before (edit.apply tag channel) := by
  let stored : Channel → Channel := whenTagged tag (edit.apply tag)
  have storedId : ∀ channel, (stored channel).id = channel.id := whenTagged_id fun _ => rfl
  unfold editChannelByTag at called
  split at called
  · cases called
  simp only [recreates,if_true] at called
  split at called
  · rename_i listingFault
    cases called
    refine Iff.trans (projected_iff_of_update before stored (fun channel => channel) storedId
      (fun _ => rfl) rfl rfl projected) ?_
    apply forall₂_congr
    intro channel _
    by_cases tagged : channel.tag = some tag <;> simp [stored,whenTagged,tagged,listingFault]
  · rename_i listingFault
    cases called
    let listed : Channel → Bool := fun channel =>
      (faults.rebuild (stored channel).id).isNone &&
        decide ((stored channel).tag = some (edit.updatedTag tag))
    have inOrder : ((before.updateChannels stored storedId).channels.rows.filter
        (·.tag = some (edit.updatedTag tag))).filter (fun channel =>
          (faults.rebuild channel.id).isNone) = (before.channels.rows.filter listed).map stored := by
      rw [filter_filter]
      exact filter_map
    rw [rebuildListed_eq,inOrder]
    refine (projected_rebuildAll_iff projected listed storedId stored storedId).trans ?_
    apply forall₂_congr
    intro channel _
    by_cases tagged : channel.tag = some tag
    · have isStored : stored channel = edit.apply tag channel := if_pos tagged
      have isListed : listed channel = (faults.rebuild channel.id).isNone := by
        simp only [listed,isStored,edit.apply_tag tagged]
        simp [apply]
      rw [isStored,isListed]
      cases fault : faults.rebuild channel.id <;> simp [tagged,listingFault]
    · have isStored : stored channel = channel := if_neg tagged
      simp [isStored,tagged]

theorem saveStatusState_projected_iff (status : Int) {row : Channel}
    (found : row ∈ before.channels.rows) :
    Projected (saveStatusState row.id status before) ↔ buildAbilities before row = [] ∨
      (row.status = channelStatusEnabled ↔ status = channelStatusEnabled) := by
  refine Iff.trans (projected_iff_of_update before (storeStatus row.id status)
    (fun channel => channel) (storeStatus_id _ _) (fun _ => rfl) rfl rfl projected) ?_
  have agrees : _ ↔ buildAbilities before row = [] ∨ _ :=
    sameAbilities_iff row (row.withStatus status) rfl rfl rfl
  simp only [Channel.CarriesAs,Channel.withStatus,Channel.getWeight,and_true] at agrees
  rw [← agrees]
  constructor
  · intro all
    simpa [storeStatus,Channel.withStatus] using all row found
  · intro same channel member
    by_cases isRow : channel.id = row.id
    · obtain rfl := eq_of_key_eq member found isRow
      simpa [storeStatus,Channel.withStatus] using same
    · simp [storeStatus,isRow]

theorem updateAbilityStatus_projected {channelId status : Int}
    {enabled : Bool} (agree : enabled = decide (status = channelStatusEnabled)) :
    Projected (updateAbilityStatus none channelId enabled
      (saveStatusState channelId status before)) := by
  refine projected.of_update (storeStatus channelId status)
    (fun ability => if ability.channelId = channelId then ability.withEnabled enabled else ability)
    ?_ ?_ rfl rfl rfl
  · intro channel
    unfold storeStatus
    split_ifs <;> exact ⟨rfl,rfl,rfl⟩
  · subst agree
    exact adjust_toAbility (fun _ _ => rfl) (·.id = channelId) (·.channelId = channelId)
      fun _ _ => .rfl

theorem updateChannelStatus_projected_iff {call : StatusCall}
    (called : updateChannelStatus call before = (true, after)) :
    Projected after ↔ ChannelOperation.KeepsAbilities before (.updateStatus call) := by
  unfold updateChannelStatus at called
  split_ifs at called with ended
  · cases called
  split at called
  · rename_i row readOk found
    obtain ⟨member,sameId⟩ := before.channels.find?_eq_some_iff.mp found
    split at called
    · cases called
    · rename_i next saves
      obtain ⟨saved,rfl⟩ := Prod.mk.inj called
      -- The row is the only one with its id, so the condition is about it alone.
      have onlyRow : ChannelOperation.KeepsAbilities before (.updateStatus call) ↔
          call.abilityFault = none ∨ buildAbilities before row = [] ∨
            (row.status = channelStatusEnabled ↔ next.status = channelStatusEnabled) := by
        refine or_congr_right ⟨fun all => all row member sameId next saves,?_⟩
        intro forRow other otherMember otherId result otherSaves
        obtain rfl := eq_of_key_eq otherMember member (otherId.trans sameId.symm)
        obtain rfl := Option.some.inj (otherSaves.symm.trans saves)
        exact forRow
      have stored := saveStatusState_projected_iff projected next.status member
      rw [sameId] at stored
      rw [onlyRow]
      split_ifs with unchanged
      · rw [stored,unchanged]
        simp
      · cases fault : call.abilityFault with
        | some => simpa [updateAbilityStatus] using stored
        | none =>
          have agree := nextStatusState_enabled_iff saves unchanged
          have sameFlag : decide (call.status = channelStatusEnabled) =
              decide (next.status = channelStatusEnabled) := decide_eq_decide.mpr agree.symm
          exact iff_of_true (updateAbilityStatus_projected projected sameFlag) (.inl rfl)
  · cases called

end

theorem map_isOk {result : Except GoError Unit × ChannelStore} {after : ChannelStore}
    (success : result.map (·.isOk) id = (true, after)) : result = (.ok (), after) := by
  obtain ⟨outcome,store⟩ := result
  cases outcome with
  | error => cases success
  | ok =>
    cases success
    rfl

theorem operation_projected_iff {before after : ChannelStore} (projected : Projected before)
    (operation : ChannelOperation) (success : before.operate operation = (true, after)) :
    Projected after ↔ operation.KeepsAbilities before := by
  cases operation with
  | write call =>
    refine iff_of_true ?_ trivial
    cases call with
    | insert =>
      exact insertChannel_projected projected (map_isOk success)
    | update => exact updateChannel_projected projected (map_isOk success)
  | delete =>
    exact iff_of_true (deleteChannel_projected projected (map_isOk success)) trivial
  | updateStatus => exact updateChannelStatus_projected_iff projected success
  | enableByTag faults tag | disableByTag faults tag =>
    exact iff_of_true (setChannelStatusByTag_projected projected rfl (map_isOk success)) trivial
  | editByTag =>
    simp only [ChannelOperation.KeepsAbilities]
    split_ifs with recreates
    · exact editChannelByTag_rebuild_projected_iff projected recreates (map_isOk success)
    · exact editChannelByTag_update_projected_iff projected (Bool.eq_false_iff.mpr recreates)
        (map_isOk success)
  | batchSetTag =>
    exact batchSetChannelTag_projected_iff projected (map_isOk success)
  | deleteByStatus fault status =>
    cases fault with
    | some => cases success
    | none =>
      cases success
      simpa [ChannelOperation.KeepsAbilities] using
        deleteChannels_projected_iff projected (·.status = status)
  | deleteDisabled fault =>
    cases fault with
    | some => cases success
    | none =>
      cases success
      simpa [ChannelOperation.KeepsAbilities] using
        deleteChannels_projected_iff projected fun channel =>
          channel.status = channelStatusAutoDisabled ||
            channel.status = channelStatusManuallyDisabled

def taggedStore : ChannelStore :=
  ChannelStore.empty.write (.insert
    { beginTx := none, write := none, duplicateKey := .message "", policies := none
      endpoints := none, reload := none, abilities := none, commit := none } [] 1
    { channel := { id := 0, status := channelStatusManuallyDisabled, group := "default"
                   models := "gpt-4o", priority := none, weight := some 5, tag := some "t" }
      modelGroupModes := none })

theorem taggedStore_projected : Projected taggedStore :=
  projected_write (by simp [Projected,empty]) _

theorem operation_projected_iff_enabled :
    Projected (taggedStore.operate (.enableByTag ⟨none, none⟩ "t")).2 :=
  (operation_projected_iff taggedStore_projected (.enableByTag ⟨none,none⟩ "t") rfl).mpr trivial

/-- The weight zero, a new tag and a deletion by status leave the abilities behind. -/
theorem operations_leave_abilities :
    let edit : ChannelOperation :=
      .editByTag ⟨none, none, fun _ => none, none⟩ "t" ⟨none, none, none, none, some 0⟩
    let retag : ChannelOperation := .batchSetTag ⟨none, none, none, fun _ => none, none⟩ [1] (some "u")
    Projected taggedStore ∧
      ((taggedStore.operate edit).1 = true ∧ ¬ Projected (taggedStore.operate edit).2) ∧
      ((taggedStore.operate retag).1 = true ∧ ¬ Projected (taggedStore.operate retag).2) ∧
      ((taggedStore.operate (.deleteDisabled none)).1 = true ∧
        ¬ Projected (taggedStore.operate (.deleteDisabled none)).2) ∧
      ((taggedStore.operate (.deleteByStatus none channelStatusManuallyDisabled)).1 = true ∧
        ¬ Projected
          (taggedStore.operate (.deleteByStatus none channelStatusManuallyDisabled)).2) := by
  intro edit retag
  have projected := taggedStore_projected
  refine ⟨projected,⟨rfl,?_⟩,⟨by decide +kernel,?_⟩,⟨rfl,?_⟩,⟨rfl,?_⟩⟩
  · have edited : editChannelByTag ⟨none,none,fun _ => none,none⟩ "t"
        ⟨none,none,none,none,some 0⟩ taggedStore = (.ok (), (taggedStore.operate edit).2) := rfl
    exact (editChannelByTag_update_projected_iff projected rfl edited).not.mpr (by decide +kernel)
  · have retagged : (batchSetChannelTag ⟨none,none,none,fun _ => none,none⟩ [1] (some "u")
        taggedStore).1 = .ok () := by decide +kernel
    exact (batchSetChannelTag_projected_iff projected (Prod.ext retagged rfl)).not.mpr
      (by decide +kernel)
  · exact (deleteChannels_projected_iff projected _).not.mpr (by decide +kernel)
  · exact (deleteChannels_projected_iff projected _).not.mpr (by decide +kernel)

end NewApi
