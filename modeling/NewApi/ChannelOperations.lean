import NewApi.ChannelAbilities
import NewApi.MultiKeyChannel

/-!
# Operations on channels

The administration of channels by id, by tag and by status.
-/

namespace NewApi

open Transactions

namespace ChannelStore

variable (store : ChannelStore)

def updateChannels (change : Channel → Channel)
    (sameId : ∀ channel, (change channel).id = channel.id) : ChannelStore :=
  { store with channels := store.channels.updateAll change sameId }

def updateAbilityRows (change : Ability → Ability)
    (sameKey : ∀ ability, (change ability).key = ability.key) : ChannelStore :=
  { store with abilities := store.abilities.updateAll change sameKey }

def deleteChannels (doomed : Channel → Bool) : ChannelStore :=
  { store with channels := store.channels.deleteWhere doomed }

def deleteAbilities (channelId : Int) : ChannelStore :=
  { store with abilities := store.abilities.deleteWhere (·.channelId = channelId) }

def deleteChannelModelGroupPolicies (channelId : Int) : ChannelStore :=
  { store with
    overrides := store.overrides.filter (·.channelId ≠ channelId)
    disabled := store.disabled.filter (·.channelId ≠ channelId) }

end ChannelStore

def whenTagged (tag : String) (change : Channel → Channel) (channel : Channel) : Channel :=
  if channel.tag = some tag then change channel else channel

def whenAbilityTagged (tag : String) (change : Ability → Ability) (ability : Ability) : Ability :=
  if ability.tag = some tag then change ability else ability

theorem whenTagged_id {tag : String} {change : Channel → Channel}
    (sameId : ∀ channel, (change channel).id = channel.id) (channel : Channel) :
    (whenTagged tag change channel).id = channel.id := by
  unfold whenTagged
  split_ifs
  · exact sameId channel
  · rfl

theorem whenAbilityTagged_key {tag : String} {change : Ability → Ability}
    (sameKey : ∀ ability, (change ability).key = ability.key) (ability : Ability) :
    (whenAbilityTagged tag change ability).key = ability.key := by
  unfold whenAbilityTagged
  split_ifs
  · exact sameKey ability
  · rfl

def Channel.withStatus (status : Int) (channel : Channel) : Channel :=
  { channel with status }

def Ability.withEnabled (enabled : Bool) (ability : Ability) : Ability :=
  { ability with enabled }

structure DeleteFaults where
  beginTx : Option GoError
  channel : Option GoError
  abilities : Option GoError
  policies : Option GoError
  endpoints : Option GoError
  commit : Option GoError

/-- `Channel.Delete`; without an id the statement has no condition and is refused. -/
def deleteChannel (faults : DeleteFaults) (channelId : Int) (store : ChannelStore) :
    Except GoError Unit × ChannelStore :=
  transaction faults.beginTx faults.commit (fun store => do
    if channelId = 0 then .error (.message "WHERE conditions required")
    let store ← attempt faults.channel (store.deleteChannels (·.id = channelId))
    let store ← attempt faults.abilities (store.deleteAbilities channelId)
    let store ← attempt faults.policies (store.deleteChannelModelGroupPolicies channelId)
    attempt faults.endpoints ()
    .ok ((), store)) store

def deleteChannelByStatus (fault : Option GoError) (status : Int) (store : ChannelStore) :
    Except GoError Unit × ChannelStore :=
  match fault with
  | some error => (.error error, store)
  | none => (.ok (), store.deleteChannels (·.status = status))

def deleteDisabledChannel (fault : Option GoError) (store : ChannelStore) :
    Except GoError Unit × ChannelStore :=
  match fault with
  | some error => (.error error, store)
  | none =>
    (.ok (), store.deleteChannels fun channel =>
      channel.status = channelStatusAutoDisabled || channel.status = channelStatusManuallyDisabled)

/-- A call of `UpdateChannelStatus`, with the keys and the columns of the row that
routing does not read, and what the memory cache holds when it is on. -/
structure StatusCall where
  channelId : Int
  usingKey : String
  status : Int
  reason : String
  now : Int
  keys : List String
  columns : ChannelStatusState
  memoryCache : Option (Option ChannelStatusState)
  readFault : Option GoError
  saveFault : Option GoError
  abilityFault : Option GoError

/-- The memory cache ends the call when it lacks the channel, or has a channel with a
single key in the wanted status. -/
def StatusCall.endsAtCache (call : StatusCall) : Bool :=
  match call.memoryCache with
  | none => false
  | some none => true
  | some (some cached) => !cached.info.isMultiKey && cached.status = call.status

def StatusCall.next (call : StatusCall) (row : Channel) : Option ChannelStatusState :=
  nextStatusState call.keys call.usingKey call.status call.reason call.now
    { call.columns with status := row.status }

def updateAbilityStatus (fault : Option GoError) (channelId : Int) (enabled : Bool)
    (store : ChannelStore) : ChannelStore :=
  match fault with
  | some _ => store
  | none =>
    store.updateAbilityRows
      (fun ability => if ability.channelId = channelId then ability.withEnabled enabled else ability)
      (fun ability => by split_ifs <;> rfl)

/-- `saveStatusState`, as far as routing reads the row. -/
def saveStatusState (channelId status : Int) (store : ChannelStore) : ChannelStore :=
  store.updateChannels
    (fun channel => if channel.id = channelId then channel.withStatus status else channel)
    (fun channel => by split_ifs <;> rfl)

def updateChannelStatus (call : StatusCall) (store : ChannelStore) : Bool × ChannelStore :=
  if call.endsAtCache then (false, store)
  else
    match call.readFault, store.channels.find? call.channelId with
    | none, some row =>
      match call.next row with
      | none => (false, store)
      | some next =>
        let saves := call.saveFault.isNone && call.channelId ≠ 0
        let saved := if saves then saveStatusState call.channelId next.status store else store
        -- The deferred update runs even when the row was not saved.
        (saves,
          if next.status = row.status then saved
          else updateAbilityStatus call.abilityFault call.channelId
            (call.status = channelStatusEnabled) saved)
    | _, _ => (false, store)

structure TagFaults where
  channels : Option GoError
  abilities : Option GoError

/-- The two statements that enable or disable the channels of a tag. -/
def setChannelStatusByTag (status : Int) (enabled : Bool) (faults : TagFaults) (tag : String)
    (store : ChannelStore) : Except GoError Unit × ChannelStore :=
  match faults.channels with
  | some error => (.error error, store)
  | none =>
    let written := store.updateChannels (whenTagged tag (Channel.withStatus status))
      (whenTagged_id fun _ => rfl)
    match faults.abilities with
    | some error => (.error error, written)
    | none =>
      (.ok (), written.updateAbilityRows (whenAbilityTagged tag (Ability.withEnabled enabled))
        (whenAbilityTagged_key fun _ => rfl))

def enableChannelByTag : TagFaults → String → ChannelStore → Except GoError Unit × ChannelStore :=
  setChannelStatusByTag channelStatusEnabled true

def disableChannelByTag : TagFaults → String → ChannelStore → Except GoError Unit × ChannelStore :=
  setChannelStatusByTag channelStatusManuallyDisabled false

/-- The arguments of `EditChannelByTag` that routing reads. -/
structure TagEdit where
  newTag : Option String
  models : Option String
  group : Option String
  priority : Option Int
  weight : Option Nat
deriving DecidableEq, Repr

namespace TagEdit

variable (edit : TagEdit)

def shouldReCreateAbilities : Bool :=
  edit.models.getD "" ≠ "" || edit.group.getD "" ≠ ""

def updatedTag (tag : String) : String :=
  edit.newTag.getD tag

/-- The columns that `Updates(updateData)` writes. -/
def apply (tag : String) (channel : Channel) : Channel :=
  { channel with
    tag := edit.newTag.filter (· ≠ tag) <|> channel.tag
    models := if edit.models.getD "" ≠ "" then edit.models.getD "" else channel.models
    group := if edit.group.getD "" ≠ "" then edit.group.getD "" else channel.group
    priority := edit.priority <|> channel.priority
    weight := edit.weight <|> channel.weight }

/-- The columns that `UpdateAbilityByTag` writes. The weight of an ability is no
pointer, so a zero is not written. -/
def updateAbility (ability : Ability) : Ability :=
  { ability with
    tag := edit.newTag <|> ability.tag
    priority := edit.priority <|> ability.priority
    weight := if edit.weight.getD 0 = 0 then ability.weight else edit.weight.getD 0 }

end TagEdit

structure EditFaults where
  channels : Option GoError
  listing : Option GoError
  rebuild : Int → Option GoError
  abilities : Option GoError

/-- The loop over the channels of the tag, in any order; a failed rebuild is logged. -/
def rebuildListed (rebuild : Int → Option GoError) (channels : List Channel)
    (store : ChannelStore) : ChannelStore :=
  channels.foldl (fun store channel =>
    match updateAbilities (rebuild channel.id) channel store with
    | .ok rebuilt => rebuilt
    | .error _ => store) store

def editChannelByTag (faults : EditFaults) (tag : String) (edit : TagEdit) (store : ChannelStore) :
    Except GoError Unit × ChannelStore :=
  match faults.channels with
  | some error => (.error error, store)
  | none =>
    let written := store.updateChannels (whenTagged tag (edit.apply tag))
      (whenTagged_id fun _ => rfl)
    if edit.shouldReCreateAbilities then
      match faults.listing with
      | some _ => (.ok (), written)
      | none =>
        (.ok (), rebuildListed faults.rebuild
          (written.channels.rows.filter (·.tag = some (edit.updatedTag tag))) written)
    else
      match faults.abilities with
      | some error => (.error error, written)
      | none =>
        (.ok (), written.updateAbilityRows (whenAbilityTagged tag edit.updateAbility)
          (whenAbilityTagged_key fun _ => rfl))

structure BatchFaults where
  beginTx : Option GoError
  tag : Option GoError
  read : Option GoError
  rebuild : Int → Option GoError
  commit : Option GoError

def Channel.withTag (tag : Option String) (channel : Channel) : Channel :=
  { channel with tag }

def setTags (ids : List Int) (tag : Option String) (store : ChannelStore) : ChannelStore :=
  store.updateChannels
    (fun channel => if channel.id ∈ ids then channel.withTag tag else channel)
    (fun channel => by split_ifs <;> rfl)

def batchSetChannelTag (faults : BatchFaults) (ids : List Int) (tag : Option String)
    (store : ChannelStore) : Except GoError Unit × ChannelStore :=
  transaction faults.beginTx faults.commit (fun committed => do
    let tagged ← attempt faults.tag (setTags ids tag committed)
    -- `GetChannelsByIds` reads through `DB`, not through the transaction, and so
    -- sees the rows as they were committed.
    let channels ← attempt faults.read (committed.channels.rows.filter (·.id ∈ ids))
    let rebuilt ← channels.foldlM (fun store channel =>
      updateAbilities (faults.rebuild channel.id) channel store) tagged
    .ok ((), rebuilt)) store

inductive ChannelOperation where
  | write (call : ChannelWrite)
  | delete (faults : DeleteFaults) (channelId : Int)
  | updateStatus (call : StatusCall)
  | enableByTag (faults : TagFaults) (tag : String)
  | disableByTag (faults : TagFaults) (tag : String)
  | editByTag (faults : EditFaults) (tag : String) (edit : TagEdit)
  | batchSetTag (faults : BatchFaults) (ids : List Int) (tag : Option String)
  | deleteByStatus (fault : Option GoError) (status : Int)
  | deleteDisabled (fault : Option GoError)

/-- Whether the operation reports success, and the database after it. -/
def ChannelStore.operate (store : ChannelStore) : ChannelOperation → Bool × ChannelStore
  | .write (.insert faults catalog assigned request) =>
    (insertChannel faults catalog assigned request store).map (·.isOk) id
  | .write (.update faults catalog request) =>
    (updateChannel faults catalog request store).map (·.isOk) id
  | .delete faults channelId => (deleteChannel faults channelId store).map (·.isOk) id
  | .updateStatus call => updateChannelStatus call store
  | .enableByTag faults tag => (enableChannelByTag faults tag store).map (·.isOk) id
  | .disableByTag faults tag => (disableChannelByTag faults tag store).map (·.isOk) id
  | .editByTag faults tag edit => (editChannelByTag faults tag edit store).map (·.isOk) id
  | .batchSetTag faults ids tag => (batchSetChannelTag faults ids tag store).map (·.isOk) id
  | .deleteByStatus fault status => (deleteChannelByStatus fault status store).map (·.isOk) id
  | .deleteDisabled fault => (deleteDisabledChannel fault store).map (·.isOk) id

end NewApi
