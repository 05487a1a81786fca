import Mathlib.Data.Finset.Lattice.Lemmas
import Mathlib.Data.List.Sort
import NewApi.Errors
import NewApi.KeyedTable
import NewApi.Transactions

/-! # Channels, their per-model group policies and their abilities -/

namespace NewApi

open Transactions GoStrings

/-- The columns of `Channel` that routing reads. -/
structure Channel where
  id : Int
  status : Int
  group : String
  models : String
  priority : Option Int
  weight : Option Nat
  tag : Option String
deriving DecidableEq, Repr

def channelStatusEnabled : Int := 1

structure ChannelModelGroupModeInput where
  model : String
  mode : String
  groups : List String
deriving DecidableEq, Repr

def channelModelGroupModeInherit : String := "inherit"
def channelModelGroupModeCustom : String := "custom"
def channelModelGroupModeDisabled : String := "disabled"

def isChannelModelGroupModeValid (mode : String) : Bool :=
  mode = channelModelGroupModeInherit ∨ mode = channelModelGroupModeCustom ∨
    mode = channelModelGroupModeDisabled

structure ChannelModelGroupOverride where
  channelId : Int
  model : String
  groupKey : String
  sortOrder : Nat
deriving DecidableEq, Repr

structure ChannelModelGroupDisabled where
  channelId : Int
  model : String
deriving DecidableEq, Repr

structure Ability where
  group : String
  model : String
  channelId : Int
  enabled : Bool
  priority : Option Int
  weight : Nat
  tag : Option String
deriving DecidableEq, Repr

def Ability.key (ability : Ability) : String × String × Int :=
  (ability.group, ability.model, ability.channelId)

structure ChannelStore where
  channels : KeyedTable Channel.id
  overrides : List ChannelModelGroupOverride
  disabled : List ChannelModelGroupDisabled
  abilities : KeyedTable Ability.key

namespace ChannelStore

def empty : ChannelStore where
  channels := { rows := [], keysNodup := by simp }
  overrides := []
  disabled := []
  abilities := { rows := [], keysNodup := by simp }

end ChannelStore

namespace Channel

variable (channel : Channel)

def getPriority : Int := channel.priority.getD 0

def getWeight : Nat := channel.weight.getD 0

def getModels : List String :=
  if channel.models = "" then [] else split (trim channel.models ',') ','

def getGroups : List String :=
  if channel.group = "" then [] else (split (trim channel.group ',') ',').map trimSpace

end Channel

/-- A group that an ability may name; `auto` is reserved. -/
def isConcreteGroup (group : String) : Bool :=
  group ≠ "" ∧ group ≠ "auto"

def channelDefaultGroups (channel : Channel) : List String :=
  (channel.getGroups.map trimSpace).filter isConcreteGroup

def sortsNoLater (first second : ChannelModelGroupOverride) : Prop :=
  first.sortOrder < second.sortOrder ∨
    (first.sortOrder = second.sortOrder ∧ first.groupKey ≤ second.groupKey)

instance : DecidableRel sortsNoLater := fun first second =>
  inferInstanceAs (Decidable (first.sortOrder < second.sortOrder ∨
    (first.sortOrder = second.sortOrder ∧ first.groupKey ≤ second.groupKey)))

/-- The groups that a model of a channel is published to: none when disabled, its
own when custom, the default groups otherwise. -/
def resolveChannelModelGroups (store : ChannelStore) (channelId : Int) (modelName : String)
    (defaultGroups : List String) : List String :=
  if store.disabled.any (fun row => row.channelId = channelId ∧ row.model = modelName) then []
  else
    let overrides := (store.overrides.filter fun row =>
      row.channelId = channelId ∧ row.model = modelName).insertionSort sortsNoLater
    if overrides ≠ [] then
      ((overrides.map fun row => trimSpace row.groupKey).filter isConcreteGroup).eraseDups
    else defaultGroups

def publishedModels (channel : Channel) : List String :=
  (channel.getModels.map trimSpace).filter (· ≠ "")

def abilityKey (pair : String × String) : String :=
  pair.1 ++ "|" ++ pair.2

def publishPairs (abilitySet : Finset String) : List (String × String) → List (String × String)
  | [] => []
  | pair :: rest =>
    if abilityKey pair ∈ abilitySet then publishPairs abilitySet rest
    else pair :: publishPairs (insert (abilityKey pair) abilitySet) rest

def publishedGroups (store : ChannelStore) (channel : Channel) (modelName : String) :
    List String :=
  resolveChannelModelGroups store channel.id modelName (channelDefaultGroups channel)

def channelModelPairs (store : ChannelStore) (channel : Channel) : List (String × String) :=
  (publishedModels channel).flatMap fun modelName =>
    (publishedGroups store channel modelName).map fun group => (group, modelName)

def toAbility (channel : Channel) (pair : String × String) : Ability where
  group := pair.1
  model := pair.2
  channelId := channel.id
  enabled := channel.status = channelStatusEnabled
  priority := channel.priority
  weight := channel.getWeight
  tag := channel.tag

def buildAbilities (store : ChannelStore) (channel : Channel) : List Ability :=
  (publishPairs ∅ (channelModelPairs store channel)).map (toAbility channel)

def channelModelGroupCatalog (groupRatios usableGroups : List String) : List String :=
  ((groupRatios ++ usableGroups).map trimSpace).filter isConcreteGroup

def checkCustomGroups (catalog : List String) (modelName : String) :
    List String → List String → Except GoError Unit
  | _, [] => .ok ()
  | seen, input :: rest =>
    let group := trimSpace input
    if group = "" ∨ group = "auto" then
      .error (.message s!"invalid group \"{group}\" in channel model group policy for {modelName}")
    else if group ∉ catalog then
      .error (.message s!"group {group} does not exist in the group catalog")
    else if group ∈ seen then
      .error (.message s!"duplicate group {group} in channel model group policy for {modelName}")
    else checkCustomGroups catalog modelName (group :: seen) rest

def checkPolicies (catalog published : List String) :
    List String → List ChannelModelGroupModeInput → Except GoError Unit
  | _, [] => .ok ()
  | seenModels, input :: rest => do
    let modelName := trimSpace input.model
    let mode := input.mode
    if modelName = "" then
      .error (.message "invalid channel model group policy: empty model")
    else if !isChannelModelGroupModeValid mode then
      .error (.message s!"invalid channel model group mode: {mode}")
    else if modelName ∈ seenModels then
      .error (.message s!"duplicate channel model group policy for model {modelName}")
    else if modelName ∉ published then
      .error (.message s!"model {modelName} is not published by channel")
    else if mode = channelModelGroupModeCustom ∧ input.groups = [] then
      .error (.message
        s!"custom channel model group policy for {modelName} requires at least one group")
    else if mode ≠ channelModelGroupModeCustom ∧ input.groups ≠ [] then
      .error (.message
        s!"{mode} channel model group policy for {modelName} must not carry groups")
    else
      checkCustomGroups catalog modelName [] input.groups
      checkPolicies catalog published (modelName :: seenModels) rest

def disabledRows (channelId : Int) (modes : List ChannelModelGroupModeInput) :
    List ChannelModelGroupDisabled :=
  (modes.filter (·.mode = channelModelGroupModeDisabled)).map fun input =>
    { channelId := channelId, model := trimSpace input.model }

def overrideRows (channelId : Int) (modes : List ChannelModelGroupModeInput) :
    List ChannelModelGroupOverride :=
  (modes.filter (·.mode = channelModelGroupModeCustom)).flatMap fun input =>
    input.groups.zipIdx.map fun (group, index) =>
      { channelId := channelId
        model := trimSpace input.model
        groupKey := trimSpace group
        sortOrder := index }

def replaceChannelModelGroupPolicies (catalog : List String) (fault : Option GoError)
    (channelId : Int) (modes : List ChannelModelGroupModeInput) (published : List String)
    (store : ChannelStore) : Except GoError ChannelStore := do
  checkPolicies catalog published [] modes
  attempt fault
    { store with
      disabled := store.disabled.filter (·.channelId ≠ channelId) ++ disabledRows channelId modes
      overrides :=
        store.overrides.filter (·.channelId ≠ channelId) ++ overrideRows channelId modes }

structure ChannelRequest where
  channel : Channel
  modelGroupModes : Option (List ChannelModelGroupModeInput)

/-- Errors of the statements of `Insert` and `Update`. `endpoints` is the outcome
of the fixed-endpoint rows, which routing does not read here. -/
structure ChannelTxFaults where
  beginTx : Option GoError
  write : Option GoError
  duplicateKey : GoError
  policies : Option GoError
  endpoints : Option GoError
  reload : Option GoError
  abilities : Option GoError
  commit : Option GoError

def replaceChannelModelGroupModes (catalog : List String) (fault : Option GoError) (id : Int)
    (request : ChannelRequest) (store : ChannelStore) : Except GoError ChannelStore :=
  match request.modelGroupModes with
  | none => .ok store
  | some modes =>
    replaceChannelModelGroupPolicies catalog fault id modes (publishedModels request.channel) store

/-- The row that `tx.Create(channel)` writes; zero fields take the column
default, and a zero id is assigned by the database. -/
def Channel.withDefaults (assigned : Int) (channel : Channel) : Channel where
  id := if channel.id = 0 then assigned else channel.id
  status := if channel.status = 0 then channelStatusEnabled else channel.status
  group := if channel.group = "" then "default" else channel.group
  models := channel.models
  priority := some channel.getPriority
  weight := some channel.getWeight
  tag := channel.tag

def createChannel (faults : ChannelTxFaults) (row : Channel) (store : ChannelStore) :
    Except GoError ChannelStore :=
  if free : store.channels.find? row.id = none then
    attempt faults.write { store with channels := store.channels.insert row free }
  else .error faults.duplicateKey

def addAbilities (fault : Option GoError) (channel : Channel) (store : ChannelStore) :
    Except GoError ChannelStore :=
  attempt fault
    { store with
      abilities := (buildAbilities store channel).foldl KeyedTable.insertOrIgnore store.abilities }

def insertChannel (faults : ChannelTxFaults) (catalog : List String) (assigned : Int)
    (request : ChannelRequest) (store : ChannelStore) : Except GoError Unit × ChannelStore :=
  let row := request.channel.withDefaults assigned
  transaction faults.beginTx faults.commit (fun store => do
    let store ← createChannel faults row store
    let store ← replaceChannelModelGroupModes catalog faults.policies row.id request store
    attempt faults.endpoints ()
    let store ← addAbilities faults.abilities row store
    .ok ((), store)) store

/-- The row that `Updates(channel)` leaves; zero fields are not written. -/
def Channel.updatedBy (stored channel : Channel) : Channel where
  id := stored.id
  status := if channel.status = 0 then stored.status else channel.status
  group := if channel.group = "" then stored.group else channel.group
  models := if channel.models = "" then stored.models else channel.models
  priority := channel.priority <|> stored.priority
  weight := channel.weight <|> stored.weight
  tag := channel.tag <|> stored.tag

def updateChannelRow (fault : Option GoError) (channel : Channel) (store : ChannelStore) :
    Except GoError ChannelStore :=
  attempt fault
    (match store.channels.find? channel.id with
    | none => store
    | some stored => { store with channels := store.channels.save (stored.updatedBy channel) })

def updateAbilities (fault : Option GoError) (channel : Channel) (store : ChannelStore) :
    Except GoError ChannelStore :=
  attempt fault
    { store with
      abilities := (buildAbilities store channel).foldl KeyedTable.insertOrIgnore
        (store.abilities.deleteWhere (·.channelId = channel.id)) }

def updateChannel (faults : ChannelTxFaults) (catalog : List String) (request : ChannelRequest)
    (store : ChannelStore) : Except GoError Unit × ChannelStore :=
  transaction faults.beginTx faults.commit (fun store => do
    let store ← updateChannelRow faults.write request.channel store
    let store ←
      replaceChannelModelGroupModes catalog faults.policies request.channel.id request store
    attempt faults.endpoints ()
    match faults.reload, store.channels.find? request.channel.id with
    | some error, _ => .error error
    | none, none => .error .recordNotFound
    | none, some row =>
      let store ← updateAbilities faults.abilities row store
      .ok ((), store)) store

end NewApi
