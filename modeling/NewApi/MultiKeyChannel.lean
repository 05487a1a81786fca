import NewApi.ChannelStore

/-!
# Channels with several keys

A channel with several keys keeps the status of each key, why and when it was
disabled, and the cursor of the polling mode in one column.
-/

namespace NewApi

def channelStatusManuallyDisabled : Int := 2

def channelStatusAutoDisabled : Int := 3

inductive MultiKeyMode where
  | random
  | polling
  | other
deriving DecidableEq, Repr

/-- A key without an entry in the status list is enabled. -/
structure ChannelInfo where
  isMultiKey : Bool
  multiKeySize : Nat
  multiKeyStatusList : Nat → Option Int
  multiKeyDisabledReason : Nat → Option String
  multiKeyDisabledTime : Nat → Option Int
  multiKeyPollingIndex : Int
  multiKeyMode : MultiKeyMode

/-- The columns that `saveStatusState` writes. Of the other info, the status flow has
two entries. -/
structure ChannelStatusState where
  status : Int
  statusReason : Option String
  statusTime : Option Int
  info : ChannelInfo

def ChannelInfo.keyStatus (info : ChannelInfo) (index : Nat) : Int :=
  (info.multiKeyStatusList index).getD channelStatusEnabled

variable (keys : List String)

def hasEnabledMultiKey (info : ChannelInfo) : Bool :=
  (List.range keys.length).any (info.keyStatus · = channelStatusEnabled)

namespace ChannelInfo

def enableKey (info : ChannelInfo) (index : Nat) : ChannelInfo :=
  { info with multiKeyStatusList := Function.update info.multiKeyStatusList index none }

def disableKey (info : ChannelInfo) (index : Nat) (status : Int) (reason : String) (now : Int) :
    ChannelInfo :=
  { info with
    multiKeyStatusList := Function.update info.multiKeyStatusList index (some status)
    multiKeyDisabledReason := Function.update info.multiKeyDisabledReason index (some reason)
    multiKeyDisabledTime := Function.update info.multiKeyDisabledTime index (some now) }

def setKey (info : ChannelInfo) (index : Nat) (status : Int) (reason : String) (now : Int) :
    ChannelInfo :=
  if status = channelStatusEnabled then info.enableKey index
  else info.disableKey index status reason now

@[simp]
theorem setKey_pollingIndex (info : ChannelInfo) (index : Nat) (status : Int) (reason : String)
    (now : Int) :
    (info.setKey index status reason now).multiKeyPollingIndex = info.multiKeyPollingIndex := by
  unfold setKey
  split_ifs <;> rfl

@[simp]
theorem setKey_isMultiKey (info : ChannelInfo) (index : Nat) (status : Int) (reason : String)
    (now : Int) : (info.setKey index status reason now).isMultiKey = info.isMultiKey := by
  unfold setKey
  split_ifs <;> rfl

end ChannelInfo

namespace ChannelStatusState

def mark (state : ChannelStatusState) (status : Int) (reason : String) (now : Int) :
    ChannelStatusState :=
  { state with status, statusReason := some reason, statusTime := some now }

def withInfo (state : ChannelStatusState) (info : ChannelInfo) : ChannelStatusState :=
  { state with info }

end ChannelStatusState

def handlerMultiKeyUpdate (usingKey : String) (status : Int) (reason : String)
    (now : Int) (channel : ChannelStatusState) : ChannelStatusState :=
  if keys = [] then { channel with status }
  else
    match keys.findIdx? (· = usingKey) with
    | none => if usingKey ≠ "" then channel else channel.mark status reason now
    | some keyIndex =>
      let updated := channel.withInfo (channel.info.setKey keyIndex status reason now)
      if !hasEnabledMultiKey keys updated.info then
        updated.mark channelStatusAutoDisabled "All keys are disabled" now
      else if status = channelStatusEnabled then { updated with status := channelStatusEnabled }
      else updated

def nextStatusState (usingKey : String) (status : Int) (reason : String)
    (now : Int) (channel : ChannelStatusState) : Option ChannelStatusState :=
  if channel.status = status then none
  else if channel.info.isMultiKey then
    some (handlerMultiKeyUpdate keys usingKey status reason now channel)
  else some (channel.mark status reason now)

section

variable {keys : List String} {usingKey reason : String} {status now : Int}
  {channel : ChannelStatusState}

theorem hasEnabled_enableKey {info : ChannelInfo} {index : Nat} (inRange : index < keys.length) :
    hasEnabledMultiKey keys (info.enableKey index) = true := by
  rw [hasEnabledMultiKey,List.any_eq_true]
  refine ⟨index,List.mem_range.mpr inRange,?_⟩
  simp [ChannelInfo.keyStatus,ChannelInfo.enableKey]

theorem handler_enabled_iff
    (changed : (handlerMultiKeyUpdate keys usingKey status reason now channel).status ≠
      channel.status) :
    (handlerMultiKeyUpdate keys usingKey status reason now channel).status = channelStatusEnabled ↔
      status = channelStatusEnabled := by
  revert changed
  fun_cases handlerMultiKeyUpdate keys usingKey status reason now channel with
  | case1 noKeys | case3 someKeys unknown whole => exact fun _ => Iff.rfl
  | case2 someKeys unknown given | case6 someKeys keyIndex found updated someEnabled disabling =>
    exact fun changed => absurd rfl changed
  | case4 someKeys keyIndex found updated noneEnabled =>
    intro _
    have inRange : keyIndex < keys.length := (List.findIdx?_eq_some_iff_findIdx_eq.mp found).1
    constructor
    · exact fun enabled => absurd (show channelStatusAutoDisabled = channelStatusEnabled from enabled)
        (by decide)
    · intro enabling
      have enabled : hasEnabledMultiKey keys updated.info = true := by
        simp only [updated,ChannelInfo.setKey,if_pos enabling]
        exact hasEnabled_enableKey inRange
      simp [enabled] at noneEnabled
  | case5 someKeys keyIndex found updated someEnabled enabling => exact fun _ => by simp [enabling]

theorem handler_pollingIndex :
    (handlerMultiKeyUpdate keys usingKey status reason now channel).info.multiKeyPollingIndex =
      channel.info.multiKeyPollingIndex := by
  fun_cases handlerMultiKeyUpdate keys usingKey status reason now channel with
  | case1 | case2 | case3 => rfl
  | case4 | case5 | case6 =>
    exact ChannelInfo.setKey_pollingIndex channel.info _ status reason now

theorem handler_isMultiKey :
    (handlerMultiKeyUpdate keys usingKey status reason now channel).info.isMultiKey =
      channel.info.isMultiKey := by
  fun_cases handlerMultiKeyUpdate keys usingKey status reason now channel with
  | case1 | case2 | case3 => rfl
  | case4 | case5 | case6 => exact ChannelInfo.setKey_isMultiKey channel.info _ status reason now

theorem nextStatusState_enabled_iff {next : ChannelStatusState}
    (saved : nextStatusState keys usingKey status reason now channel = some next)
    (changed : next.status ≠ channel.status) :
    next.status = channelStatusEnabled ↔ status = channelStatusEnabled := by
  unfold nextStatusState at saved
  split_ifs at saved with same multi
  · obtain rfl := Option.some.inj saved
    exact handler_enabled_iff changed
  · obtain rfl := Option.some.inj saved
    exact Iff.rfl

end

end NewApi
