import NewApi.Interleaving
import NewApi.MultiKeyChannel
import Mathlib.Data.List.Permutation

/-!
# Polling the keys of a channel

`GetNextEnabledKey` reads the polling cursor from the database, and saves the whole channel info of
the value that its request has loaded before.
-/

namespace NewApi

open GuardedRuns Interleaving List

section

variable (keys : List String)

def enabledIdx (info : ChannelInfo) : List Nat :=
  (List.range keys.length).filter (info.keyStatus · = channelStatusEnabled)

def pollingStart (cursor : Int) : Nat :=
  if cursor < 0 ∨ (keys.length : Int) ≤ cursor then 0 else cursor.toNat

def nextPolling (info : ChannelInfo) (cursor : Int) : Option Nat :=
  ((List.range keys.length).map fun offset =>
    (pollingStart keys cursor + offset) % keys.length).find?
      (info.keyStatus · = channelStatusEnabled)

def ChannelInfo.withCursor (info : ChannelInfo) (cursor : Int) : ChannelInfo :=
  { info with multiKeyPollingIndex := cursor }

def polledInfo (info : ChannelInfo) (cursor : Int) : ChannelInfo :=
  match nextPolling keys info cursor with
  | some index => info.withCursor (((index + 1) % keys.length : Nat) : Int)
  | none => info

def pollsKeys (info : ChannelInfo) : Bool :=
  enabledIdx keys info ≠ [] && info.multiKeyMode = .polling

structure KeyUpdate where
  usingKey : String
  status : Int
  reason : String
  now : Int
deriving DecidableEq, Repr

def KeyUpdate.next (update : KeyUpdate) (channel : ChannelStatusState) :
    Option ChannelStatusState :=
  nextStatusState keys update.usingKey update.status update.reason update.now channel

end

section

/-- The calls as if each were done at once. -/
inductive KeyCall where
  | poll
  | update (update : KeyUpdate)
deriving DecidableEq, Repr

variable (keys : List String)

def applyCall (channel : ChannelStatusState) : KeyCall → ChannelStatusState
  | .poll =>
    if pollsKeys keys channel.info then
      channel.withInfo (polledInfo keys channel.info channel.info.multiKeyPollingIndex)
    else channel
  | .update update => (update.next keys channel).getD channel

/-- The calls one after another, the last one first in the list. -/
def replayCalls (start : ChannelStatusState) (calls : List KeyCall) : ChannelStatusState :=
  calls.foldr (fun call channel => applyCall keys channel call) start

end

structure KeyShared where
  row : ChannelStatusState
  holder : Option Nat
  completed : List KeyCall

inductive KeyProcess where
  | idle
  | loaded (info : ChannelInfo)
  -- `GetNextEnabledKey`, with the lock
  | polling (info : ChannelInfo)
  | polled (info : ChannelInfo) (cursor : Int)
  -- `UpdateChannelStatus`, waiting for the lock and with it
  | waiting (update : KeyUpdate)
  | locked (update : KeyUpdate)
  | read (update : KeyUpdate) (channel : ChannelStatusState)

inductive KeyChoice where
  | load
  | poll
  | update (update : KeyUpdate)
  | next
  | fail
deriving DecidableEq, Repr

namespace KeyShared

def lock (shared : KeyShared) (process : Nat) : KeyShared :=
  { shared with holder := some process }

def unlock (shared : KeyShared) : KeyShared :=
  { shared with holder := none }

def finish (shared : KeyShared) (row : ChannelStatusState) (call : KeyCall) : KeyShared where
  row := row
  holder := none
  completed := call :: shared.completed

def saveChannelInfo (shared : KeyShared) (info : ChannelInfo) : ChannelStatusState :=
  shared.row.withInfo info

def saveStatusState (shared : KeyShared) (channel : ChannelStatusState) : ChannelStatusState :=
  if channel.info.isMultiKey then channel else channel.withInfo shared.row.info

def act (keys : List String) (process : Nat) (shared : KeyShared) :
    KeyProcess → KeyChoice → KeyShared × KeyProcess
  | .idle, .load => (shared, .loaded shared.row.info)
  | .loaded info, .poll =>
    -- Without several keys the call returns before it takes the lock.
    if !info.isMultiKey || keys = [] || shared.holder.isSome then (shared, .loaded info)
    else (shared.lock process, .polling info)
  | .polling info, .next =>
    if pollsKeys keys info then (shared, .polled info shared.row.info.multiKeyPollingIndex)
    else (shared.finish shared.row .poll, .loaded info)
  | .polling info, .fail => (shared.unlock, .loaded info)
  | .polled info cursor, .next =>
    let saved := polledInfo keys info cursor
    (shared.finish (shared.saveChannelInfo saved) .poll, .loaded saved)
  -- The error of the save is dropped.
  | .polled info cursor, .fail => (shared.unlock, .loaded (polledInfo keys info cursor))
  | .idle, .update update => (shared, .waiting update)
  | .waiting update, .next =>
    if shared.holder.isSome then (shared, .waiting update)
    else (shared.lock process, .locked update)
  | .locked update, .next => (shared, .read update shared.row)
  | .locked _, .fail => (shared.unlock, .idle)
  | .read update channel, .next =>
    match update.next keys channel with
    | none => (shared.finish shared.row (.update update), .idle)
    | some next => (shared.finish (shared.saveStatusState next) (.update update), .idle)
  | .read _ _, .fail => (shared.unlock, .idle)
  | call, _ => (shared, call)

end KeyShared

abbrev KeySystem := System KeyShared KeyProcess

abbrev KeyEvent := Event KeyChoice Empty

def keyStep (keys : List String) : KeySystem → KeyEvent → KeySystem :=
  step (KeyShared.act keys) (fun shared _ => shared)

def KeySystem.start (row : ChannelStatusState) : KeySystem where
  shared := { row, holder := none, completed := [] }
  locals := fun _ => .idle

section

variable (keys : List String)

def SomeOrder (start : ChannelStatusState) (system : KeySystem) : Prop :=
  ∃ calls, calls.Perm system.shared.completed ∧ system.shared.row = replayCalls keys start calls

structure KeepsKeyStates (system : KeySystem) (event : KeyEvent) : Prop where
  /-- A poll leaves the statuses of the keys alone. -/
  statuses : ∀ process choice info cursor, event = .act process choice →
    system.locals process = .polled info cursor →
      (keyStep keys system event).shared.row.info.multiKeyStatusList =
        system.shared.row.info.multiKeyStatusList
  /-- The cursor stays, or moves on from where the row has it. -/
  cursor : (keyStep keys system event).shared.row.info.multiKeyPollingIndex =
      system.shared.row.info.multiKeyPollingIndex ∨
    ∃ index, nextPolling keys system.shared.row.info
        system.shared.row.info.multiKeyPollingIndex = some index ∧
      (keyStep keys system event).shared.row.info.multiKeyPollingIndex =
        (((index + 1) % keys.length : Nat) : Int)

def SameKeys (info row : ChannelInfo) : Prop :=
  info = row.withCursor info.multiKeyPollingIndex

/-- A poll that takes the lock runs on a channel value that is up to date, the cursor
apart. -/
def PollsFresh (system : KeySystem) : KeyEvent → Prop
  | .act process .poll =>
    ∀ info, system.locals process = .loaded info → system.shared.holder = none →
      info.isMultiKey = true → keys ≠ [] → SameKeys info system.shared.row.info
  | _ => True

end

section

variable {keys : List String} {info row : ChannelInfo}

theorem pollsKeys_withCursor (cursor : Int) :
    pollsKeys keys (row.withCursor cursor) = pollsKeys keys row := rfl

theorem nextPolling_withCursor (stale cursor : Int) :
    nextPolling keys (row.withCursor stale) cursor = nextPolling keys row cursor := rfl

theorem pollingStart_lt (cursor : Int) (someKeys : 0 < keys.length) :
    pollingStart keys cursor < keys.length := by
  unfold pollingStart
  split_ifs with outside
  · exact someKeys
  · omega

theorem exists_offset {start index length : Nat} (startBound : start < length)
    (indexBound : index < length) : ∃ offset < length, (start + offset) % length = index := by
  refine ⟨(index + (length - start)) % length,Nat.mod_lt _ (by omega),?_⟩
  have round : start + (index + (length - start)) = index + length := by omega
  rw [Nat.add_mod_mod,round,Nat.add_mod_right,Nat.mod_eq_of_lt indexBound]

theorem exists_nextPolling (cursor : Int) (enabled : enabledIdx keys info ≠ []) :
    ∃ index, nextPolling keys info cursor = some index := by
  obtain ⟨index,member⟩ := exists_mem_of_ne_nil _ enabled
  obtain ⟨inRange,isEnabled⟩ := mem_filter.mp member
  have bound := mem_range.mp inRange
  obtain ⟨offset,offsetBound,meets⟩ :=
    exists_offset (pollingStart_lt cursor (by omega : 0 < keys.length)) bound
  apply Option.isSome_iff_exists.mp
  rw [nextPolling,find?_isSome]
  refine ⟨index,mem_map.mpr ⟨offset,mem_range.mpr offsetBound,meets⟩,isEnabled⟩

theorem SameKeys.polls (same : SameKeys info row) : pollsKeys keys info = pollsKeys keys row := by
  rw [same,pollsKeys_withCursor]

theorem SameKeys.polledInfo (same : SameKeys info row) (polls : pollsKeys keys row = true)
    (cursor : Int) : polledInfo keys info cursor = NewApi.polledInfo keys row cursor := by
  simp only [pollsKeys,Bool.and_eq_true,decide_eq_true_eq] at polls
  obtain ⟨index,next⟩ := exists_nextPolling cursor polls.1
  rw [same]
  simp only [NewApi.polledInfo,nextPolling_withCursor,next]
  rfl

theorem polledInfo_statusList (info : ChannelInfo) (cursor : Int) :
    (polledInfo keys info cursor).multiKeyStatusList = info.multiKeyStatusList := by
  unfold polledInfo
  split <;> rfl

/-- `UpdateChannelStatus` leaves the cursor where it read it, and the whole info of a channel with
one key. -/
theorem KeyUpdate.next_effect {update : KeyUpdate} {channel next : ChannelStatusState}
    (saves : update.next keys channel = some next) :
    next.info.multiKeyPollingIndex = channel.info.multiKeyPollingIndex ∧
      (¬ next.info.isMultiKey = true → next.withInfo channel.info = next) := by
  unfold KeyUpdate.next nextStatusState at saves
  split_ifs at saves with same multi
  · obtain rfl := Option.some.inj saves
    exact ⟨handler_pollingIndex,absurd (handler_isMultiKey.trans multi)⟩
  · obtain rfl := Option.some.inj saves
    exact ⟨rfl,fun _ => rfl⟩

end

section

variable (keys : List String) (start : ChannelStatusState)

/-- The row is the result of the completed calls in the order of the lock. -/
def Replayed (shared : KeyShared) : Prop :=
  shared.row = replayCalls keys start shared.completed

def KnownRow (process : Nat) (shared : KeyShared) : KeyProcess → Prop
  | .polling info => shared.holder = some process ∧ SameKeys info shared.row.info
  | .polled info cursor =>
    shared.holder = some process ∧ SameKeys info shared.row.info ∧
      pollsKeys keys shared.row.info = true ∧ cursor = shared.row.info.multiKeyPollingIndex
  | .locked _ => shared.holder = some process
  | .read _ channel => shared.holder = some process ∧ channel = shared.row
  | _ => True

def RespectsLock (process : Nat) (before after : KeyShared) : Prop :=
  before.holder = some process → after = before

open KeyShared

variable {keys start} {call : KeyProcess} {process : Nat} {shared : KeyShared}

theorem knownRow_stable (process : Nat) {before after : KeyShared} {call : KeyProcess}
    (respects : RespectsLock process before after) (known : KnownRow keys process before call) :
    KnownRow keys process after call := by
  cases call with
  | polling info | polled info cursor | read update channel => exact respects known.1 ▸ known
  | locked => exact respects known ▸ known
  | _ => trivial

variable (choice : KeyChoice)

theorem keyAct_respectsLock {other : Nat} (known : KnownRow keys process shared call)
    (different : other ≠ process) :
    RespectsLock other shared (shared.act keys process call choice).1 := by
  intro held
  have notOwn : shared.holder ≠ some process := fun own =>
    different (Option.some.inj (held.symm.trans own))
  have notFree : shared.holder.isSome = true := by rw [held]; rfl
  fun_cases act keys process shared call choice
  all_goals try rfl
  -- What is left takes the lock, or has it.
  · have free := ‹¬ (_ || _ || _) = true›
    simp [notFree] at free
  · exact absurd known.1 notOwn
  · exact absurd known.1 notOwn
  · exact absurd known.1 notOwn
  · exact absurd known.1 notOwn
  · exact absurd notFree ‹_›
  · exact absurd known notOwn
  · exact absurd known.1 notOwn
  · exact absurd known.1 notOwn
  · exact absurd known.1 notOwn

/-- What is read under the lock is still there when it is written. -/
theorem keyAct_known (fresh : choice = .poll → ∀ info, call = .loaded info → shared.holder = none →
      info.isMultiKey = true → keys ≠ [] → SameKeys info shared.row.info)
    (known : KnownRow keys process shared call) :
    let result := shared.act keys process call choice
    KnownRow keys process result.1 result.2 := by
  fun_cases act keys process shared call choice
  all_goals try trivial
  · have free := ‹¬ (_ || _ || _) = true›
    simp only [Bool.or_eq_true,Bool.not_eq_true',decide_eq_true_eq,not_or,Bool.not_eq_false,
      Option.not_isSome_iff_eq_none] at free
    exact ⟨rfl,fresh rfl _ rfl free.2 free.1.1 free.1.2⟩
  · exact ⟨known.1,known.2,known.2.polls ▸ ‹pollsKeys keys _ = true›,rfl⟩

theorem keyAct_replayed (replayed : Replayed keys start shared)
    (known : KnownRow keys process shared call) :
    Replayed keys start (shared.act keys process call choice).1 := by
  -- A call that is completed has done to the row what it does at once.
  have finish (row : ChannelStatusState) (completed : KeyCall)
      (effect : row = applyCall keys shared.row completed) :
      Replayed keys start (shared.finish row completed) := by
    rw [effect,replayed]
    rfl
  fun_cases act keys process shared call choice
  all_goals try exact replayed
  · apply finish
    have idle := ‹¬ pollsKeys keys _ = true›
    rw [known.2.polls] at idle
    simp [applyCall,idle]
  · apply finish
    obtain ⟨-,same,polls,rfl⟩ := known
    simp only [applyCall,if_pos polls]
    exact congrArg shared.row.withInfo (same.polledInfo polls _)
  · apply finish
    obtain ⟨-,rfl⟩ := known
    simp [applyCall,‹KeyUpdate.next keys _ _ = none›]
  · apply finish
    obtain ⟨-,rfl⟩ := known
    rename_i next saves
    simp only [applyCall,saves,KeyShared.saveStatusState]
    split_ifs with multi
    · rfl
    · exact (KeyUpdate.next_effect saves).2 multi

theorem keyAct_statuses {info : ChannelInfo} {cursor : Int}
    (known : KnownRow keys process shared (.polled info cursor)) :
    (shared.act keys process (.polled info cursor) choice).1.row.info.multiKeyStatusList =
      shared.row.info.multiKeyStatusList := by
  cases choice with
  | next =>
    obtain ⟨-,same,-,-⟩ := known
    calc
      (polledInfo keys info cursor).multiKeyStatusList = info.multiKeyStatusList :=
        polledInfo_statusList info cursor
      _ = shared.row.info.multiKeyStatusList := by
        rw [same]
        rfl
  | _ => rfl

theorem keyAct_cursor (known : KnownRow keys process shared call) :
    (shared.act keys process call choice).1.row.info.multiKeyPollingIndex =
        shared.row.info.multiKeyPollingIndex ∨
      ∃ index, nextPolling keys shared.row.info shared.row.info.multiKeyPollingIndex = some index ∧
        (shared.act keys process call choice).1.row.info.multiKeyPollingIndex =
          (((index + 1) % keys.length : Nat) : Int) := by
  fun_cases act keys process shared call choice
  all_goals try exact .inl rfl
  · obtain ⟨-,same,polls,rfl⟩ := known
    have enabled := polls
    simp only [pollsKeys,Bool.and_eq_true,decide_eq_true_eq] at enabled
    obtain ⟨index,next⟩ := exists_nextPolling shared.row.info.multiKeyPollingIndex enabled.1
    refine .inr ⟨index,next,?_⟩
    have moved := same.polledInfo polls shared.row.info.multiKeyPollingIndex
    simp only [NewApi.polledInfo,next] at moved
    exact congrArg ChannelInfo.multiKeyPollingIndex moved
  · obtain ⟨-,rfl⟩ := known
    obtain ⟨kept,-⟩ := KeyUpdate.next_effect ‹KeyUpdate.next keys _ _ = some _›
    left
    simp only [KeyShared.saveStatusState]
    split_ifs
    · exact kept
    · rfl

abbrev KeysSound (keys : List String) (start : ChannelStatusState) : KeySystem → Prop :=
  Sound (Replayed keys start) (KnownRow keys)

theorem keysSound_step (system : KeySystem) (event : KeyEvent)
    (sound : KeysSound keys start system) (fresh : PollsFresh keys system event) :
    KeysSound keys start (keyStep keys system event) := by
  apply sound_step (PollsFresh keys) RespectsLock knownRow_stable _ _ system event sound fresh
  · intro system process choice sound fresh
    have known := sound.locals process
    refine ⟨keyAct_replayed choice sound.shared known,keyAct_known choice ?_ known,
      fun other different => keyAct_respectsLock choice known different⟩
    rintro rfl
    exact fresh
  · exact nofun

theorem keysSound_start (row : ChannelStatusState) : KeysSound keys row (KeySystem.start row) :=
  ⟨rfl,fun _ => trivial⟩

theorem KeysSound.keeps {system : KeySystem} (sound : KeysSound keys start system)
    (event : KeyEvent) : KeepsKeyStates keys system event := by
  cases event with
  | act process choice =>
    constructor
    · rintro other otherChoice info cursor ⟨⟩ polled
      have known := sound.locals process
      simp only [keyStep,step,polled] at known ⊢
      exact keyAct_statuses choice known
    · exact keyAct_cursor choice (sound.locals process)
  | change change => cases change

theorem key_calls_serializable (keys : List String) (row : ChannelStatusState)
    (events : List KeyEvent)
    (fresh : Guarded (keyStep keys) (PollsFresh keys) (KeySystem.start row) events) :
    Always (keyStep keys) (SomeOrder keys row) (KeySystem.start row) events ∧
      ∀ seen event, seen ++ [event] <+: events →
        KeepsKeyStates keys (run (keyStep keys) (KeySystem.start row) seen) event := by
  have sound : Always (keyStep keys) (KeysSound keys row) (KeySystem.start row) events :=
    always_of_guarded (KeysSound keys row) (fun _ => id) keysSound_step (keysSound_start row) fresh
  constructor
  · intro seen isPrefix
    have replayed := (sound seen isPrefix).shared
    exact ⟨_,List.Perm.refl _,replayed⟩
  · intro seen event isPrefix
    exact (sound seen ((prefix_append seen [event]).trans isPrefix)).keeps event

end

def twoKeysRow : ChannelStatusState where
  status := channelStatusEnabled
  statusReason := none
  statusTime := none
  info :=
    { isMultiKey := true, multiKeySize := 2, multiKeyStatusList := fun _ => none
      multiKeyDisabledReason := fun _ => none, multiKeyDisabledTime := fun _ => none
      multiKeyPollingIndex := 0, multiKeyMode := .polling }

def loadAndPoll : List KeyEvent :=
  [.act 1 .load, .act 1 .poll, .act 1 .next, .act 1 .next]

theorem key_calls_serializable_alone :
    let final := run (keyStep ["a", "b"]) (KeySystem.start twoKeysRow) loadAndPoll
    SomeOrder ["a", "b"] twoKeysRow final ∧ final.shared.row.info.multiKeyPollingIndex = 1 := by
  have fresh : Guarded (keyStep ["a", "b"]) (PollsFresh ["a", "b"]) (KeySystem.start twoKeysRow)
      loadAndPoll := by
    refine ⟨trivial,?_,trivial,trivial,trivial⟩
    rintro info ⟨⟩ - - -
    rfl
  exact ⟨(key_calls_serializable ["a", "b"] twoKeysRow loadAndPoll fresh).1 loadAndPoll
    prefix_rfl,by decide +kernel⟩

def disableFirstKey : KeyUpdate :=
  ⟨"a", channelStatusAutoDisabled, "invalid key", 7⟩

def pollAfterDisable : List KeyEvent :=
  [.act 1 .load, .act 2 (.update disableFirstKey), .act 2 .next, .act 2 .next, .act 2 .next,
    .act 1 .poll, .act 1 .next, .act 1 .next]

theorem stale_poll_enables_key :
    let final := run (keyStep ["a", "b"]) (KeySystem.start twoKeysRow) pollAfterDisable
    final.shared.completed = [.poll, .update disableFirstKey] ∧
      final.shared.row.info.keyStatus 0 = channelStatusEnabled ∧
      ¬ SomeOrder ["a", "b"] twoKeysRow final := by
  intro final
  have completed : final.shared.completed = [.poll, .update disableFirstKey] := by decide +kernel
  have enabled : final.shared.row.info.keyStatus 0 = channelStatusEnabled := by decide +kernel
  refine ⟨completed,enabled,?_⟩
  rintro ⟨calls,perm,replayed⟩
  rw [completed] at perm
  -- In both orders the key ends up disabled.
  have orders : calls ∈ permutations' [.poll, .update disableFirstKey] :=
    mem_permutations'.mpr perm
  have disabled : ∀ order ∈ permutations' [KeyCall.poll, .update disableFirstKey],
      (replayCalls ["a", "b"] twoKeysRow order).info.keyStatus 0 ≠ channelStatusEnabled := by
    decide +kernel
  apply disabled calls orders
  rwa [← replayed]

section

variable {keys : List String} {channel : ChannelStatusState} {index offset : Nat}
  (polls : pollsKeys keys channel.info = true) (enabled : index ∈ enabledIdx keys channel.info)
include polls enabled

/-- A poll picks an enabled key or brings the cursor nearer to it. -/
theorem poll_nearer (inside : offset < keys.length)
    (ahead : (pollingStart keys channel.info.multiKeyPollingIndex + offset) % keys.length = index) :
    nextPolling keys channel.info channel.info.multiKeyPollingIndex = some index ∨
      ∃ nearer < offset, ∃ cursor,
        (applyCall keys channel .poll).info = channel.info.withCursor cursor ∧
        (pollingStart keys cursor + nearer) % keys.length = index := by
  obtain ⟨chosen,next⟩ := exists_nextPolling channel.info.multiKeyPollingIndex
    (ne_nil_of_mem enabled)
  obtain ⟨-,skipped,_,isChosen,disabled⟩ := find?_eq_some_iff_getElem.mp next
  simp only [getElem_map,getElem_range] at isChosen disabled
  have notAfter : skipped ≤ offset := by
    by_contra passed
    have := disabled offset (by omega)
    rw [ahead] at this
    simp [(mem_filter.mp enabled).2] at this
  rcases notAfter.eq_or_lt with rfl | before
  · exact .inl (next.trans (congrArg some (isChosen.symm.trans ahead)))
  · refine .inr ⟨offset - skipped - 1,by omega,((chosen + 1) % keys.length : Nat),?_,?_⟩
    · simp only [applyCall,polls,if_true,polledInfo,next]
      rfl
    · have := Nat.mod_lt (chosen + 1) (by omega : 0 < keys.length)
      rw [pollingStart,if_neg (by omega),Int.toNat_natCast,Nat.mod_add_mod,← isChosen,add_assoc,
        Nat.mod_add_mod,← ahead]
      congr 1
      omega

/-- Polls that nobody interrupts pick every enabled key within one round of the keys. -/
theorem polling_reaches_enabled_key :
    ∃ earlier < keys.length,
      let info := (replayCalls keys channel (replicate earlier .poll)).info
      nextPolling keys info info.multiKeyPollingIndex = some index := by
  have bound := mem_range.mp (mem_filter.mp enabled).1
  obtain ⟨offset,inside,ahead⟩ := exists_offset
    (pollingStart_lt channel.info.multiKeyPollingIndex (by omega : 0 < keys.length)) bound
  suffices ∃ earlier ≤ offset, let info := (replayCalls keys channel (replicate earlier .poll)).info
      nextPolling keys info info.multiKeyPollingIndex = some index by
    obtain ⟨earlier,early,picked⟩ := this
    exact ⟨earlier,by omega,picked⟩
  induction offset using Nat.strongRecOn generalizing channel with
  | ind offset ih =>
    rcases poll_nearer polls enabled inside ahead with now | ⟨nearer,less,cursor,after,ahead⟩
    · exact ⟨0,by omega,now⟩
    · obtain ⟨earlier,early,picked⟩ := @ih nearer less (applyCall keys channel .poll)
        (by rwa [after]) (by rwa [after]) (by omega) (by rwa [after])
      refine ⟨earlier + 1,by omega,?_⟩
      rw [replicate_succ',replayCalls,foldr_append]
      exact picked

end

theorem polling_reaches_second_key :
    ∃ earlier < 2, let info := (replayCalls ["a", "b"] twoKeysRow (replicate earlier .poll)).info
      nextPolling ["a", "b"] info info.multiKeyPollingIndex = some 1 :=
  @polling_reaches_enabled_key ["a", "b"] twoKeysRow 1 (by decide +kernel) (by decide +kernel)

end NewApi
