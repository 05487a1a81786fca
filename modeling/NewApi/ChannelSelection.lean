import NewApi.GoStrings
import NewApi.RankedLoops

/-! # Channel selection over the auto groups and the retry loop of a relayed request -/

namespace NewApi

open GoStrings RankedLoops

/-- The parts of `types.NewAPIError` that the retry loop reads. -/
structure RelayError where
  err : String
  errorCode : String
  statusCode : Int
  skipRetry : Bool
deriving DecidableEq

def RelayError.isChannelError (error : RelayError) : Bool :=
  hasPrefix error.errorCode "channel:"

/-- The settings that decide about retries. The two predicates are the configured tables of error
codes and status codes. -/
structure RetrySettings where
  retryTimes : Nat
  isAlwaysSkipRetryCode : String → Bool
  shouldRetryByStatusCode : Int → Bool

/-- A request of a token whose group is `auto`: its groups in order, whether it may retry across
groups, and what its context says about retries. -/
structure AutoRequest where
  autoGroups : List String
  crossGroupRetry : Bool
  modelName : String
  /-- `ShouldSkipRetryAfterChannelAffinityFailure`. -/
  skipRetryAfterAffinity : Bool
  /-- The context has a `specific_channel_id`. -/
  specificChannel : Bool

def shouldRetry (settings : RetrySettings) (request : AutoRequest) (error : RelayError)
    (retryTimes : Int) : Bool :=
  if request.skipRetryAfterAffinity then false
  else if error.isChannelError then true
  else if error.skipRetry then false
  else if retryTimes ≤ 0 then false
  else if request.specificChannel then false
  else if 200 ≤ error.statusCode ∧ error.statusCode < 300 then false
  else if error.statusCode < 100 ∨ 599 < error.statusCode then true
  else if settings.isAlwaysSkipRetryCode error.errorCode then false
  else settings.shouldRetryByStatusCode error.statusCode

/-- `RetryParam` with the place in the auto groups that the request context keeps. -/
structure SelectionState where
  autoGroupIndex : Option Nat
  retry : Nat
  resetNextTry : Bool
deriving DecidableEq

def SelectionState.increaseRetry (state : SelectionState) : SelectionState :=
  if state.resetNextTry then { state with resetNextTry := false }
  else { state with retry := state.retry + 1 }

section

variable {Candidate : Type}

/-- What `GetRandomSatisfiedChannel` answers for the group at a place of the list and a retry
number. Channels may come and go between two calls. -/
abbrev Lookup (Candidate : Type) := (place : Nat) → (group : String) → (retry : Nat) → Option Candidate

structure Selected (Candidate : Type) where
  channel : Candidate
  group : Nat

/-- The loop of `CacheGetRandomSatisfiedChannel` over the groups that are left. -/
def searchGroups (settings : RetrySettings) (crossGroupRetry : Bool) (lookup : Lookup Candidate)
    (startGroupIndex : Nat) :
    List String → (place : Nat) → SelectionState → SelectionState × Option (Selected Candidate)
  | [], _, state => (state, none)
  | autoGroup :: groups, place, state =>
    let priorityRetry := if startGroupIndex < place then 0 else state.retry
    match lookup place autoGroup priorityRetry with
    | none =>
      searchGroups settings crossGroupRetry lookup startGroupIndex groups (place + 1)
        { state with autoGroupIndex := some (place + 1), retry := 0 }
    | some channel =>
      if crossGroupRetry && settings.retryTimes ≤ priorityRetry then
        -- this attempt still uses the group, the next one starts with the group after it
        ({ autoGroupIndex := some (place + 1), retry := 0, resetNextTry := true },
          some { channel, group := place })
      else
        ({ state with autoGroupIndex := some place }, some { channel, group := place })

def cacheGetRandomSatisfiedChannel (settings : RetrySettings) (request : AutoRequest)
    (lookup : Lookup Candidate) (state : SelectionState) :
    Except String (SelectionState × Option (Selected Candidate)) :=
  if request.autoGroups = [] then .error "auto groups is not enabled"
  else
    let startGroupIndex := state.autoGroupIndex.getD 0
    .ok (searchGroups settings request.crossGroupRetry lookup startGroupIndex
      (request.autoGroups.drop startGroupIndex) startGroupIndex state)

/-- What a turn of the loop meets: the channels that are available to it, an error on the way to
the upstream (setting up the channel, tiered billing, reading the body), and the upstream's
error, if any. -/
structure RelayTurn (Candidate : Type) where
  lookup : Lookup Candidate
  obstacle : Option RelayError
  answer : Option RelayError

/-- The state of the loop: the selection, the channel in the request context, whether an attempt
has filled `ChannelMeta`, and the last error. -/
structure RelayLoopState (Candidate : Type) where
  selection : SelectionState
  current : Selected Candidate
  channelMeta : Bool
  newAPIError : Option RelayError

def getChannelError (text : String) : RelayError where
  err := text
  errorCode := "get_channel_failed"
  statusCode := 500
  skipRetry := true

/-- `getChannel`: the channel of the context before the first attempt, a new selection after it. -/
def getChannel (settings : RetrySettings) (request : AutoRequest) (lookup : Lookup Candidate)
    (state : RelayLoopState Candidate) :
    Except RelayError (SelectionState × Selected Candidate) :=
  if state.channelMeta = false then .ok (state.selection, state.current)
  else match cacheGetRandomSatisfiedChannel settings request lookup state.selection with
    | .error reason => .error (getChannelError ("获取分组 auto 下模型 " ++ request.modelName ++
        " 的可用渠道失败（retry）: " ++ reason))
    | .ok (_, none) => .error (getChannelError ("分组 auto 下模型 " ++ request.modelName ++
        " 的可用渠道不存在（retry）"))
    | .ok (selection, some selected) => .ok (selection, selected)

/-- One turn of the loop of `Relay`. It stops with the error of the request, which is absent after
a success. -/
def relayRound (settings : RetrySettings) (request : AutoRequest)
    (turns : Nat → RelayTurn Candidate) (number : Nat) (state : RelayLoopState Candidate) :
    Round (RelayLoopState Candidate) (Selected Candidate) (Option RelayError) :=
  if settings.retryTimes < state.selection.retry then .stop [] state.newAPIError
  else match getChannel settings request (turns number).lookup state with
    | .error error => .stop [] (some error)
    | .ok (selection, selected) =>
      match (turns number).obstacle with
      | some error => .stop [] (some error)
      | none =>
        match (turns number).answer with
        | none => .stop [selected] none
        | some error =>
          if shouldRetry settings request error (settings.retryTimes - selection.retry) then
            .next selected
              { selection := selection.increaseRetry, current := selected, channelMeta := true
                newAPIError := some error }
          else .stop [selected] (some error)

/-- How the distributor comes by the first channel: by a selection of its own, or by the affinity
of the request to a channel that it finds enabled in the group at a place of the list. -/
inductive FirstChoice
  | selection
  | affinity (group : Nat)
deriving DecidableEq

/-- What a request meets: the channels available to the distributor, the channel of its affinity,
and the turns of the loop. -/
structure RelayEnvironment (Candidate : Type) where
  distributed : Lookup Candidate
  preferred : Candidate
  turns : Nat → RelayTurn Candidate

/-- The loop as it starts after the distributor, which selects with a retry parameter of its own;
there is none when it finds no channel. An affinity leaves no place in the context. -/
def distribute (settings : RetrySettings) (request : AutoRequest) (first : FirstChoice)
    (environment : RelayEnvironment Candidate) : Option (RelayLoopState Candidate) :=
  match first with
  | .affinity group =>
    some { selection := { autoGroupIndex := none, retry := 0, resetNextTry := false }
           current := { channel := environment.preferred, group }
           channelMeta := false, newAPIError := none }
  | .selection =>
    match cacheGetRandomSatisfiedChannel settings request environment.distributed
        { autoGroupIndex := none, retry := 0, resetNextTry := false } with
    | .ok (selection, some selected) =>
      some { selection := { selection with retry := 0, resetNextTry := false }
             current := selected, channelMeta := false, newAPIError := none }
    | _ => none

/-- The attempts of the loop, each with the channel it uses, and how the request ends. -/
def relayLoop (settings : RetrySettings) (request : AutoRequest)
    (environment : RelayEnvironment Candidate) (fuel : Nat) (start : RelayLoopState Candidate) :
    List (Selected Candidate) × Option (Option RelayError) :=
  loop (relayRound settings request environment.turns) fuel 0 start

end

end NewApi
