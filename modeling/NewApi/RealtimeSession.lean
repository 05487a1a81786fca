import NewApi.BillingSessionConservation
import NewApi.RealtimeQuota

/-! # Realtime sessions -/

namespace NewApi

open GuardedRuns

/-- What `CountTokenRealtime` counts in one message. -/
structure CountedTokens where
  text : Nat
  audio : Nat
deriving DecidableEq, Repr

def CountedTokens.asInput (tokens : CountedTokens) : RealtimeUsage where
  totalTokens := tokens.text + tokens.audio
  inputTokens := tokens.text + tokens.audio
  outputTokens := 0
  cachedTokens := 0
  inputTextTokens := tokens.text
  inputAudioTokens := tokens.audio
  outputTextTokens := 0
  outputAudioTokens := 0

def CountedTokens.asOutput (tokens : CountedTokens) : RealtimeUsage where
  totalTokens := tokens.text + tokens.audio
  inputTokens := 0
  outputTokens := tokens.text + tokens.audio
  cachedTokens := 0
  inputTextTokens := 0
  inputAudioTokens := 0
  outputTextTokens := tokens.text
  outputAudioTokens := tokens.audio

inductive RealtimeMessage where
  | client (tokens : CountedTokens)
  /-- A `response.done` with the usage of the upstream. -/
  | responseUsage (usage : RealtimeUsage) (turn : TurnAnswers)
  /-- A `response.done` without one. -/
  | responseCounted (tokens : CountedTokens) (turn : TurnAnswers)
  | delta (tokens : CountedTokens)

/-- The configuration of a session: `usePrice` of its `RelayInfo`, the settings in
its `PriceData`, and the answer of `TryTieredSettle`. -/
structure RealtimeEnv where
  config : BillingConfig
  usePrice : Bool
  pricing : AudioPricing
  tiered : Option Int

/-- The model is priced by tokens. -/
structure RealtimeEnv.PerToken (env : RealtimeEnv) : Prop where
  usePrice : env.usePrice = false
  priceData : env.pricing.usePrice = false
  notTiered : env.tiered = none

structure RealtimeState where
  payer : Payer
  store : BillingStore
  usage : RealtimeUsage
  localUsage : RealtimeUsage
  sumUsage : RealtimeUsage
  readerStopped : Bool
  reported : RealtimeUsage

namespace RealtimeState

def start (payer : Payer) (store : BillingStore) : RealtimeState where
  payer := payer
  store := store
  usage := 0
  localUsage := 0
  sumUsage := 0
  readerStopped := false
  reported := 0

/-- `preConsumeUsage`: the usage is added to the sum also when the turn is refused. -/
def preConsumeUsage (env : RealtimeEnv) (turn : TurnAnswers) (usage : RealtimeUsage)
    (state : RealtimeState) : Option GoError × RealtimeState :=
  let (error, relayInfo, store) := preWssConsumeQuota env.config settleSucceeds turn env.usePrice
    state.payer.relayInfo usage state.store
  (error,
    { state with
      sumUsage := state.sumUsage + usage
      payer := state.payer.withRelayInfo relayInfo
      store := store })

/-- Handle a message. The reader of the upstream returns when a turn is refused. -/
def step (env : RealtimeEnv) (state : RealtimeState) : RealtimeMessage → RealtimeState
  | .client tokens => { state with localUsage := state.localUsage + tokens.asInput }
  | .responseUsage reportedUsage turn =>
    if state.readerStopped then state
    else
      let usage := state.usage + reportedUsage
      match state.preConsumeUsage env turn usage with
      | (some _, state) => { state with usage := usage, readerStopped := true }
      | (none, state) =>
        { state with usage := 0, localUsage := 0, reported := state.reported + usage }
  | .responseCounted tokens turn =>
    if state.readerStopped then state
    else
      let localUsage := state.localUsage + tokens.asInput
      match state.preConsumeUsage env turn localUsage with
      | (some _, state) => { state with localUsage := localUsage, readerStopped := true }
      | (none, state) => { state with localUsage := 0, reported := state.reported + localUsage }
  | .delta tokens =>
    if state.readerStopped then state
    else { state with localUsage := state.localUsage + tokens.asOutput }

/-- Charge what is left of a usage when the session ends. -/
def flush (env : RealtimeEnv) (turn : TurnAnswers) (usage : RealtimeUsage)
    (state : RealtimeState) : RealtimeState :=
  if usage.totalTokens ≠ 0 then (state.preConsumeUsage env turn usage).2 else state

/-- The end of `OpenaiRealtimeHandler`. -/
def finish (env : RealtimeEnv) (first second : TurnAnswers) (state : RealtimeState) :
    RealtimeState :=
  { (state.flush env first state.usage).flush env second state.localUsage with
    reported := state.reported + state.usage + state.localUsage }

def settle (env : RealtimeEnv) (state : RealtimeState) : Option GoError × RealtimeState :=
  let (error, payer, store) := state.payer.settleBilling env.config settleSucceeds
    (postWssQuota env.pricing env.tiered state.sumUsage) state.store
  (error, { state with payer := payer, store := store })

/-- The usages were summed once, and the funding source has paid for the sum. -/
def ChargedOnce (env : RealtimeEnv) (origin : FundingOrigin) (state : RealtimeState) : Prop :=
  state.sumUsage = state.reported ∧
    Holds origin (postWssQuota env.pricing env.tiered state.reported) state.payer.relayInfo.funding
      state.store

/-- A turn costs nothing, or it is refused and has no tokens. -/
def FreeTurn (env : RealtimeEnv) (turn : TurnAnswers) (usage : RealtimeUsage)
    (state : RealtimeState) : Prop :=
  if turnRefused env.config turn state.payer.relayInfo usage state.store then
    usage.totalTokens = 0
  else turnQuota turn usage = 0

def FreeMessage (env : RealtimeEnv) (state : RealtimeState) : RealtimeMessage → Prop
  | .responseUsage usage turn => state.readerStopped = false →
    state.FreeTurn env turn (state.usage + usage)
  | .responseCounted tokens turn => state.readerStopped = false →
    state.FreeTurn env turn (state.localUsage + tokens.asInput)
  | _ => True

/-- What is left when the session ends costs nothing, or is refused. -/
def FreeFlush (env : RealtimeEnv) (turn : TurnAnswers) (usage : RealtimeUsage)
    (state : RealtimeState) : Prop :=
  usage.totalTokens ≠ 0 →
    turnRefused env.config turn state.payer.relayInfo usage state.store = false →
    turnQuota turn usage = 0

def FreeFinish (env : RealtimeEnv) (first second : TurnAnswers) (state : RealtimeState) : Prop :=
  state.FreeFlush env first state.usage ∧
    (state.flush env first state.usage).FreeFlush env second state.localUsage

end RealtimeState

end NewApi
