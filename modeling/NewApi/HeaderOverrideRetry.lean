import NewApi.GuardedRuns
import NewApi.HeaderOverride

/-!
# Header overrides over the attempts of one request

One `RelayInfo` lives through the whole retry loop of `Relay`.
-/

namespace NewApi

open GoStrings GuardedRuns List

/-- What `RelayInfo` takes from the client's request. -/
structure ClientRequest where
  userId : Int
  userGroup : String
  tokenGroup : String
  originModelName : String
  requestURLPath : String
  requestHeaders : List (String × String)
  isChannelTest : Bool

structure OverrideChannel where
  upstreamModelName : String
  paramOverride : GoMap
  headersOverride : GoMap

/-- The fields of `RelayInfo` that the override reads or writes. -/
structure OverrideInfo where
  client : ClientRequest
  usingGroup : String
  retryIndex : Nat
  lastError : Option LastError
  channelMeta : Option OverrideChannel
  runtimeHeadersOverride : GoMap
  useRuntimeHeadersOverride : Bool

inductive PreparedBody (Body : Type) where
  /-- The attempt ended before the override. -/
  | failed
  /-- The client's body is sent as it is, and no parameter override is applied. -/
  | passThrough
  | converted (body : Body)

structure RelayAttempt (Body : Type) where
  channel : OverrideChannel
  usingGroup : String
  retryIndex : Nat
  prepared : PreparedBody Body
  /-- The error that the attempt leaves behind. -/
  failure : Option LastError

namespace OverrideInfo

variable {Body : Type} (engine : OverrideEngine Body)

/-- `GenRelayInfo`, and the resets before the loop. -/
def start (client : ClientRequest) : OverrideInfo where
  client
  usingGroup := client.userGroup
  retryIndex := 0
  lastError := none
  channelMeta := none
  runtimeHeadersOverride := ∅
  useRuntimeHeadersOverride := false

variable (info : OverrideInfo)

/-- `InitChannelMeta`. The runtime override is not among the fields it resets. -/
def initChannelMeta (channel : OverrideChannel) : OverrideInfo :=
  { info with channelMeta := some channel }

def paramOverrideMap : GoMap :=
  (info.channelMeta.map OverrideChannel.paramOverride).getD ∅

def headerOverrideMap : GoMap :=
  (info.channelMeta.map OverrideChannel.headersOverride).getD ∅

def effectiveHeaderOverride : GoMap :=
  if info.useRuntimeHeadersOverride then
    sanitizeHeaderOverrideMap engine info.runtimeHeadersOverride
  else
    sanitizeHeaderOverrideMap engine info.headerOverrideMap

def buildRequestHeadersContext (headers : List (String × String)) : GoMap :=
  headers.foldl (fun target entry =>
    let key := normalizeHeaderContextKey engine entry.1
    let value := trimSpace entry.2
    if key = "" ∨ value = "" then target else target.insert key (.text value)) ∅

def nonempty? (text : String) : Option String :=
  if text = "" then none else some text

/-- The part of `BuildParamOverrideContext` that no operation writes. -/
def requestFacts : RequestFacts where
  userId := info.client.userId
  userGroup := info.client.userGroup
  tokenGroup := info.client.tokenGroup
  usingGroup := info.usingGroup
  model := ((info.channelMeta.map OverrideChannel.upstreamModelName).bind nonempty?) <|>
    nonempty? info.client.originModelName
  upstreamModel := (info.channelMeta.map OverrideChannel.upstreamModelName).bind nonempty?
  originalModel := nonempty? info.client.originModelName
  requestPath := nonempty? info.client.requestURLPath
  retryIndex := info.retryIndex
  isRetry := 0 < info.retryIndex
  lastError := info.lastError
  isChannelTest := info.client.isChannelTest

def headerContext : HeaderContext where
  requestHeaders := buildRequestHeadersContext engine info.client.requestHeaders
  headerOverride := sanitizeHeaderOverrideMap engine (info.effectiveHeaderOverride engine)

def syncRuntimeHeaderOverride (context : HeaderContext) : OverrideInfo :=
  { info with
    runtimeHeadersOverride := sanitizeHeaderOverrideMap engine context.headerOverride
    useRuntimeHeadersOverride := true }

def applyParamOverrideWithRelayInfo (body : Body) :
    Except OverrideError (Body × OverrideInfo) :=
  if info.paramOverrideMap.entries.isEmpty then .ok (body, info)
  else do
    let (result, context) ← applyParamOverride engine info.paramOverrideMap info.requestFacts body
      (info.headerContext engine)
    return (result, info.syncRuntimeHeaderOverride engine context)

variable (attempt : RelayAttempt Body)

def enter : OverrideInfo :=
  initChannelMeta { info with usingGroup := attempt.usingGroup, retryIndex := attempt.retryIndex }
    attempt.channel

def override : Option OverrideInfo :=
  let entered := info.enter attempt
  match attempt.prepared with
  | .failed => none
  | .passThrough => some entered
  | .converted body => ((entered.applyParamOverrideWithRelayInfo engine body).toOption).map Prod.snd

def sent : Option GoMap :=
  (info.override engine attempt).map (effectiveHeaderOverride engine)

def step : OverrideInfo :=
  { (info.override engine attempt).getD (info.enter attempt) with lastError := attempt.failure }

end OverrideInfo

namespace RelayAttempt

variable {Body : Type} (attempt : RelayAttempt Body)

def AppliesNothing : Prop :=
  match attempt.prepared with
  | .converted _ => attempt.channel.paramOverride.entries = []
  | _ => True

def Unconditional (attempt : RelayAttempt Body) : Prop :=
  ∀ operations, tryParseOperations attempt.channel.paramOverride = some operations →
    ∀ operation ∈ operations, operation.Unconditional

/-- The same attempt as the first one of its request. -/
def alone : RelayAttempt Body :=
  { attempt with retryIndex := 0 }

end RelayAttempt

section

variable {Body : Type} (engine : OverrideEngine Body)

open OverrideInfo

/-- Nothing but the channel's own configuration decides the headers. -/
structure Pristine (client : ClientRequest) (info : OverrideInfo) : Prop where
  client_eq : info.client = client
  notRuntime : info.useRuntimeHeadersOverride = false

theorem start_pristine (client : ClientRequest) : Pristine client (start client) :=
  ⟨rfl,rfl⟩

variable {client : ClientRequest} {info : OverrideInfo} {attempt : RelayAttempt Body}

theorem enter_pristine (pristine : Pristine client info) (attempt : RelayAttempt Body) :
    Pristine client (info.enter attempt) :=
  ⟨pristine.client_eq,pristine.notRuntime⟩

/-- An attempt without parameter override leaves the loop's record as it enters
it, up to the error. -/
theorem override_of_appliesNothing {entered : OverrideInfo} (nothing : attempt.AppliesNothing)
    (sent : info.override engine attempt = some entered) :
    entered = info.enter attempt := by
  unfold override at sent
  unfold RelayAttempt.AppliesNothing at nothing
  cases prepared : attempt.prepared with
  | failed => simp [prepared] at sent
  | passThrough =>
    simp only [prepared,Option.some.injEq] at sent
    exact sent.symm
  | converted =>
    have isEmpty : (info.enter attempt).paramOverrideMap.entries.isEmpty = true := by
      simp only [prepared] at nothing
      simp [paramOverrideMap,enter,initChannelMeta,nothing]
    simp only [prepared,applyParamOverrideWithRelayInfo,isEmpty] at sent
    exact (Option.some.inj sent).symm

theorem step_pristine (nothing : attempt.AppliesNothing) (pristine : Pristine client info) :
    Pristine client (info.step engine attempt) := by
  have entered := enter_pristine pristine attempt
  cases overridden : info.override engine attempt with
  | none =>
    simp only [step,overridden]
    exact ⟨entered.client_eq,entered.notRuntime⟩
  | some =>
    have same := override_of_appliesNothing engine nothing overridden
    simp only [step,overridden,same]
    exact ⟨entered.client_eq,entered.notRuntime⟩

theorem run_pristine {attempts : List (RelayAttempt Body)}
    (nothing : ∀ attempt ∈ attempts, attempt.AppliesNothing) (pristine : Pristine client info)
    : Pristine client (run (step engine) info attempts) := by
  induction attempts generalizing info with
  | nil => exact pristine
  | cons attempt rest ih =>
    apply ih (forall_mem_cons.mp nothing).2
    exact step_pristine engine (nothing attempt (mem_cons_self ..)) pristine

theorem lastError_run (attempts : List (RelayAttempt Body)) (info : OverrideInfo) :
    (run (step engine) info attempts).lastError =
      attempts.getLast?.elim info.lastError RelayAttempt.failure := by
  induction attempts generalizing info with
  | nil => rfl
  | cons attempt rest ih =>
    rw [run_cons,ih]
    cases rest with
    | nil => rfl
    | cons next later =>
      rfl

def ownOverride (client : ClientRequest) (facts : RequestFacts) (channel : OverrideChannel)
    (body : Body) : Option GoMap :=
  if channel.paramOverride.entries.isEmpty then
    some (sanitizeHeaderOverrideMap engine channel.headersOverride)
  else
    ((applyParamOverride engine channel.paramOverride facts body {
        requestHeaders := buildRequestHeadersContext engine client.requestHeaders
        headerOverride := sanitizeHeaderOverrideMap engine
          (sanitizeHeaderOverrideMap engine channel.headersOverride) }).toOption).map
      (fun result => sanitizeHeaderOverrideMap engine
        (sanitizeHeaderOverrideMap engine result.2.headerOverride))

def ownHeaders (client : ClientRequest) (facts : RequestFacts) (attempt : RelayAttempt Body) :
    Option GoMap :=
  match attempt.prepared with
  | .failed => none
  | .passThrough => some (sanitizeHeaderOverrideMap engine attempt.channel.headersOverride)
  | .converted body => ownOverride engine client facts attempt.channel body

theorem sent_of_pristine (pristine : Pristine client info) (attempt : RelayAttempt Body) :
    info.sent engine attempt = ownHeaders engine client (info.enter attempt).requestFacts attempt := by
  have effective : (info.enter attempt).effectiveHeaderOverride engine =
      sanitizeHeaderOverrideMap engine attempt.channel.headersOverride := by
    have notRuntime := (enter_pristine pristine attempt).notRuntime
    simp only [effectiveHeaderOverride,notRuntime]
    rfl
  have ownParams : (info.enter attempt).paramOverrideMap = attempt.channel.paramOverride := rfl
  have sameClient : (info.enter attempt).client = client := pristine.client_eq
  unfold OverrideInfo.sent override ownHeaders
  cases attempt.prepared with
  | failed => rfl
  | passThrough => exact congrArg some effective
  | converted body =>
    simp only [applyParamOverrideWithRelayInfo,ownOverride,headerContext,ownParams,effective,
      sameClient]
    split
    · exact congrArg some effective
    · cases applyParamOverride engine attempt.channel.paramOverride
        (info.enter attempt).requestFacts body _ with
      | error failure => rfl
      | ok result => rfl

theorem ownHeaders_unconditional (client : ClientRequest) (facts other : RequestFacts)
    (unconditional : attempt.Unconditional) :
    ownHeaders engine client facts attempt = ownHeaders engine client other attempt := by
  unfold ownHeaders
  cases attempt.prepared with
  | failed => rfl
  | passThrough => rfl
  | converted body =>
    have same := applyParamOverride_unconditional engine facts other unconditional body
    simp only [ownOverride,same]

/-- As long as no attempt has run a parameter override, an attempt is sent with the
headers that its channel gives it on a fresh record. The error of the attempt
before and the retry index only reach operations that have conditions. -/
theorem header_override_isolated (client : ClientRequest) (earlier : List (RelayAttempt Body))
    (attempt : RelayAttempt Body) (nothing : ∀ before ∈ earlier, before.AppliesNothing) :
    (run (step engine) (start client) earlier).sent engine attempt =
        sent engine { start client with
          lastError := earlier.getLast?.elim none RelayAttempt.failure } attempt ∧
      (attempt.Unconditional →
        (run (step engine) (start client) earlier).sent engine attempt =
          (start client).sent engine attempt.alone) := by
  have pristine := run_pristine engine nothing (start_pristine client)
  have reached := sent_of_pristine engine pristine attempt
  constructor
  · have fresh : Pristine client { start client with
        lastError := earlier.getLast?.elim none RelayAttempt.failure } := ⟨rfl,rfl⟩
    rw [reached,sent_of_pristine engine fresh attempt]
    simp only [enter,pristine.client_eq,lastError_run]
    rfl
  · intro unconditional
    rw [reached,sent_of_pristine engine (start_pristine client) attempt.alone]
    exact ownHeaders_unconditional engine client _ _ unconditional

end

def retryEngine : OverrideEngine Unit where
  toLower := String.map Char.toLower
  toUpper := String.map Char.toUpper
  equalFold first second := first.map Char.toLower == second.map Char.toLower
  unmarshal _ := none
  checkSingleCondition _ facts _ condition := .ok (condition.path == "is_retry" && facts.isRetry)
  bodyOperation _ _ body := .ok body
  pruneObjects _ _ _ body := .ok body
  get _ _ := none
  set body _ _ := .ok body
  setTopLevel body _ _ := .ok body

def sampleClient : ClientRequest where
  userId := 1
  userGroup := "default"
  tokenGroup := "default"
  originModelName := "gpt-4o"
  requestURLPath := "/v1/chat/completions"
  requestHeaders := []
  isChannelTest := false

def channelWith (operations : List JsonValue) (headersOverride : GoMap) : OverrideChannel where
  upstreamModelName := "gpt-4o"
  paramOverride :=
    if operations.isEmpty then ∅ else AList.singleton "operations" (.array operations)
  headersOverride

def attemptOn (channel : OverrideChannel) (retryIndex : Nat) : RelayAttempt Unit where
  channel
  usingGroup := "default"
  retryIndex
  prepared := .converted ()
  failure := some ⟨500, "upstream failed", "bad_response", "upstream_error", false⟩

def setHeaderJson (name value : String) (onRetry : Bool) : JsonValue :=
  .object ([("mode", .text "set_header"), ("path", .text name), ("value", .text value)] ++
    if onRetry then [("conditions", .object [("is_retry", .boolean true)])] else [])

def plainChannel : OverrideChannel :=
  channelWith [] ∅

def ownHeaderChannel : OverrideChannel :=
  channelWith [] (AList.singleton "X-Own" (.text "own"))

theorem header_override_isolated_second :
    (run (OverrideInfo.step retryEngine) (.start sampleClient) [attemptOn plainChannel 0]).sent
        retryEngine (attemptOn ownHeaderChannel 1) =
      (OverrideInfo.start sampleClient).sent retryEngine (attemptOn ownHeaderChannel 0) := by
  refine (header_override_isolated retryEngine sampleClient [attemptOn plainChannel 0]
    (attemptOn ownHeaderChannel 1) ?_).2 ?_
  · intro before member
    rw [mem_singleton.mp member]
    rfl
  · intro operations parsed
    have unparsed : tryParseOperations ownHeaderChannel.paramOverride = none := rfl
    exact absurd (parsed.symm.trans unparsed) (by simp)

def sentHeader (earlier : List (RelayAttempt Unit)) (attempt : RelayAttempt Unit) (name : String) :
    Option String :=
  (((run (OverrideInfo.step retryEngine) (.start sampleClient) earlier).sent retryEngine
    attempt).bind (AList.lookup name)).map JsonValue.sprint

/-- The headers of a channel depend on the attempts before it. A header set on
retries only is sent after a plain channel and not without it; and a header set
for one channel is sent to the next, in place of the next one's own. -/
theorem header_map_depends_on_attempts :
    (sentHeader [] (attemptOn (channelWith [setHeaderJson "x-mark" "again" true] ∅) 0) "x-mark" =
        none ∧
      sentHeader [attemptOn plainChannel 0]
        (attemptOn (channelWith [setHeaderJson "x-mark" "again" true] ∅) 1) "x-mark" =
        some "again") ∧
    (sentHeader [] (attemptOn ownHeaderChannel 0) "x-own" = some "own" ∧
      sentHeader [attemptOn (channelWith [setHeaderJson "x-first" "secret" false] ∅) 0]
        (attemptOn ownHeaderChannel 1) "x-own" = none ∧
      sentHeader [attemptOn (channelWith [setHeaderJson "x-first" "secret" false] ∅) 0]
        (attemptOn ownHeaderChannel 1) "x-first" = some "secret") := by
  decide +kernel

end NewApi
