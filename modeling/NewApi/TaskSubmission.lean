import NewApi.JsonValue
import NewApi.RealtimeQuota
import NewApi.TaskPolling
import NewApi.TaskPricing

/-!
# Submitting an asynchronous task

`relay/relay_task.go` and `controller.RelayTask`. The origin of a remix is
looked up once.
-/

namespace NewApi

open GoStrings

structure TaskError where
  code : String
  message : String
  statusCode : Nat
  localError : Bool
deriving DecidableEq, Repr

/-- What is the same for a whole request. -/
structure TaskEnv where
  config : BillingConfig
  taskPricePatches : List String
  maskSensitiveInfo : String → String

def taskErrorWrapper (env : TaskEnv) (text code : String) (statusCode : Nat) : TaskError where
  code := code
  message :=
    let lowerText := toLower text
    if contains lowerText "post" || contains lowerText "dial" || contains lowerText "http" then
      env.maskSensitiveInfo text
    else text
  statusCode := statusCode
  localError := false

def taskErrorWrapperLocal (env : TaskEnv) (text code : String) (statusCode : Nat) : TaskError :=
  { taskErrorWrapper env text code statusCode with localError := true }

def ErrorCode.text : ErrorCode → String
  | .invalidRequest => "invalid_request"
  | .queryDataError => "query_data_error"
  | .updateDataError => "update_data_error"
  | .insufficientUserQuota => "insufficient_user_quota"
  | .preConsumeTokenQuotaFailed => "pre_consume_token_quota_failed"
  | .modelPriceError => "model_price_error"

def taskErrorFromAPIError (error : NewAPIError) : TaskError where
  code := error.errorCode.text
  message := error.err
  statusCode := error.statusCode
  localError := false

def taskActionRemix : String := "remixGenerate"

structure ChannelMeta where
  channelId : Int
  channelType : Int
  channelBaseUrl : String
  apiKey : String
deriving DecidableEq, Repr

structure OriginChannel where
  id : Int
  channelType : Int
  baseUrl : String
  enabled : Bool
deriving DecidableEq, Repr

/-- The fields of `RelayInfo` that a task submission reads and writes. `payer` holds the billing
fields, with the session once there is one. -/
structure TaskRelay where
  payer : Payer
  action : String
  originTaskId : String
  originModelName : String
  upstreamModelName : String
  publicTaskId : String
  lockedChannel : Option OriginChannel
  channel : ChannelMeta
  priceData : PriceData
  quotaClamp : Option QuotaClamp

structure TaskBillingContext where
  modelPrice : Rat
  groupRatio : Rat
  modelRatio : Rat
  otherRatios : RatioTable
  originModelName : String
  perCallBilling : Bool

/-- A stored task as a later submission finds it. `data` is its decoded answer, if it decodes. -/
structure OriginTask where
  channelId : Int
  originModelName : String
  upstreamModelName : String
  data : Option JsonValue
  billingContext : Option TaskBillingContext

def OriginTask.dataText (task : OriginTask) (name : String) : String :=
  match task.data.bind fun data => data.child name with
  | some (.text value) => value
  | _ => ""

/-- What the look-ups of `ResolveOriginTask` answer. -/
structure OriginLookups where
  task : Except GoError (Option OriginTask)
  channel : Except GoError OriginChannel
  nextEnabledKey : Except (String × Nat) String
  fixedEndpoint : Option String

structure TaskHttpRequest where
  path : String
  videoId : String
deriving DecidableEq, Repr

def maxTaskDurationSeconds : Int := 3600

def OriginTask.modelName (task : OriginTask) : String :=
  if task.originModelName ≠ "" then task.originModelName
  else if task.upstreamModelName ≠ "" then task.upstreamModelName
  else task.dataText "model"

/-- The ratios of a remix: those of the origin's billing context, or for an old task without one
those that its stored duration and size stand for. -/
def OriginTask.addRemixRatios (task : OriginTask) (price : PriceData) : PriceData :=
  match task.billingContext with
  | some context => price.addOtherRatios context.otherRatios
  | none =>
    let parsed := (atoi (task.dataText "seconds")).getD 0
    let seconds := min (if parsed ≤ 0 then 4 else parsed) maxTaskDurationSeconds
    let size := task.dataText "size"
    let price := price.addOtherRatio "seconds" (.finite seconds)
    let price := price.addOtherRatio "size" (.finite 1)
    if size = "1792x1024" ∨ size = "1024x1792" then
      price.addOtherRatio "size" (.finite (1666667 / 1000000))
    else price

def TaskHttpRequest.isRemix (request : TaskHttpRequest) : Bool :=
  contains request.path "/v1/videos/" && hasSuffix request.path "/remix"

def lockChannel (env : TaskEnv) (lookups : OriginLookups) (task : OriginTask)
    (channel : OriginChannel) (info : TaskRelay) : Except TaskError TaskRelay :=
  let info := { info with lockedChannel := some channel }
  if task.channelId = info.channel.channelId then .ok info
  else
    match lookups.nextEnabledKey with
    | .error (text, statusCode) =>
      .error (taskErrorWrapper env text "channel_no_available_key" statusCode)
    | .ok key =>
      .ok { info with
        channel :=
          { channelId := task.channelId
            channelType := channel.channelType
            channelBaseUrl := channel.baseUrl
            apiKey := key } }

/-- `ResolveOriginTask`; `info` is not used any more after an error. -/
def resolveOriginTask (env : TaskEnv) (request : TaskHttpRequest) (lookups : OriginLookups)
    (info : TaskRelay) : Except TaskError TaskRelay :=
  let info := if request.isRemix then { info with action := taskActionRemix } else info
  let isRemix := decide (info.action = taskActionRemix)
  if isRemix && decide (trimSpace request.videoId = "") then
    .error (taskErrorWrapperLocal env "video_id is required" "invalid_request" 400)
  else
    let info := if isRemix then { info with originTaskId := request.videoId } else info
    if info.originTaskId = "" then .ok info
    else
      match lookups.task with
      | .error error => .error (taskErrorWrapper env error.text "get_origin_task_failed" 500)
      | .ok none => .error (taskErrorWrapperLocal env "task_origin_not_exist" "task_not_exist" 400)
      | .ok (some task) =>
        let info :=
          if info.originModelName = "" then { info with originModelName := task.modelName } else info
        match lookups.channel with
        | .error error => .error (taskErrorWrapperLocal env error.text "channel_not_found" 400)
        | .ok channel =>
          if !channel.enabled then
            .error (taskErrorWrapperLocal env "the channel of the origin task is disabled"
              "task_channel_disable" 400)
          else
            match lockChannel env lookups task channel info with
            | .error error => .error error
            | .ok info =>
              match lookups.fixedEndpoint with
              | some text =>
                .error (taskErrorWrapperLocal env text "fixed_endpoint_mismatch" 403)
              | none =>
                .ok (if isRemix then
                  { info with priceData := task.addRemixRatios info.priceData } else info)

/-- The adaptor of the channel. In an attempt its answers depend on the action only, since the
request, the channel and the model names are fixed then. -/
structure SubmitAdaptor where
  validateRequestAndSetAction : String → String × Option TaskError
  estimateBilling : String → RatioTable
  buildRequestBody : Option GoError
  doRequest : Except GoError (Option (Nat × String))
  doResponse : Except TaskError (String × List UInt8)
  adjustBillingOnSubmit : RatioTable

/-- The fields of the request that the Sora adaptor prices. -/
structure VideoRequest where
  seconds : String
  duration : Int
  size : String

/-- `EstimateBilling` of the Sora adaptor; `none` is a request that cannot be read back. -/
def soraEstimateBilling (request : Option VideoRequest) (action : String) : RatioTable :=
  if action = taskActionRemix then ∅
  else
    match request with
    | none => ∅
    | some request =>
      let parsed := (atoi request.seconds).getD 0
      let given := if parsed = 0 then request.duration else parsed
      let seconds := if given ≤ 0 then 4 else given
      let large := request.size = "1792x1024" ∨ request.size = "1024x1792"
      ((∅ : RatioTable).insert "seconds" (.finite seconds)).insert "size"
        (.finite (if large then 1666667 / 1000000 else 1))

structure SubmitAttempt where
  channel : ChannelMeta
  platform : String
  adaptor : Option SubmitAdaptor
  mapModel : String → Except GoError String
  newTaskId : String
  settings : PriceSettings
  session : SessionAnswers

def coverTaskActionToModelName (platform action : String) : String :=
  toLower platform ++ "_" ++ toLower action

/-- Steps 5 and 6: add the ratios of the adaptor and multiply the base with what is there. -/
def applyEstimate (env : TaskEnv) (adaptor : SubmitAdaptor) (info : TaskRelay) : TaskRelay :=
  let price := info.priceData.addOtherRatios (adaptor.estimateBilling info.action)
  if info.originModelName ∈ env.taskPricePatches then { info with priceData := price }
  else
    let (quota, clamp) := quotaFromFloatChecked (price.applyOtherRatiosToFloat price.quota)
    { info with
      priceData := { price with quota := quota }
      quotaClamp := info.quotaClamp.or clamp }

/-- Steps 1 to 6: check the request, find its model, and price it. -/
def priceTask (env : TaskEnv) (attempt : SubmitAttempt) (adaptor : SubmitAdaptor)
    (info : TaskRelay) : Except TaskError Unit × TaskRelay :=
  let (action, invalid) := adaptor.validateRequestAndSetAction info.action
  let info := { info with channel := attempt.channel, action := action }
  match invalid with
  | some error => (.error error, info)
  | none =>
    let modelName :=
      if info.originModelName = "" then coverTaskActionToModelName attempt.platform action
      else info.originModelName
    let info := { info with originModelName := modelName, upstreamModelName := modelName }
    match attempt.mapModel modelName with
    | .error error =>
      (.error (taskErrorWrapperLocal env error.text "model_mapping_failed" 400), info)
    | .ok upstreamModelName =>
      let info :=
        { info with
          upstreamModelName := upstreamModelName
          publicTaskId := if info.publicTaskId = "" then attempt.newTaskId else info.publicTaskId }
      match modelPriceHelperPerCall attempt.settings modelName with
      | .error error => (.error (taskErrorWrapper env error.text "model_price_error" 400), info)
      -- The new price replaces the one that `ResolveOriginTask` has added ratios to.
      | .ok price => (.ok (), applyEstimate env adaptor { info with priceData := price })

theorem priceTask_ok {env : TaskEnv} {attempt : SubmitAttempt} {adaptor : SubmitAdaptor}
    {info priced : TaskRelay} (called : priceTask env attempt adaptor info = (.ok (), priced)) :
    ∃ named : TaskRelay,
      modelPriceHelperPerCall attempt.settings named.originModelName = .ok named.priceData ∧
      named.payer = info.payer ∧ priced = applyEstimate env adaptor named := by
  unfold priceTask at called
  dsimp only at called
  iterate 3
    split at called
    · cases called
  rename_i price base
  cases called
  refine ⟨_,?_,?_,rfl⟩
  · exact base
  · rfl

def preConsumeBilling (env : TaskEnv) (clampText : QuotaClamp → String) (answers : SessionAnswers)
    (quotaClamp : Option QuotaClamp) (preConsumedQuota : Int) (relayInfo : RelayInfo)
    (store : BillingStore) : Except NewAPIError BillingSession × BillingStore :=
  let refused (text : String) : NewAPIError :=
    { err := text
      errorCode := .modelPriceError
      statusCode := 400
      skipRetry := true
      recordErrorLog := true }
  match quotaClamp with
  | some clamp => (.error (refused (clampText clamp)), store)
  | none =>
    if preConsumedQuota < 0 then
      (.error (refused s!"pre-consume quota cannot be negative: {preConsumedQuota}"), store)
    else newBillingSession env.config answers (some relayInfo) preConsumedQuota store

/-- Step 7: reserve the quota, unless a session does already or the model is free. -/
def reserveTask (env : TaskEnv) (attempt : SubmitAttempt) (info : TaskRelay)
    (store : BillingStore) : Except TaskError Unit × TaskRelay × BillingStore :=
  match info.payer with
  | .session _ => (.ok (), info, store)
  | .direct relayInfo =>
    if info.priceData.freeModel then (.ok (), info, store)
    else
      let relayInfo := { relayInfo with forcePreConsume := true }
      match preConsumeBilling env attempt.settings.clampText attempt.session info.quotaClamp
          info.priceData.quota relayInfo store with
      | (.error error, store) =>
        (.error (taskErrorFromAPIError error), { info with payer := .direct relayInfo }, store)
      | (.ok session, store) => (.ok (), { info with payer := .session session }, store)

structure TaskSubmitResult where
  upstreamTaskId : String
  taskData : List UInt8
  platform : String
  quota : Int
deriving DecidableEq, Repr

def recalcQuotaFromRatios (price : PriceData) (ratios : RatioTable) :
    Option (Int × Option QuotaClamp) :=
  let baseQuota := price.removeOtherRatiosFromFloat price.quota
  let (replaced, some_) := price.replaceOtherRatios ratios
  if some_ then some (quotaFromFloatChecked (replaced.applyOtherRatiosToFloat baseQuota)) else none

def adjustOnSubmit (ratios : RatioTable) (info : TaskRelay) : TaskRelay :=
  if ratios.entries.isEmpty then info
  else
    match recalcQuotaFromRatios info.priceData ratios with
    | none => info
    | some (quota, clamp) =>
      { info with
        priceData := { (info.priceData.replaceOtherRatios ratios).1 with quota := quota }
        quotaClamp := info.quotaClamp.or clamp }

def sendTask (env : TaskEnv) (attempt : SubmitAttempt) (adaptor : SubmitAdaptor)
    (info : TaskRelay) : Except TaskError TaskSubmitResult × TaskRelay :=
  match adaptor.buildRequestBody with
  | some error => (.error (taskErrorWrapper env error.text "build_request_failed" 500), info)
  | none =>
    match adaptor.doRequest with
    | .error error => (.error (taskErrorWrapper env error.text "do_request_failed" 500), info)
    | .ok response =>
      match response.filter fun answer => answer.1 ≠ 200 with
      | some (statusCode, body) =>
        (.error (taskErrorWrapper env body "fail_to_fetch_task" statusCode), info)
      | none =>
        match adaptor.doResponse with
        | .error error => (.error error, info)
        | .ok (upstreamTaskId, taskData) =>
          let info := adjustOnSubmit adaptor.adjustBillingOnSubmit info
          (.ok
            { upstreamTaskId := upstreamTaskId
              taskData := taskData
              platform := attempt.platform
              quota := info.priceData.quota }, info)

def relayTaskSubmit (env : TaskEnv) (attempt : SubmitAttempt) (info : TaskRelay)
    (store : BillingStore) : Except TaskError TaskSubmitResult × TaskRelay × BillingStore :=
  match attempt.adaptor with
  | none =>
    (.error (taskErrorWrapperLocal env s!"invalid api platform: {attempt.platform}"
      "invalid_api_platform" 400), { info with channel := attempt.channel }, store)
  | some adaptor =>
    match priceTask env attempt adaptor info with
    | (.error error, info) => (.error error, info, store)
    | (.ok _, info) =>
      match reserveTask env attempt info store with
      | (.error error, info, store) => (.error error, info, store)
      | (.ok _, info, store) =>
        let (result, info) := sendTask env attempt adaptor info
        (result, info, store)

/-- What `shouldRetryTaskRelay` reads beside the error. -/
structure RetryAnswers where
  affinitySkips : Bool
  retryTimes : Int
  specificChannel : Bool
  alwaysSkipRetryStatusCode : Nat → Bool

def shouldRetryTaskRelay (answers : RetryAnswers) (error : TaskError) : Bool :=
  if answers.affinitySkips then false
  else if answers.retryTimes ≤ 0 then false
  else if answers.specificChannel then false
  else if error.statusCode = 429 then true
  else if error.statusCode = 307 then true
  else if error.statusCode / 100 = 5 then !answers.alwaysSkipRetryStatusCode error.statusCode
  else if error.statusCode = 400 then false
  else if error.statusCode = 408 then false
  else if error.localError then false
  else if error.statusCode / 100 = 2 then false
  else true

/-- One turn of the loop of `RelayTask`. `setup` is the error of choosing the channel or of
reading the body. -/
structure LoopTurn where
  setup : Option TaskError
  attempt : SubmitAttempt
  retry : RetryAnswers

/-- The loop of `RelayTask`, over the turns that the retry counter leaves. -/
def submitLoop (env : TaskEnv) (turn : LoopTurn) :
    List LoopTurn → TaskRelay → BillingStore →
      Except TaskError TaskSubmitResult × TaskRelay × BillingStore
  | rest, info, store =>
    match turn.setup with
    | some error => (.error error, info, store)
    | none =>
      match relayTaskSubmit env turn.attempt info store, rest with
      | (.ok result, info, store), _ => (.ok result, info, store)
      | (.error error, info, store), [] => (.error error, info, store)
      | (.error error, info, store), next :: rest =>
        if shouldRetryTaskRelay turn.retry error then submitLoop env next rest info store
        else (.error error, info, store)

structure SubmittedTask where
  row : Task
  account : TaskAccount
  channelId : Int
  platform : String
  action : String
  upstreamTaskId : String
  tokenId : Int
  originModelName : String
  upstreamModelName : String
  billingContext : TaskBillingContext

def taskBillingContext (env : TaskEnv) (info : TaskRelay) : TaskBillingContext where
  modelPrice := info.priceData.modelPrice
  groupRatio := info.priceData.groupRatio
  modelRatio := info.priceData.modelRatio
  otherRatios := info.priceData.otherRatios.table
  originModelName := info.originModelName
  perCallBilling :=
    decide (info.originModelName ∈ env.taskPricePatches) || info.priceData.usePrice

/-- `InitTask` and the assignments after it. -/
def taskToInsert (env : TaskEnv) (now : Int) (result : TaskSubmitResult) (info : TaskRelay) :
    SubmittedTask where
  row :=
    { quota := result.quota
      status := .notStart
      failReason := ""
      submitTime := now
      startTime := 0
      finishTime := 0
      progress := "0%"
      resultUrl := ""
      data := result.taskData }
  account :=
    { taskId := info.publicTaskId
      userId := info.payer.relayInfo.userId
      billingSource := info.payer.relayInfo.billingSource
      subscriptionId := info.payer.relayInfo.subscriptionId
      perCallBilling := (taskBillingContext env info).perCallBilling }
  channelId := info.channel.channelId
  platform := result.platform
  action := info.action
  upstreamTaskId := result.upstreamTaskId
  tokenId := info.payer.relayInfo.tokenId
  originModelName := info.originModelName
  upstreamModelName := info.upstreamModelName
  billingContext := taskBillingContext env info

structure FinishAnswers where
  settle : BillingSession.SettleAnswers
  now : Int
  insert : Option GoError

/-- How `RelayTask` ends: the task it has stored or the error it answers with, and the refund
that the deferred call starts. -/
structure RelayTaskOutcome where
  stored : Except TaskError (Option SubmittedTask)
  refund : Option BillingSession.RefundJob
  store : BillingStore

/-- `RelayTask` after `ResolveOriginTask`. A failed settlement is only logged. -/
def relayTask (env : TaskEnv) (finish : FinishAnswers) (first : LoopTurn) (rest : List LoopTurn)
    (info : TaskRelay) (store : BillingStore) : RelayTaskOutcome :=
  match submitLoop env first rest info store with
  | (.error error, info, store) =>
    { stored := .error error
      refund := match info.payer with
        | .session billing => billing.refund.2
        | .direct _ => none
      store := store }
  | (.ok result, info, store) =>
    let (_, payer, store) := info.payer.settleBilling env.config finish.settle result.quota store
    { stored := .ok (match finish.insert with
        | some _ => none
        | none => some (taskToInsert env finish.now result { info with payer := payer }))
      refund := none
      store := store }

section

def OriginLookups.ratios (lookups : OriginLookups) : RatioTable :=
  match lookups.task with
  | .ok (some task) => (task.billingContext.map TaskBillingContext.otherRatios).getD ∅
  | _ => ∅

/-- A submission from `ResolveOriginTask` to the point where `RelayTaskSubmit` reserves the quota
of its price. -/
def priceSubmission (env : TaskEnv) (request : TaskHttpRequest) (lookups : OriginLookups)
    (attempt : SubmitAttempt) (adaptor : SubmitAdaptor) (info : TaskRelay) :
    Except TaskError TaskRelay := do
  let info ← resolveOriginTask env request lookups info
  match priceTask env attempt adaptor info with
  | (.error error, _) => .error error
  | (.ok _, info) => .ok info

variable (env : TaskEnv) (adaptor : SubmitAdaptor)

theorem applyEstimate_ratios {info : TaskRelay} (fresh : info.priceData.otherRatios = .empty) :
    (applyEstimate env adaptor info).priceData.otherRatios =
      OtherRatios.empty.addAll (adaptor.estimateBilling info.action) := by
  unfold applyEstimate
  split_ifs <;> simp [PriceData.addOtherRatios,fresh]

theorem applyEstimate_quota (info : TaskRelay) :
    (applyEstimate env adaptor info).priceData.quota =
      if info.originModelName ∈ env.taskPricePatches then info.priceData.quota
      else quotaFromFloat (info.priceData.quota *
        ratioProduct (applyEstimate env adaptor info).priceData.otherRatios.table) := by
  unfold applyEstimate
  split_ifs
  · rfl
  · simp only [PriceData.applyOtherRatiosToFloat,PriceData.otherRatioMultiplier_eq]
    rfl

theorem applyEstimate_named (info : TaskRelay) :
    (applyEstimate env adaptor info).originModelName = info.originModelName ∧
      (applyEstimate env adaptor info).action = info.action := by
  unfold applyEstimate
  split_ifs <;> exact ⟨rfl,rfl⟩

/-- The quota that is reserved is the base price times the ratios of the origin task, and these
ratios are stored, exactly when the adaptor estimates these very ratios from the request, and the
model is priced with its ratios or they do not change the quota. What `ResolveOriginTask` adds to
the price data is lost. -/
theorem remix_priced_with_origin_ratios_iff (request : TaskHttpRequest) (lookups : OriginLookups)
    (attempt : SubmitAttempt) (info submission : TaskRelay) (price : PriceData)
    (priced : priceSubmission env request lookups attempt adaptor info = .ok submission)
    (base : modelPriceHelperPerCall attempt.settings submission.originModelName = .ok price) :
    (submission.priceData.quota =
          quotaFromFloat (price.quota * ratioProduct lookups.ratios) ∧
        (taskBillingContext env submission).otherRatios.lookup = lookups.ratios.lookup) ↔
      (OtherRatios.empty.addAll (adaptor.estimateBilling submission.action)).table.lookup =
          lookups.ratios.lookup ∧
        (submission.originModelName ∈ env.taskPricePatches →
          quotaFromFloat (price.quota * ratioProduct lookups.ratios) = price.quota) := by
  obtain ⟨resolved,-,rest⟩ := Transactions.bind_succeeds_iff.mp priced
  rcases called : priceTask env attempt adaptor resolved with ⟨result,found⟩
  rw [called] at rest
  cases result with
  | error => cases rest
  | ok _ =>
    cases rest
    obtain ⟨named,fresh,-,rfl⟩ := priceTask_ok called
    obtain ⟨sameName,sameAction⟩ := applyEstimate_named env adaptor named
    rw [sameName] at base
    obtain rfl : named.priceData = price := Except.ok.inj (fresh.symm.trans base)
    have ratios := applyEstimate_ratios env adaptor (modelPriceHelperPerCall_ok fresh).1
    have quota := applyEstimate_quota env adaptor named
    rw [ratios] at quota
    rw [sameName,sameAction,taskBillingContext,ratios,quota,and_comm]
    refine and_congr_right fun same => ?_
    rw [ratioProduct_congr same]
    by_cases patched : named.originModelName ∈ env.taskPricePatches
    · simp [eq_comm]
    · simp [patched]

def soraAdaptor : SubmitAdaptor where
  validateRequestAndSetAction action := (action, none)
  estimateBilling := soraEstimateBilling none
  buildRequestBody := none
  doRequest := .ok (some (200, ""))
  doResponse := .ok ("video_2", [])
  adjustBillingOnSubmit := ∅

def plainTaskEnv : TaskEnv where
  config := directConfig
  taskPricePatches := []
  maskSensitiveInfo text := text

def soraAttempt : SubmitAttempt where
  channel := { channelId := 3, channelType := 55, channelBaseUrl := "", apiKey := "key" }
  platform := "55"
  adaptor := some soraAdaptor
  mapModel modelName := .ok modelName
  newTaskId := "task_2"
  settings :=
    { groupRatio := 1
      modelPrice := fun _ => some (1 / 4)
      defaultModelPrice := fun _ => none
      modelRatio := fun modelName => (0, false, modelName)
      acceptUnsetRatioModel := false
      userIsAdmin := false
      quotaPerUnit := 100
      enableFreeModelPreConsume := false
      clampText := fun _ => "" }
  session := faultlessAnswers

def soraOrigin (ratios : RatioTable) : OriginLookups where
  task := .ok (some
    { channelId := 3
      originModelName := "sora-2"
      upstreamModelName := "sora-2"
      data := none
      billingContext := some
        { modelPrice := 1 / 4
          groupRatio := 1
          modelRatio := 0
          otherRatios := ratios
          originModelName := "sora-2"
          perCallBilling := true } })
  channel := .ok { id := 3, channelType := 55, baseUrl := "", enabled := true }
  nextEnabledKey := .ok "key"
  fixedEndpoint := none

def newTaskRelay : TaskRelay where
  payer := .direct (requestInfo "wallet_only")
  action := ""
  originTaskId := ""
  originModelName := ""
  upstreamModelName := ""
  publicTaskId := ""
  lockedChannel := none
  channel := { channelId := 0, channelType := 0, channelBaseUrl := "", apiKey := "" }
  priceData := .zero
  quotaClamp := none

def remixRequest : TaskHttpRequest where
  path := "/v1/videos/video_1/remix"
  videoId := "video_1"

/-- The remix of a task with a duration of eight seconds is priced without it, and the ratio is
not stored. -/
theorem remix_loses_duration :
    ((priceSubmission plainTaskEnv remixRequest
        (soraOrigin ((∅ : RatioTable).insert "seconds" (.finite 8))) soraAttempt soraAdaptor
        newTaskRelay).toOption.map fun submission =>
          (submission.priceData.quota,
            (taskBillingContext plainTaskEnv submission).otherRatios.lookup "seconds")) =
      some (25, none) := by
  decide +kernel

/-- A remix of a task without further ratios is priced as its origin was. -/
theorem remix_without_ratios_priced :
    ∃ submission, priceSubmission plainTaskEnv remixRequest (soraOrigin ∅) soraAttempt soraAdaptor
        newTaskRelay = .ok submission ∧
      submission.priceData.quota = quotaFromFloat ((25 : Int) * ratioProduct ∅) ∧
      (taskBillingContext plainTaskEnv submission).otherRatios.lookup =
        (∅ : RatioTable).lookup := by
  have evaluated : ((priceSubmission plainTaskEnv remixRequest (soraOrigin ∅) soraAttempt
      soraAdaptor newTaskRelay).toOption.map fun submission =>
        (submission.originModelName, submission.action)) = some ("sora-2", taskActionRemix) := by
    decide +kernel
  cases priced : priceSubmission plainTaskEnv remixRequest (soraOrigin ∅) soraAttempt soraAdaptor
      newTaskRelay with
  | error error =>
    rw [priced] at evaluated
    cases evaluated
  | ok submission =>
    rw [priced] at evaluated
    obtain ⟨named,action⟩ := Prod.mk.inj (Option.some.inj evaluated)
    have base : modelPriceHelperPerCall soraAttempt.settings submission.originModelName =
        .ok
          { PriceData.zero with
            modelPrice := 1 / 4
            usePrice := true
            quota := 25
            groupRatio := 1 } := by
      have quotaEq : quotaFromFloatStrict (4⁻¹ * 100) = .ok 25 := by decide +kernel
      simp [modelPriceHelperPerCall,PriceSettings.unitPrice,soraAttempt,bind,Except.bind,
        quotaEq,PriceData.zero]
    refine ⟨submission,rfl,(remix_priced_with_origin_ratios_iff plainTaskEnv soraAdaptor
      remixRequest (soraOrigin ∅) soraAttempt newTaskRelay submission _ priced base).mpr ⟨?_,?_⟩⟩
    · rw [action]
      rfl
    · intro patched
      cases patched

end

end NewApi
