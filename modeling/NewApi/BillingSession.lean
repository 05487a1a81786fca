import NewApi.BillingLedger
import NewApi.SubscriptionRefund

/-!
# Billing sessions

`service/funding_source.go` and `service/billing_session.go`.
-/

namespace NewApi

inductive BillingSource where
  | unset
  | wallet
  | subscription
deriving DecidableEq, Repr

structure RelayInfo where
  userId : Int
  tokenId : Int
  tokenUnlimited : Bool
  isPlayground : Bool
  forcePreConsume : Bool
  requestId : String
  billingPreference : String
  userQuota : Int
  finalPreConsumedQuota : Int
  billingSource : BillingSource
  subscriptionId : Int
  subscriptionPreConsumed : Int
  subscriptionPostDelta : Int
  subscriptionAmountTotal : Int
  subscriptionAmountUsedAfterPreConsume : Int
  subscriptionPlanId : Int
  subscriptionPlanTitle : String
deriving DecidableEq, Repr

structure WalletFunding where
  userId : Int
  consumed : Int
deriving DecidableEq, Repr

structure SubscriptionFunding where
  requestId : String
  userId : Int
  amount : Int
  subscriptionId : Int
  preConsumed : Int
  amountTotal : Int
  amountUsedAfter : Int
  planId : Int
  planTitle : String
deriving DecidableEq, Repr

inductive FundingSource where
  | wallet (funding : WalletFunding)
  | subscription (funding : SubscriptionFunding)
deriving DecidableEq, Repr

/-- `BillingSession`; the mutex makes each call below one step. -/
structure BillingSession where
  relayInfo : RelayInfo
  funding : FundingSource
  preConsumedQuota : Int
  tokenConsumed : Int
  extraReserved : Int
  trusted : Bool
  fundingSettled : Bool
  settled : Bool
  refunded : Bool
deriving DecidableEq, Repr

def onSubscriptions {α : Type}
    (operation : SubscriptionStore → Except GoError α × SubscriptionStore)
    (store : BillingStore) : Except GoError α × BillingStore :=
  ((operation store.subscriptions).1,
    { store with subscriptions := (operation store.subscriptions).2 })

namespace FundingSource

def source : FundingSource → BillingSource
  | wallet _ => .wallet
  | subscription _ => .subscription

end FundingSource

/-- What a `PreConsume` of a funding source meets. `planInfo` answers
`GetSubscriptionPlanInfoByUserSubscriptionId`. -/
structure FundingAnswers where
  wallet : ReserveAnswers
  calendar : Calendar
  now : Int
  subscription : PreConsumeFaults
  planInfo : Option (Int × String)

def WalletFunding.preConsume (config : BillingConfig) (answers : ReserveAnswers) (amount : Int)
    (funding : WalletFunding) (store : BillingStore) :
    Except GoError WalletFunding × BillingStore :=
  if amount ≤ 0 then (.ok funding, store)
  else
    match tryReserveUserQuota config answers funding.userId amount store with
    | (.error error, store) => (.error error, store)
    | (.ok false, store) => (.error .insufficientWalletQuota, store)
    | (.ok true, store) => (.ok { funding with consumed := amount }, store)

def SubscriptionFunding.preConsume (answers : FundingAnswers) (funding : SubscriptionFunding)
    (store : BillingStore) : Except GoError SubscriptionFunding × BillingStore :=
  match onSubscriptions (preConsumeUserSubscription answers.subscription answers.calendar
      answers.now funding.requestId funding.userId funding.amount) store with
  | (.error error, store) => (.error error, store)
  | (.ok result, store) =>
    (.ok { funding with
      subscriptionId := result.userSubscriptionId
      preConsumed := result.preConsumed
      amountTotal := result.amountTotal
      amountUsedAfter := result.amountUsedAfter
      planId := (answers.planInfo.map Prod.fst).getD funding.planId
      planTitle := (answers.planInfo.map Prod.snd).getD funding.planTitle }, store)

def FundingSource.preConsume (config : BillingConfig) (answers : FundingAnswers) (amount : Int) :
    FundingSource → BillingStore → Except GoError FundingSource × BillingStore
  | .wallet funding, store =>
    match funding.preConsume config answers.wallet amount store with
    | (.error error, store) => (.error error, store)
    | (.ok funding, store) => (.ok (.wallet funding), store)
  | .subscription funding, store =>
    match funding.preConsume answers store with
    | (.error error, store) => (.error error, store)
    | (.ok funding, store) => (.ok (.subscription funding), store)

/-- Errors of one write to a funding source, whichever of the two it is. -/
structure FundingFaults where
  wallet : Option GoError
  subscription : RowTxFaults
deriving DecidableEq

def FundingFaults.succeeds : FundingFaults where
  wallet := none
  subscription := .succeeds

def FundingSource.settle (config : BillingConfig) (faults : FundingFaults) (delta : Int)
    (store : BillingStore) : FundingSource → Except GoError Unit × BillingStore
  | .wallet funding =>
    if delta = 0 then (.ok (), store)
    else if 0 < delta then decreaseUserQuota config faults.wallet funding.userId delta false store
    else increaseUserQuota config faults.wallet funding.userId (-delta) false store
  | .subscription funding =>
    if delta = 0 then (.ok (), store)
    else
      onSubscriptions (postConsumeUserSubscriptionDelta faults.subscription
        funding.subscriptionId delta) store

def FundingSource.refund (config : BillingConfig) (walletFault : Option GoError)
    (attempts : Nat → RefundFaults) (store : BillingStore) :
    FundingSource → Except GoError Unit × BillingStore
  | .wallet funding =>
    if funding.consumed ≤ 0 then (.ok (), store)
    else increaseUserQuota config walletFault funding.userId funding.consumed false store
  | .subscription funding =>
    if funding.preConsumed ≤ 0 then (.ok (), store)
    else
      refundWithRetry (fun attempt => onSubscriptions
        (refundSubscriptionPreConsume (attempts attempt) funding.requestId)) store

/-- `PreConsumeTokenQuota`. `tokenRemain` is the remaining quota that the error
message reads back, 0 when the token cannot be read. -/
def preConsumeTokenQuota (config : BillingConfig) (answers : ReserveAnswers) (tokenRemain : Int)
    (relayInfo : RelayInfo) (quota : Int) (store : BillingStore) :
    Except GoError Unit × BillingStore :=
  if quota < 0 then (.error negativeQuota, store)
  else if relayInfo.isPlayground then (.ok (), store)
  else
    match tryReserveTokenQuota config answers relayInfo.tokenId quota relayInfo.tokenUnlimited
        store with
    | (.error error, store) => (.error error, store)
    | (.ok false, store) =>
      let remain := config.formatQuota tokenRemain
      let need := config.formatQuota quota
      (.error (.message
        s!"token quota is not enough, token remain quota: {remain}, need quota: {need}"), store)
    | (.ok true, store) => (.ok (), store)

namespace BillingSession

def shouldTrust (config : BillingConfig) (contextTokenQuota : Int) (session : BillingSession) :
    Bool :=
  if session.relayInfo.forcePreConsume then false
  else if config.trustQuota ≤ 0 then false
  else if session.relayInfo.tokenUnlimited || decide (config.trustQuota < contextTokenQuota) then
    match session.funding.source with
    | .wallet => config.trustQuota < session.relayInfo.userQuota
    | _ => false
  else false

variable (session : BillingSession)

def syncedRelayInfo : RelayInfo :=
  let info :=
    { session.relayInfo with
      finalPreConsumedQuota := session.preConsumedQuota
      billingSource := session.funding.source }
  match session.funding with
  | .subscription funding =>
    { info with
      subscriptionId := funding.subscriptionId
      subscriptionPreConsumed := funding.preConsumed + session.extraReserved
      subscriptionPostDelta := 0
      subscriptionAmountTotal := funding.amountTotal
      subscriptionAmountUsedAfterPreConsume := funding.amountUsedAfter + session.extraReserved
      subscriptionPlanId := funding.planId
      subscriptionPlanTitle := funding.planTitle }
  | .wallet _ => { info with subscriptionId := 0, subscriptionPreConsumed := 0 }

def syncRelayInfo : BillingSession :=
  { session with relayInfo := session.syncedRelayInfo }

theorem syncedRelayInfo_request :
    session.syncedRelayInfo.userId = session.relayInfo.userId ∧
      session.syncedRelayInfo.tokenId = session.relayInfo.tokenId ∧
      session.syncedRelayInfo.isPlayground = session.relayInfo.isPlayground := by
  unfold syncedRelayInfo
  cases session.funding <;> exact ⟨rfl,rfl,rfl⟩

theorem syncedRelayInfo_subscriptionId {session : BillingSession} {funding : SubscriptionFunding}
    (isSubscription : session.funding = .subscription funding) :
    session.syncedRelayInfo.subscriptionId = funding.subscriptionId := by
  simp [syncedRelayInfo,isSubscription]

end BillingSession

structure UserQuotaRead where
  cached : Except GoError Int
  database : Option GoError

def getUserQuota (config : BillingConfig) (read : UserQuotaRead) (id : Int)
    (store : BillingStore) : Except GoError Int :=
  if config.redisEnabled then read.cached
  else
    match read.database with
    | some error => .error error
    | none => .ok ((store.users id).getD 0)

structure AttemptAnswers where
  token : ReserveAnswers
  tokenRemain : Int
  funding : FundingAnswers
  tokenRollback : Option GoError
  quotaForMessage : UserQuotaRead

namespace BillingSession

def fundingError (config : BillingConfig) (read : UserQuotaRead) (relayInfo : RelayInfo)
    (error : GoError) (store : BillingStore) : NewAPIError :=
  if error = .insufficientWalletQuota then
    let userQuota :=
      match getUserQuota config read relayInfo.userId store with
      | .ok quota => config.formatQuota quota
      | .error _ => config.formatQuota 0
    .forbidden s!"用户额度不足, 剩余额度: {userQuota}" .insufficientUserQuota
  else if GoStrings.contains error.text "no active subscription" ||
      GoStrings.contains error.text "subscription quota insufficient" then
    .forbidden s!"订阅额度不足或未配置订阅: {error.text}" .insufficientUserQuota
  else .newError error.text .updateDataError

def rollbackToken (config : BillingConfig) (fault : Option GoError) (session : BillingSession)
    (store : BillingStore) : BillingStore :=
  if 0 < session.tokenConsumed ∧ session.relayInfo.isPlayground = false then
    (increaseTokenQuota config fault session.relayInfo.tokenId session.tokenConsumed store).2
  else store

def effectiveQuota (config : BillingConfig) (contextTokenQuota quota : Int)
    (session : BillingSession) : Int :=
  if session.shouldTrust config contextTokenQuota then 0 else quota

def reserveRequestToken (config : BillingConfig) (answers : AttemptAnswers) (amount : Int)
    (session : BillingSession) (store : BillingStore) :
    Except GoError BillingSession × BillingStore :=
  if 0 < amount then
    match preConsumeTokenQuota config answers.token answers.tokenRemain session.relayInfo amount
        store with
    | (.error error, store) => (.error error, store)
    | (.ok _, store) => (.ok { session with tokenConsumed := amount }, store)
  else (.ok session, store)

def preConsume (config : BillingConfig) (answers : AttemptAnswers) (contextTokenQuota quota : Int)
    (session : BillingSession) (store : BillingStore) :
    Except NewAPIError BillingSession × BillingStore :=
  let amount := session.effectiveQuota config contextTokenQuota quota
  let session :=
    { session with trusted := session.shouldTrust config contextTokenQuota || session.trusted }
  match session.reserveRequestToken config answers amount store with
  | (.error error, store) => (.error (.forbidden error.text .preConsumeTokenQuotaFailed), store)
  | (.ok session, store) =>
    match session.funding.preConsume config answers.funding amount store with
    | (.error error, store) =>
      let store := session.rollbackToken config answers.tokenRollback store
      (.error (fundingError config answers.quotaForMessage session.relayInfo error store), store)
    | (.ok funding, store) =>
      (.ok { session with funding := funding, preConsumedQuota := amount }.syncRelayInfo, store)

def new (relayInfo : RelayInfo) (funding : FundingSource) : BillingSession where
  relayInfo := relayInfo
  funding := funding
  preConsumedQuota := 0
  tokenConsumed := 0
  extraReserved := 0
  trusted := false
  fundingSettled := false
  settled := false
  refunded := false

end BillingSession

inductive BillingPreference where
  | subscriptionFirst
  | walletFirst
  | subscriptionOnly
  | walletOnly
deriving DecidableEq, Repr

def normalizeBillingPreference (preference : String) : BillingPreference :=
  match GoStrings.trimSpace preference with
  | "subscription_first" => .subscriptionFirst
  | "wallet_first" => .walletFirst
  | "subscription_only" => .subscriptionOnly
  | "wallet_only" => .walletOnly
  | _ => .subscriptionFirst

def countActive (store : BillingStore) (userId now : Int) (also : UserSubscription → Bool) : Nat :=
  store.subscriptions.subscriptions.rows.countP fun sub =>
    sub.userId = userId ∧ sub.status = .active ∧ now < sub.endTime ∧ also sub

def hasActiveUserSubscription (fault : Option GoError) (now userId : Int)
    (store : BillingStore) : Except GoError Bool :=
  if userId ≤ 0 then .error (.message "invalid userId")
  else Transactions.attempt fault (0 < countActive store userId now fun _ => true)

def userActiveSubscriptionsAllowWalletOverflow (fault : Option GoError) (now userId : Int)
    (store : BillingStore) : Except GoError Bool :=
  if userId ≤ 0 then .error (.message "invalid userId")
  else Transactions.attempt fault (countActive store userId now (!·.allowWalletOverflow) = 0)

structure SessionAnswers where
  userQuota : UserQuotaRead
  wallet : AttemptAnswers
  subscription : AttemptAnswers
  countSubscriptions : Option GoError
  countedAt : Int
  countStrict : Option GoError
  strictCountedAt : Int
  contextTokenQuota : Int

/-- `tryWallet`. A refreshed `UserQuota` that a failed attempt leaves behind is
read by no later step. -/
def tryWallet (config : BillingConfig) (answers : SessionAnswers) (relayInfo : RelayInfo)
    (preConsumedQuota : Int) (store : BillingStore) :
    Except NewAPIError BillingSession × BillingStore :=
  match getUserQuota config answers.userQuota relayInfo.userId store with
  | .error error => (.error (.newError error.text .queryDataError), store)
  | .ok userQuota =>
    let remaining := config.formatQuota userQuota
    let needed := config.formatQuota preConsumedQuota
    if userQuota ≤ 0 then
      (.error (.forbidden s!"用户额度不足, 剩余额度: {remaining}" .insufficientUserQuota), store)
    else if userQuota - preConsumedQuota < 0 then
      (.error (.forbidden
        s!"预扣费额度失败, 用户剩余额度: {remaining}, 需要预扣费额度: {needed}"
        .insufficientUserQuota), store)
    else
      (BillingSession.new { relayInfo with userQuota := userQuota }
        (.wallet { userId := relayInfo.userId, consumed := 0 })).preConsume config answers.wallet
          answers.contextTokenQuota preConsumedQuota store

def trySubscription (config : BillingConfig) (answers : SessionAnswers) (relayInfo : RelayInfo)
    (preConsumedQuota : Int) (store : BillingStore) :
    Except NewAPIError BillingSession × BillingStore :=
  let subConsume := if preConsumedQuota ≤ 0 then 1 else preConsumedQuota
  (BillingSession.new relayInfo (.subscription
    { requestId := relayInfo.requestId
      userId := relayInfo.userId
      amount := subConsume
      subscriptionId := 0
      preConsumed := 0
      amountTotal := 0
      amountUsedAfter := 0
      planId := 0
      planTitle := "" })).preConsume config answers.subscription answers.contextTokenQuota
        subConsume store

def createSession (config : BillingConfig) (answers : SessionAnswers) (relayInfo : RelayInfo)
    (preConsumedQuota : Int) (store : BillingStore) :
    Except NewAPIError BillingSession × BillingStore :=
  match normalizeBillingPreference relayInfo.billingPreference with
  | .subscriptionOnly => trySubscription config answers relayInfo preConsumedQuota store
  | .walletOnly => tryWallet config answers relayInfo preConsumedQuota store
  | .walletFirst =>
    match tryWallet config answers relayInfo preConsumedQuota store with
    | (.error error, store) =>
      if error.errorCode = .insufficientUserQuota then
        trySubscription config answers relayInfo preConsumedQuota store
      else (.error error, store)
    | created => created
  | .subscriptionFirst =>
    match hasActiveUserSubscription answers.countSubscriptions answers.countedAt relayInfo.userId
        store with
    | .error error => (.error (.newError error.text .queryDataError), store)
    | .ok false => tryWallet config answers relayInfo preConsumedQuota store
    | .ok true =>
      match trySubscription config answers relayInfo preConsumedQuota store with
      | (.error error, store) =>
        if error.errorCode = .insufficientUserQuota then
          match userActiveSubscriptionsAllowWalletOverflow answers.countStrict
              answers.strictCountedAt relayInfo.userId store with
          | .error overflow => (.error (.newError overflow.text .queryDataError), store)
          | .ok true => tryWallet config answers relayInfo preConsumedQuota store
          | .ok false => (.error error, store)
        else (.error error, store)
      | created => created

def newBillingSession (config : BillingConfig) (answers : SessionAnswers) :
    Option RelayInfo → Int → BillingStore → Except NewAPIError BillingSession × BillingStore
  | none, _, store => (.error (.newError "relayInfo is nil" .invalidRequest), store)
  | some relayInfo, preConsumedQuota, store =>
    createSession config answers relayInfo preConsumedQuota store

end NewApi
