import NewApi.BillingSessionCreation

/-!
# Reserve, Settle and Refund

`Refund` only marks the session; the store writes run later, in a job that copies most of what it
needs but reads the funding source when it runs.
-/

namespace NewApi

namespace BillingSession

def reserveFunding (config : BillingConfig) (faults : FundingFaults) (delta : Int)
    (session : BillingSession) (store : BillingStore) :
    Except NewAPIError FundingSource × BillingStore :=
  match session.funding with
  | .wallet funding =>
    match decreaseUserQuota config faults.wallet funding.userId delta false store with
    | (.error error, store) => (.error (.newError error.text .updateDataError), store)
    | (.ok _, store) => (.ok (.wallet { funding with consumed := funding.consumed + delta }), store)
  | .subscription funding =>
    match onSubscriptions (postConsumeUserSubscriptionDelta faults.subscription
        funding.subscriptionId delta) store with
    | (.error error, store) =>
      (.error (.forbidden s!"订阅额度不足或未配置订阅: {error.text}" .insufficientUserQuota), store)
    | (.ok _, store) => (.ok (.subscription funding), store)

def rollbackFundingReserve (config : BillingConfig) (faults : FundingFaults) (delta : Int)
    (funding : FundingSource) (store : BillingStore) : FundingSource × BillingStore :=
  match funding with
  | .wallet funding =>
    match increaseUserQuota config faults.wallet funding.userId delta false store with
    | (.error _, store) => (.wallet funding, store)
    | (.ok _, store) => (.wallet { funding with consumed := funding.consumed - delta }, store)
  | .subscription funding =>
    (.subscription funding, (onSubscriptions (postConsumeUserSubscriptionDelta faults.subscription
      funding.subscriptionId (-delta)) store).2)

def reserveToken (config : BillingConfig) (answers : ReserveAnswers) (tokenRemain delta : Int)
    (session : BillingSession) (store : BillingStore) :
    Except NewAPIError Unit × BillingStore :=
  if delta ≤ 0 ∨ session.relayInfo.isPlayground then (.ok (), store)
  else
    match preConsumeTokenQuota config answers tokenRemain session.relayInfo delta store with
    | (.error error, store) => (.error (.forbidden error.text .preConsumeTokenQuotaFailed), store)
    | (.ok _, store) => (.ok (), store)

structure ReserveCallAnswers where
  funding : FundingFaults
  token : ReserveAnswers
  tokenRemain : Int
  rollback : FundingFaults

def reserve (config : BillingConfig) (answers : ReserveCallAnswers) (targetQuota : Int)
    (session : BillingSession) (store : BillingStore) :
    Option NewAPIError × BillingSession × BillingStore :=
  let delta := targetQuota - session.preConsumedQuota
  if session.settled ∨ session.refunded ∨ session.trusted ∨
      targetQuota ≤ session.preConsumedQuota then (none, session, store)
  else if delta ≤ 0 then (none, session, store)
  else
    match session.reserveFunding config answers.funding delta store with
    | (.error error, store) => (some error, session, store)
    | (.ok funding, store) =>
      match session.reserveToken config answers.token answers.tokenRemain delta store with
      | (.error error, store) =>
        let (funding, store) := rollbackFundingReserve config answers.rollback delta funding store
        (some error, { session with funding := funding }, store)
      | (.ok _, store) =>
        (none,
          { session with
            funding := funding
            preConsumedQuota := session.preConsumedQuota + delta
            tokenConsumed := session.tokenConsumed + delta
            extraReserved := session.extraReserved + delta }.syncRelayInfo, store)

structure SettleAnswers where
  funding : FundingFaults
  token : Option GoError

def settleToken (config : BillingConfig) (fault : Option GoError) (delta : Int)
    (session : BillingSession) (store : BillingStore) : Except GoError Unit × BillingStore :=
  if session.relayInfo.isPlayground then (.ok (), store)
  else if 0 < delta then decreaseTokenQuota config fault session.relayInfo.tokenId delta store
  else increaseTokenQuota config fault session.relayInfo.tokenId (-delta) store

/-- The funding step of `Settle`, skipped once it has gone through. -/
def settleFunding (config : BillingConfig) (faults : FundingFaults) (delta : Int)
    (session : BillingSession) (store : BillingStore) : Except GoError Unit × BillingStore :=
  if session.fundingSettled then (.ok (), store)
  else session.funding.settle config faults delta store

/-- The fields that `Settle` writes once the funding step is done. -/
def markSettled (delta : Int) (session : BillingSession) : BillingSession :=
  { session with
    fundingSettled := true
    settled := true
    relayInfo :=
      { session.relayInfo with
        subscriptionPostDelta :=
          if session.funding.source = .subscription then
            session.relayInfo.subscriptionPostDelta + delta
          else session.relayInfo.subscriptionPostDelta } }

def settle (config : BillingConfig) (answers : SettleAnswers) (actualQuota : Int)
    (session : BillingSession) (store : BillingStore) :
    Option GoError × BillingSession × BillingStore :=
  let delta := actualQuota - session.preConsumedQuota
  if session.settled then (none, session, store)
  else if delta = 0 then (none, { session with settled := true }, store)
  else
    match session.settleFunding config answers.funding delta store with
    | (.error error, store) => (some error, session, store)
    | (.ok _, store) =>
      match session.settleToken config answers.token delta store with
      | (.error error, store) => (some error, session.markSettled delta, store)
      | (.ok _, store) => (none, session.markSettled delta, store)

def needsRefund (session : BillingSession) : Bool :=
  if session.settled || session.refunded || session.fundingSettled then false
  else if 0 < session.tokenConsumed then true
  else
    match session.funding with
    | .subscription funding => 0 < funding.preConsumed
    | .wallet _ => false

structure RefundJob where
  tokenId : Int
  isPlayground : Bool
  tokenConsumed : Int
  extraReserved : Int
  subscriptionId : Int
deriving DecidableEq, Repr

def refund (session : BillingSession) : BillingSession × Option RefundJob :=
  if session.settled || session.refunded || !session.needsRefund then (session, none)
  else
    ({ session with refunded := true },
      some
        { tokenId := session.relayInfo.tokenId
          isPlayground := session.relayInfo.isPlayground
          tokenConsumed := session.tokenConsumed
          extraReserved := session.extraReserved
          subscriptionId := session.relayInfo.subscriptionId })

structure RefundAnswers where
  wallet : Option GoError
  attempts : Nat → RefundFaults
  extra : RowTxFaults
  token : Option GoError

def RefundAnswers.succeeds : RefundAnswers where
  wallet := none
  attempts := fun _ => .succeeds
  extra := .succeeds
  token := none

/-- The goroutine of `Refund`; its errors are only logged. -/
def RefundJob.run (config : BillingConfig) (answers : RefundAnswers) (job : RefundJob)
    (funding : FundingSource) (store : BillingStore) : BillingStore :=
  let store := (funding.refund config answers.wallet answers.attempts store).2
  let store :=
    if 0 < job.extraReserved ∧ funding.source = .subscription ∧ 0 < job.subscriptionId then
      (onSubscriptions (postConsumeUserSubscriptionDelta answers.extra job.subscriptionId
        (-job.extraReserved)) store).2
    else store
  if 0 < job.tokenConsumed ∧ job.isPlayground = false then
    (increaseTokenQuota config answers.token job.tokenId job.tokenConsumed store).2
  else store

end BillingSession

/-- Wallets and subscriptions are untouched. -/
def TokenOnly (before after : BillingStore) : Prop :=
  after.users = before.users ∧ after.queuedUserQuota = before.queuedUserQuota ∧
    after.subscriptions = before.subscriptions

theorem TokenOnly.refl (store : BillingStore) : TokenOnly store store :=
  ⟨rfl,rfl,rfl⟩

theorem changeTokenQuota_frame (queues : Bool) (fault : Option GoError) (quota id change : Int)
    (store : BillingStore) :
    TokenOnly store (changeQuota queues fault quota (·.queueTokenQuota id change)
      (·.addTokenQuota id change) store).2 :=
  changeQuota_cases (motive := fun outcome => TokenOnly store outcome.2)
    (fun _ => TokenOnly.refl store) ⟨rfl,rfl,rfl⟩ ⟨rfl,rfl,rfl⟩

variable (config : BillingConfig) (answers : ReserveAnswers)

theorem tryReserveTokenQuota_frame
    (id quota : Int) (unlimited : Bool) (store : BillingStore) :
    TokenOnly store (tryReserveTokenQuota config answers id quota unlimited store).2 :=
  tryReserveTokenQuota_cases (motive := fun outcome => TokenOnly store outcome.2)
    (fun _ => TokenOnly.refl store) (TokenOnly.refl store) (fun _ => TokenOnly.refl store)
    ⟨rfl,rfl,rfl⟩ ⟨rfl,rfl,rfl⟩

theorem preConsumeTokenQuota_frame
    (tokenRemain quota : Int) (relayInfo : RelayInfo) (store : BillingStore) :
    TokenOnly store (preConsumeTokenQuota config answers tokenRemain relayInfo quota store).2 := by
  have reserved := tryReserveTokenQuota_frame config answers relayInfo.tokenId quota
    relayInfo.tokenUnlimited store
  unfold preConsumeTokenQuota
  split_ifs
  · exact TokenOnly.refl store
  · exact TokenOnly.refl store
  · split <;> next called => rwa [called] at reserved

namespace BillingSession

theorem reserveToken_frame
    (tokenRemain delta : Int) (session : BillingSession) (store : BillingStore) :
    TokenOnly store (session.reserveToken config answers tokenRemain delta store).2 := by
  have reserved := preConsumeTokenQuota_frame config answers tokenRemain delta session.relayInfo
    store
  unfold reserveToken
  split_ifs
  · exact TokenOnly.refl store
  · split <;> next called => rwa [called] at reserved

theorem settleToken_frame (fault : Option GoError) (delta : Int)
    (session : BillingSession) (store : BillingStore) :
    TokenOnly store (session.settleToken config fault delta store).2 := by
  unfold settleToken
  split_ifs
  · exact TokenOnly.refl store
  · exact changeTokenQuota_frame _ _ _ _ _ store
  · exact changeTokenQuota_frame _ _ _ _ _ store

end BillingSession

end NewApi
