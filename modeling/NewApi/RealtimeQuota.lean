import NewApi.FundingMoves
import NewApi.QuotaMath

/-! # What a realtime session is charged with -/

namespace NewApi

open BillingStore RelayInfo

/-- `RealtimeUsage`, with the fields of its two details that the handler sums. -/
@[ext]
structure RealtimeUsage where
  totalTokens : Int
  inputTokens : Int
  outputTokens : Int
  cachedTokens : Int
  inputTextTokens : Int
  inputAudioTokens : Int
  outputTextTokens : Int
  outputAudioTokens : Int
deriving DecidableEq, Repr

namespace RealtimeUsage

instance : Zero RealtimeUsage := ⟨⟨0, 0, 0, 0, 0, 0, 0, 0⟩⟩

instance : Add RealtimeUsage where
  add first second :=
    { totalTokens := first.totalTokens + second.totalTokens
      inputTokens := first.inputTokens + second.inputTokens
      outputTokens := first.outputTokens + second.outputTokens
      cachedTokens := first.cachedTokens + second.cachedTokens
      inputTextTokens := first.inputTextTokens + second.inputTextTokens
      inputAudioTokens := first.inputAudioTokens + second.inputAudioTokens
      outputTextTokens := first.outputTextTokens + second.outputTextTokens
      outputAudioTokens := first.outputAudioTokens + second.outputAudioTokens }

@[simp]
theorem totalTokens_zero : (0 : RealtimeUsage).totalTokens = 0 := rfl

@[simp]
theorem totalTokens_add (first second : RealtimeUsage) :
    (first + second).totalTokens = first.totalTokens + second.totalTokens := rfl

/-- Usages add up field by field. -/
instance : AddCancelCommMonoid RealtimeUsage where
  add_assoc _ _ _ := by ext <;> exact Int.add_assoc _ _ _
  zero_add _ := by ext <;> exact Int.zero_add _
  add_zero _ := by ext <;> exact Int.add_zero _
  add_comm _ _ := by ext <;> exact Int.add_comm _ _
  add_left_cancel _ _ _ same := by
    have fields := RealtimeUsage.ext_iff.mp same
    ext
    all_goals
      apply Int.add_left_cancel
      tauto
  nsmul := nsmulRec

end RealtimeUsage

structure AudioPricing where
  usePrice : Bool
  modelPrice : Rat
  quotaPerUnit : Rat
  completionRatio : Rat
  audioRatio : Rat
  audioCompletionRatio : Rat
  modelRatio : Rat
  groupRatio : Rat
deriving DecidableEq, Repr

def calculateAudioQuota (pricing : AudioPricing) (usage : RealtimeUsage) :
    Int × Option QuotaClamp :=
  if pricing.usePrice then
    quotaFromDecimalChecked (pricing.modelPrice * pricing.quotaPerUnit * pricing.groupRatio)
  else
    let ratio := pricing.groupRatio * pricing.modelRatio
    let quota := (usage.inputTextTokens + usage.outputTextTokens * pricing.completionRatio +
      usage.inputAudioTokens * pricing.audioRatio +
      usage.outputAudioTokens * pricing.audioRatio * pricing.audioCompletionRatio) * ratio
    quotaFromDecimalChecked (if ratio ≠ 0 ∧ quota ≤ 0 then 1 else quota)

theorem quotaFromDecimalChecked_nonneg {value : Rat} (nonneg : 0 ≤ value) :
    0 ≤ (quotaFromDecimalChecked value).1 := by
  have rounded := roundHalfAway_nonneg nonneg
  unfold quotaFromDecimalChecked saturateQuota
  split_ifs with tooLarge tooSmall
  · exact Int.le_of_lt (by decide : 0 < maxQuota)
  · omega
  · exact rounded

theorem calculateAudioQuota_nonneg {pricing : AudioPricing} (perToken : pricing.usePrice = false)
    (usage : RealtimeUsage) : 0 ≤ (calculateAudioQuota pricing usage).1 := by
  simp only [calculateAudioQuota,perToken,Bool.false_eq_true,if_false]
  apply quotaFromDecimalChecked_nonneg
  split_ifs with raised
  · exact zero_le_one
  · by_cases free : pricing.groupRatio * pricing.modelRatio = 0
    · rw [free,mul_zero]
    · by_contra negative
      exact raised ⟨free,(not_le.mp negative).le⟩

def postConsumeFunding (config : BillingConfig) (faults : FundingFaults) (relayInfo : RelayInfo)
    (quota : Int) (store : BillingStore) : Except GoError Unit × BillingStore :=
  if relayInfo.billingSource = .subscription then
    if relayInfo.subscriptionId = 0 then (.error (.message "subscription id is missing"), store)
    else if quota ≠ 0 then
      onSubscriptions
        (postConsumeUserSubscriptionDelta faults.subscription relayInfo.subscriptionId quota) store
    else (.ok (), store)
  else if 0 < quota then decreaseUserQuota config faults.wallet relayInfo.userId quota false store
  else increaseUserQuota config faults.wallet relayInfo.userId (-quota) false store

def postConsumeToken (config : BillingConfig) (fault : Option GoError) (relayInfo : RelayInfo)
    (quota : Int) (store : BillingStore) : Except GoError Unit × BillingStore :=
  if relayInfo.isPlayground then (.ok (), store)
  else if 0 < quota then decreaseTokenQuota config fault relayInfo.tokenId quota store
  else increaseTokenQuota config fault relayInfo.tokenId (-quota) store

def RelayInfo.addPostDelta (relayInfo : RelayInfo) (quota : Int) : RelayInfo :=
  { relayInfo with
    subscriptionPostDelta :=
      if relayInfo.billingSource = .subscription then relayInfo.subscriptionPostDelta + quota
      else relayInfo.subscriptionPostDelta }

def postConsumeQuota (config : BillingConfig) (answers : BillingSession.SettleAnswers)
    (relayInfo : RelayInfo) (quota : Int) (store : BillingStore) :
    Option GoError × RelayInfo × BillingStore :=
  match postConsumeFunding config answers.funding relayInfo quota store with
  | (.error error, store) => (some error, relayInfo, store)
  | (.ok _, store) =>
    match postConsumeToken config answers.token relayInfo quota store with
    | (.error error, store) => (some error, relayInfo.addPostDelta quota, store)
    | (.ok _, store) => (none, relayInfo.addPostDelta quota, store)

/-- What one turn reads: the user's quota, whether the token is unlimited and what
remains of it, and the settings of the moment. -/
structure TurnAnswers where
  userQuota : UserQuotaRead
  token : Except GoError (Bool × Int)
  pricing : AudioPricing

def preWssConsumeQuota (config : BillingConfig) (answers : BillingSession.SettleAnswers)
    (turn : TurnAnswers) (usePrice : Bool) (relayInfo : RelayInfo) (usage : RealtimeUsage)
    (store : BillingStore) : Option GoError × RelayInfo × BillingStore :=
  if usePrice then (none, relayInfo, store)
  else
    match getUserQuota config turn.userQuota relayInfo.userId store, turn.token with
    | .error error, _ => (some error, relayInfo, store)
    | .ok _, .error error => (some error, relayInfo, store)
    | .ok userQuota, .ok (unlimited, remainQuota) =>
      let quota := (calculateAudioQuota { turn.pricing with usePrice := usePrice } usage).1
      let needed := config.formatQuota quota
      if userQuota < quota then
        let owned := config.formatQuota userQuota
        (some (.message s!"user quota is not enough, user quota: {owned}, need quota: {needed}"),
          relayInfo, store)
      else if unlimited = false ∧ remainQuota < quota then
        let remains := config.formatQuota remainQuota
        (some (.message
          s!"token quota is not enough, token remain quota: {remains}, need quota: {needed}"),
          relayInfo, store)
      else postConsumeQuota config answers relayInfo quota store

/-- Who pays: a billing session, or for a free model nobody has asked yet. -/
inductive Payer where
  | session (billing : BillingSession)
  | direct (relayInfo : RelayInfo)

namespace Payer

def relayInfo : Payer → RelayInfo
  | .session billing => billing.relayInfo
  | .direct relayInfo => relayInfo

def withRelayInfo (relayInfo : RelayInfo) : Payer → Payer
  | .session billing => .session { billing with relayInfo := relayInfo }
  | .direct _ => .direct relayInfo

def settleBilling (config : BillingConfig) (answers : BillingSession.SettleAnswers)
    (actualQuota : Int) (store : BillingStore) : Payer → Option GoError × Payer × BillingStore
  | .session billing =>
    let (error, billing, store) := billing.settle config answers actualQuota store
    (error, .session billing, store)
  | .direct relayInfo =>
    let quotaDelta := actualQuota - relayInfo.finalPreConsumedQuota
    if quotaDelta ≠ 0 then
      let (error, relayInfo, store) := postConsumeQuota config answers relayInfo quotaDelta store
      (error, .direct relayInfo, store)
    else (none, .direct relayInfo, store)

end Payer

/-- The quota that `PostWssConsumeQuota` settles with; `tiered` is the answer of
`TryTieredSettle`. -/
def postWssQuota (pricing : AudioPricing) (tiered : Option Int) (usage : RealtimeUsage) : Int :=
  if usage.totalTokens = 0 then 0
  else tiered.getD (calculateAudioQuota pricing usage).1

def turnQuota (turn : TurnAnswers) (usage : RealtimeUsage) : Int :=
  (calculateAudioQuota { turn.pricing with usePrice := false } usage).1

theorem turnQuota_nonneg (turn : TurnAnswers) (usage : RealtimeUsage) : 0 ≤ turnQuota turn usage :=
  calculateAudioQuota_nonneg rfl usage

/-- The source that `PostConsumeQuota` charges. -/
def RelayInfo.funding (relayInfo : RelayInfo) : FundingSource :=
  payingSource (relayInfo.billingSource = .subscription) relayInfo.userId relayInfo.subscriptionId

section

variable (config : BillingConfig)

theorem postConsumeToken_frame (relayInfo : RelayInfo) (quota : Int) (store : BillingStore) :
    ∃ after, postConsumeToken config none relayInfo quota store = (.ok (), after) ∧
      TokenOnly store after := by
  unfold postConsumeToken
  split_ifs with playground positive
  · exact ⟨store,rfl,TokenOnly.refl store⟩
  · exact ⟨_,Prod.ext (changeQuota_succeeds (by omega)) rfl,changeTokenQuota_frame _ _ _ _ _ store⟩
  · exact ⟨_,Prod.ext (changeQuota_succeeds (by omega)) rfl,changeTokenQuota_frame _ _ _ _ _ store⟩

variable {origin : FundingOrigin} {taken : Int} {relayInfo : RelayInfo} {before : BillingStore}
  (holds : Holds origin taken relayInfo.funding before)

include holds

theorem subscriptionId_ne_zero (bySubscription : relayInfo.billingSource = .subscription) :
    relayInfo.subscriptionId ≠ 0 := by
  simp only [funding,payingSource,bySubscription,decide_true,if_true,Holds] at holds
  obtain ⟨row,found,-⟩ := holds
  have positive := row.idPos
  have sameId := KeyedTable.key_of_find? found
  omega

variable {quota : Int} {after : BillingStore}

/-- A charge that changes something is the one a billing session settles with. -/
theorem postConsumeFunding_eq_settle (faults : FundingFaults) (nonzero : quota ≠ 0) :
    postConsumeFunding config faults relayInfo quota before =
      relayInfo.funding.settle config faults quota before := by
  unfold postConsumeFunding
  by_cases bySubscription : relayInfo.billingSource = .subscription
  · have named := subscriptionId_ne_zero holds bySubscription
    simp [funding,payingSource,bySubscription,FundingSource.settle,named]
  · simp [funding,payingSource,bySubscription,FundingSource.settle,nonzero]

theorem postConsumeFunding_zero :
    ∃ after, postConsumeFunding config .succeeds relayInfo 0 before = (.ok (), after) ∧
      Holds origin taken relayInfo.funding after := by
  unfold postConsumeFunding
  by_cases bySubscription : relayInfo.billingSource = .subscription
  · have named := subscriptionId_ne_zero holds bySubscription
    exact ⟨before,by simp [bySubscription,named],holds⟩
  · simp only [funding,bySubscription] at holds ⊢
    obtain ⟨userExists,balance⟩ := holds
    have refined : Refines (fun _ ledger => ledger.takeWallet relayInfo.userId (-0)) before
        (increaseUserQuota config none relayInfo.userId 0 false before) :=
      increaseUserQuota_refines none false userExists
    have written : (increaseUserQuota config none relayInfo.userId 0 false before).1 = .ok () :=
      changeQuota_succeeds le_rfl
    rcases called : increaseUserQuota config none relayInfo.userId 0 false before with
      ⟨result,after⟩
    rw [called] at refined written
    cases written
    obtain ⟨sameLedger,sameRows⟩ := refined
    refine ⟨after,by simpa [FundingFaults.succeeds] using called,?_,?_⟩
    · rwa [sameRows.1]
    · rw [sameLedger]
      simpa using balance

theorem postConsumeFunding_cases (nonneg : 0 ≤ quota) {result : Except GoError Unit}
    (called : postConsumeFunding config .succeeds relayInfo quota before = (result, after)) :
    (∃ error, result = .error error ∧ Holds origin taken relayInfo.funding after) ∨
      (result = .ok () ∧ Holds origin (taken + quota) relayInfo.funding after) := by
  by_cases zero : quota = 0
  · subst zero
    obtain ⟨same,written,kept⟩ := postConsumeFunding_zero config holds
    rw [written] at called
    cases called
    rw [add_zero]
    exact .inr ⟨rfl,kept⟩
  · rw [postConsumeFunding_eq_settle config holds .succeeds zero] at called
    obtain ⟨-,outcome⟩ := settle_cases holds called
    rwa [settledTaken_of_raise holds (by omega)] at outcome

def overdrawn (relayInfo : RelayInfo) (quota : Int) (store : BillingStore) : Bool :=
  relayInfo.billingSource = .subscription ∧ quota ≠ 0 ∧
    (store.subscriptions.subscriptions.find? relayInfo.subscriptionId).all fun row =>
      0 < row.amountTotal ∧ row.amountTotal < row.amountUsed + quota

theorem postConsumeFunding_ok_iff (nonneg : 0 ≤ quota) :
    (postConsumeFunding config .succeeds relayInfo quota before).1 = .ok () ↔
      overdrawn relayInfo quota before = false := by
  by_cases zero : quota = 0
  · subst zero
    obtain ⟨after,written,-⟩ := postConsumeFunding_zero config holds
    simp [written,overdrawn]
  rw [postConsumeFunding_eq_settle config holds .succeeds zero]
  by_cases bySubscription : relayInfo.billingSource = .subscription
  · simp only [funding,payingSource,bySubscription,decide_true,if_true] at holds ⊢
    obtain ⟨row,found,-⟩ := holds
    have used : clampUsed (row.amountUsed + quota) = row.amountUsed + quota :=
      clampUsed_of_nonneg (Int.add_nonneg row.usedNonneg nonneg)
    rw [subscriptionSettle_ok_iff found zero,used]
    simp [overdrawn,bySubscription,zero,found,FundingFaults.succeeds]
  · simp only [funding,payingSource,bySubscription,decide_false,Bool.false_eq_true,if_false]
    rw [walletSettle_ok_iff _ before zero]
    simp [overdrawn,bySubscription,FundingFaults.succeeds]

def settleSucceeds : BillingSession.SettleAnswers where
  funding := .succeeds
  token := none

variable {error : Option GoError} {relayInfo' : RelayInfo}

theorem postConsumeQuota_cases (nonneg : 0 ≤ quota)
    (called : postConsumeQuota config settleSucceeds relayInfo quota before = (error, relayInfo',
      after)) :
    (∃ postDelta, relayInfo' = { relayInfo with subscriptionPostDelta := postDelta }) ∧
      ((overdrawn relayInfo quota before = true ∧ error ≠ none ∧
          Holds origin taken relayInfo.funding after) ∨
        (overdrawn relayInfo quota before = false ∧ error = none ∧
          Holds origin (taken + quota) relayInfo.funding after)) := by
  have roomLeft := postConsumeFunding_ok_iff config holds nonneg
  rcases charged : postConsumeFunding config .succeeds relayInfo quota before with ⟨result,middle⟩
  rw [charged] at roomLeft
  unfold postConsumeQuota at called
  simp only [settleSucceeds,charged] at called
  rcases postConsumeFunding_cases config holds nonneg charged with
    ⟨failure,rfl,kept⟩ | ⟨rfl,moved⟩
  · cases called
    refine ⟨⟨_,rfl⟩,.inl ⟨?_,by simp,kept⟩⟩
    rw [← Bool.not_eq_false]
    intro room
    cases roomLeft.mpr room
  · obtain ⟨final,tokenWritten,tokenOnly⟩ := postConsumeToken_frame config relayInfo quota middle
    dsimp only at called
    rw [tokenWritten] at called
    cases called
    exact ⟨⟨_,rfl⟩,.inr ⟨roomLeft.mp rfl,rfl,moved.frame tokenOnly⟩⟩

/-- A read fails, or the user, the token or the subscription cannot pay. -/
def turnRefused (config : BillingConfig) (turn : TurnAnswers) (relayInfo : RelayInfo)
    (usage : RealtimeUsage) (store : BillingStore) : Bool :=
  match getUserQuota config turn.userQuota relayInfo.userId store, turn.token with
  | .ok userQuota, .ok (unlimited, remainQuota) =>
    userQuota < turnQuota turn usage ∨ (unlimited = false ∧ remainQuota < turnQuota turn usage) ∨
      overdrawn relayInfo (turnQuota turn usage) store
  | _, _ => true

theorem preWssConsumeQuota_cases (turn : TurnAnswers) (usage : RealtimeUsage)
    (called : preWssConsumeQuota config settleSucceeds turn false relayInfo usage before = (error,
      relayInfo', after)) :
    (∃ postDelta, relayInfo' = { relayInfo with subscriptionPostDelta := postDelta }) ∧
      ((turnRefused config turn relayInfo usage before = true ∧ error ≠ none ∧
          Holds origin taken relayInfo.funding after) ∨
        (turnRefused config turn relayInfo usage before = false ∧ error = none ∧
          Holds origin (taken + turnQuota turn usage) relayInfo.funding after)) := by
  unfold preWssConsumeQuota at called
  unfold turnRefused
  simp only [Bool.false_eq_true,if_false] at called
  rcases userRead : getUserQuota config turn.userQuota relayInfo.userId before with
    userFault | userQuota
  · simp only [userRead] at called ⊢
    cases called
    exact ⟨⟨_,rfl⟩,.inl ⟨trivial,by simp,holds⟩⟩
  rcases tokenRead : turn.token with tokenFault | ⟨unlimited,remainQuota⟩
  · simp only [userRead,tokenRead] at called ⊢
    cases called
    exact ⟨⟨_,rfl⟩,.inl ⟨trivial,by simp,holds⟩⟩
  simp only [userRead,tokenRead] at called ⊢
  rw [← turnQuota] at called
  split_ifs at called with userShort tokenShort
  · cases called
    exact ⟨⟨_,rfl⟩,.inl ⟨by simp [userShort],by simp,holds⟩⟩
  · cases called
    exact ⟨⟨_,rfl⟩,.inl ⟨by simp [tokenShort],by simp,holds⟩⟩
  · obtain ⟨sameInfo,outcome⟩ :=
      postConsumeQuota_cases config holds (turnQuota_nonneg turn usage) called
    refine ⟨sameInfo,?_⟩
    simpa only [userShort,tokenShort,false_or,Bool.decide_eq_true] using outcome

end

end NewApi
