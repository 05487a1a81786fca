import NewApi.BillingSession

/-!
# Creating a session is all-or-nothing

A failed attempt gives the token reservation back, so a fallback starts from the ledger that the
first attempt found.
-/

namespace NewApi

open BillingStore BillingSession

/-- What a session's funding source gave up: the wallet of the user, or one of
the user's subscriptions after its due reset. Nothing else of the kind moves,
apart from due resets of other subscriptions. -/
def FundingCharged (reset : UserSubscription → UserSubscription) (relayInfo : RelayInfo)
    (session : BillingSession) (before after : Ledger) : Prop :=
  match session.funding with
  | .wallet funding =>
    after.wallet = (before.takeWallet relayInfo.userId session.preConsumedQuota).wallet ∧
      after.subscriptions = before.subscriptions ∧
      funding.userId = relayInfo.userId ∧ funding.consumed = session.preConsumedQuota
  | .subscription funding =>
    after.wallet = before.wallet ∧
      ∃ row, funding.subscriptionId = row.id ∧ funding.preConsumed = session.preConsumedQuota ∧
        ChargesSubscription reset relayInfo.requestId relayInfo.userId session.preConsumedQuota
          before.subscriptions after.subscriptions row

/-- The ledger after `amount` is taken from the request's token; the playground
has none. -/
def chargeToken (relayInfo : RelayInfo) (amount : Int) (ledger : Ledger) : Ledger :=
  if relayInfo.isPlayground then ledger else ledger.takeToken relayInfo.tokenId amount

section

variable {config : BillingConfig} {before : BillingStore} {amount : Int} {relayInfo : RelayInfo}

abbrev BillingStore.HasToken (store : BillingStore) (relayInfo : RelayInfo) : Prop :=
  relayInfo.isPlayground = false → (store.tokens relayInfo.tokenId).isSome

theorem preConsumeTokenQuota_refines {answers : ReserveAnswers} {tokenRemain quota : Int}
    (tokenExists : before.HasToken relayInfo) :
    Refines (fun _ => chargeToken relayInfo quota) before
      (preConsumeTokenQuota config answers tokenRemain relayInfo quota before) := by
  unfold preConsumeTokenQuota
  split_ifs with negative playground
  · exact refines_error
  · exact refines_of_written (by simp [chargeToken,playground]) (SameRows.refl before)
  · have reserved := tryReserveTokenQuota_refines config before relayInfo.tokenId quota answers
      relayInfo.tokenUnlimited (tokenExists (by simpa using playground))
    split <;> rename_i called <;> rw [called] at reserved
    · exact reserved
    · exact reserved
    · exact ⟨by simpa [reserving,chargeToken,playground] using reserved.1,reserved.2⟩

theorem walletPreConsume_charges (config : BillingConfig) (before : BillingStore)
    (answers : FundingAnswers) (userId : Int) (nonneg : 0 ≤ amount) :
    AllOrNothing before (fun charged after =>
        after = before.ledger.takeWallet userId amount ∧
          charged = .wallet { userId := userId, consumed := amount })
      (FundingSource.preConsume config answers amount
        (.wallet { userId := userId, consumed := 0 }) before) := by
  simp only [FundingSource.preConsume,WalletFunding.preConsume]
  by_cases nothing : amount ≤ 0
  · have zero : amount = 0 := by omega
    rw [if_pos nothing]
    exact ⟨⟨by simp [zero],by simp [zero]⟩,SameRows.refl before⟩
  · have reserved := tryReserveUserQuota_refines config before userId amount answers.wallet
    rw [if_neg nothing]
    rcases called : tryReserveUserQuota config answers.wallet userId amount before
      with ⟨error | _ | _,after⟩ <;> rw [called] at reserved
    · exact reserved
    · exact reserved
    · exact ⟨⟨reserved.1,rfl⟩,reserved.2⟩

theorem subscriptionPreConsume_charges (config : BillingConfig) (answers : FundingAnswers)
    {funding : SubscriptionFunding} (amount : Int)
    (fresh : before.subscriptions.preConsumeRecords funding.requestId = none) :
    AllOrNothing before (fun charged after =>
        after.wallet = before.ledger.wallet ∧ after.tokenRemain = before.ledger.tokenRemain ∧
          after.tokenUsed = before.ledger.tokenUsed ∧
          ∃ paid row, charged = .subscription paid ∧ paid.requestId = funding.requestId ∧
            paid.subscriptionId = row.id ∧ paid.preConsumed = funding.amount ∧
            ChargesSubscription (afterReset answers.subscription.plans answers.calendar answers.now
              before.subscriptions.plans) funding.requestId funding.userId funding.amount
              before.subscriptions after.subscriptions row)
      (FundingSource.preConsume config answers amount (.subscription funding) before) := by
  rcases called : preConsumeUserSubscription answers.subscription answers.calendar answers.now
    funding.requestId funding.userId funding.amount before.subscriptions with ⟨result,after⟩
  simp only [FundingSource.preConsume,SubscriptionFunding.preConsume,onSubscriptions,called]
  cases result with
  | error =>
    have unchanged := preConsumeUserSubscription_error_state called
    subst unchanged
    exact ⟨rfl,SameRows.refl before⟩
  | ok =>
    obtain ⟨row,resultId,amountEq,charges⟩ :=
      preConsumeUserSubscription_charges fresh called
    exact ⟨⟨rfl,rfl,rfl,_,row,rfl,rfl,resultId,amountEq,charges⟩,⟨fun _ => rfl,fun _ => rfl⟩⟩

theorem chargeToken_zero (relayInfo : RelayInfo) (ledger : Ledger) :
    chargeToken relayInfo 0 ledger = ledger := by
  simp [chargeToken]

@[simp]
theorem chargeToken_wallet (relayInfo : RelayInfo) (amount : Int) (ledger : Ledger) :
    (chargeToken relayInfo amount ledger).wallet = ledger.wallet := by
  unfold chargeToken
  split <;> rfl

@[simp]
theorem chargeToken_subscriptions (relayInfo : RelayInfo) (amount : Int) (ledger : Ledger) :
    (chargeToken relayInfo amount ledger).subscriptions = ledger.subscriptions := by
  unfold chargeToken
  split <;> rfl

theorem rollbackToken_ledger (config : BillingConfig) (session : BillingSession) {start : Ledger}
    (tokenExists : before.HasToken session.relayInfo) (nonneg : 0 ≤ session.tokenConsumed)
    (reserved : before.ledger = chargeToken session.relayInfo session.tokenConsumed start) :
    (session.rollbackToken config none before).ledger = start ∧
      SameRows before (session.rollbackToken config none before) := by
  unfold rollbackToken
  split_ifs with needed
  · have returned : Refines (fun _ ledger =>
        ledger.takeToken session.relayInfo.tokenId (-session.tokenConsumed)) before
          (increaseTokenQuota config none session.relayInfo.tokenId session.tokenConsumed before) :=
      increaseTokenQuota_refines none (tokenExists needed.2)
    have succeeded : (increaseTokenQuota config none session.relayInfo.tokenId
        session.tokenConsumed before).1 = .ok () := changeQuota_succeeds nonneg
    generalize increaseTokenQuota config none session.relayInfo.tokenId session.tokenConsumed
      before = outcome at returned succeeded ⊢
    obtain ⟨result,after⟩ := outcome
    cases succeeded
    refine ⟨?_,returned.2⟩
    rw [returned.1,reserved]
    simp [chargeToken,needed.2]
  · refine ⟨?_,SameRows.refl before⟩
    rw [reserved]
    by_cases playground : session.relayInfo.isPlayground
    · simp [chargeToken,playground]
    · have zero : session.tokenConsumed = 0 := by
        have := not_and.mp needed
        simp [playground] at this
        omega
      rw [zero,chargeToken_zero]

variable {answers : AttemptAnswers} {contextTokenQuota quota : Int}

theorem reserveRequestToken_charges (config : BillingConfig) (answers : AttemptAnswers)
    (session : BillingSession) (tokenExists : before.HasToken session.relayInfo)
    (nonneg : 0 ≤ amount) (unreserved : session.tokenConsumed = 0) :
    AllOrNothing before (fun reserved after =>
        reserved = { session with tokenConsumed := amount } ∧
          after = chargeToken session.relayInfo amount before.ledger)
      (session.reserveRequestToken config answers amount before) := by
  unfold reserveRequestToken
  split_ifs with positive
  · have charged : Refines (fun _ => chargeToken session.relayInfo amount) before
        (preConsumeTokenQuota config answers.token answers.tokenRemain session.relayInfo amount
          before) := preConsumeTokenQuota_refines tokenExists
    split <;> rename_i called <;> rw [called] at charged
    · exact charged
    · exact ⟨⟨rfl,charged.1⟩,charged.2⟩
  · have zero : amount = 0 := by omega
    exact ⟨⟨by rw [zero,← unreserved],by rw [zero,chargeToken_zero]⟩,SameRows.refl before⟩

theorem preConsume_allOrNothing {funding : FundingSource}
    (post : FundingSource → Ledger → Ledger → Prop)
    (amountEq : (new relayInfo funding).effectiveQuota config contextTokenQuota
      quota = amount) (nonneg : 0 ≤ amount) (tokenExists : before.HasToken relayInfo)
    (rollbackFine : answers.tokenRollback = none) (funded : ∀ middle : BillingStore,
      middle.ledger = chargeToken relayInfo amount before.ledger →
      AllOrNothing middle (fun charged after => post charged middle.ledger after)
        (funding.preConsume config answers.funding amount middle)) :
    AllOrNothing before (fun session after => ∃ charged trusted,
        session = syncRelayInfo
          { new relayInfo charged with
            trusted := trusted
            tokenConsumed := amount
            preConsumedQuota := amount } ∧
        post charged (chargeToken relayInfo amount before.ledger) after)
      ((new relayInfo funding).preConsume config answers contextTokenQuota quota
        before) := by
  unfold preConsume
  rw [amountEq]
  generalize trustEq : ((new relayInfo funding).shouldTrust config
    contextTokenQuota || (new relayInfo funding).trusted) = trusted
  dsimp only
  have reserved := reserveRequestToken_charges config answers
    { new relayInfo funding with trusted := trusted } tokenExists nonneg rfl
  generalize reserveRequestToken config answers amount _ before = outcome
    at reserved ⊢
  obtain ⟨result,middle⟩ := outcome
  cases result with
  | error => exact reserved
  | ok =>
    obtain ⟨⟨rfl,reservedLedger⟩,rows⟩ := reserved
    have charged : middle.ledger = chargeToken relayInfo amount before.ledger := reservedLedger
    have fundingStep := funded middle charged
    dsimp only [new]
    generalize funding.preConsume config answers.funding amount middle = outcome at fundingStep ⊢
    obtain ⟨result,after⟩ := outcome
    cases result with
    | error =>
      have afterToken : after.HasToken relayInfo := by
        rwa [BillingStore.HasToken,fundingStep.2.2,rows.2]
      obtain ⟨undone,undoneRows⟩ := rollbackToken_ledger config
        { new relayInfo funding with trusted := trusted, tokenConsumed := amount }
        afterToken nonneg (fundingStep.1.trans charged)
      rw [rollbackFine]
      exact ⟨undone,(rows.trans fundingStep.2).trans undoneRows⟩
    | ok value =>
      refine ⟨⟨value,trusted,rfl,?_⟩,rows.trans fundingStep.2⟩
      rw [← charged]
      exact fundingStep.1

end

structure SessionCreated (reset : UserSubscription → UserSubscription) (relayInfo : RelayInfo)
    (session : BillingSession) (before after : Ledger) : Prop where
  fundingCharged : FundingCharged reset relayInfo session before after
  tokenRemain : after.tokenRemain = (chargeToken relayInfo session.preConsumedQuota before).tokenRemain
  tokenUsed : after.tokenUsed = (chargeToken relayInfo session.preConsumedQuota before).tokenUsed
  nonneg : 0 ≤ session.preConsumedQuota
  tokenConsumed : session.tokenConsumed = session.preConsumedQuota
  extraReserved : session.extraReserved = 0
  unfinished : session.fundingSettled = false ∧ session.settled = false ∧ session.refunded = false
  sameRequest : session.relayInfo.tokenId = relayInfo.tokenId ∧
    session.relayInfo.isPlayground = relayInfo.isPlayground
  synced : ∀ funding, session.funding = .subscription funding →
    session.relayInfo.subscriptionId = funding.subscriptionId ∧
      funding.requestId = relayInfo.requestId

theorem effectiveQuota_nonneg {config : BillingConfig} {contextTokenQuota quota : Int}
    (session : BillingSession) (nonneg : 0 ≤ quota) :
    0 ≤ session.effectiveQuota config contextTokenQuota quota := by
  unfold effectiveQuota
  split <;> omega

section

variable {config : BillingConfig} {contextTokenQuota quota : Int} {relayInfo : RelayInfo}
  {before : BillingStore} {answers : AttemptAnswers}

theorem walletSession_allOrNothing (reset : UserSubscription → UserSubscription)
    (nonneg : 0 ≤ quota) (tokenExists : before.HasToken relayInfo)
    (rollbackFine : answers.tokenRollback = none) :
    AllOrNothing before (fun session after =>
        SessionCreated reset relayInfo session before.ledger after)
      ((new relayInfo (.wallet { userId := relayInfo.userId, consumed := 0 })).preConsume
        config answers contextTokenQuota quota before) := by
  generalize amountEq : (new relayInfo (.wallet
    { userId := relayInfo.userId, consumed := 0 })).effectiveQuota config contextTokenQuota
      quota = amount
  have amountNonneg : 0 ≤ amount := amountEq ▸ effectiveQuota_nonneg _ nonneg
  refine (preConsume_allOrNothing (fun charged middle after =>
    after = middle.takeWallet relayInfo.userId amount ∧
      charged = .wallet { userId := relayInfo.userId, consumed := amount }) amountEq amountNonneg
    tokenExists rollbackFine fun middle _ => walletPreConsume_charges config middle
      answers.funding relayInfo.userId amountNonneg).mono ?_
  rintro session after ⟨charged,trusted,rfl,rfl,rfl⟩
  refine ⟨⟨?_,by simp,rfl,rfl⟩,rfl,rfl,amountNonneg,rfl,rfl,⟨rfl,rfl,rfl⟩,
    (syncedRelayInfo_request _).2,?_⟩
  · simp [Ledger.takeWallet,syncRelayInfo]
  · intro funding isSubscription
    cases isSubscription

theorem shouldTrust_subscription (relayInfo : RelayInfo) (funding : SubscriptionFunding) :
    (new relayInfo (.subscription funding)).shouldTrust config contextTokenQuota =
      false := by
  simp [shouldTrust,new,FundingSource.source]

theorem subscriptionSession_allOrNothing {funding : SubscriptionFunding} (positive : 0 < quota)
    (amountEq : funding.amount = quota) (sameRequest : funding.requestId = relayInfo.requestId)
    (sameUser : funding.userId = relayInfo.userId)
    (fresh : before.subscriptions.preConsumeRecords relayInfo.requestId = none)
    (tokenExists : before.HasToken relayInfo) (rollbackFine : answers.tokenRollback = none) :
    AllOrNothing before (fun session after =>
        SessionCreated (afterReset answers.funding.subscription.plans answers.funding.calendar
          answers.funding.now before.subscriptions.plans) relayInfo session before.ledger after)
      ((new relayInfo (.subscription funding)).preConsume config answers
        contextTokenQuota quota before) := by
  have untrusted : (new relayInfo (.subscription funding)).effectiveQuota config
      contextTokenQuota quota = quota := by
    simp [effectiveQuota,shouldTrust_subscription]
  let reset := afterReset answers.funding.subscription.plans answers.funding.calendar
    answers.funding.now before.subscriptions.plans
  let post (charged : FundingSource) (middle after : Ledger) : Prop :=
    after.wallet = middle.wallet ∧ after.tokenRemain = middle.tokenRemain ∧
      after.tokenUsed = middle.tokenUsed ∧
      ∃ chargedFunding row, charged = .subscription chargedFunding ∧
        chargedFunding.requestId = relayInfo.requestId ∧ chargedFunding.subscriptionId = row.id ∧
        chargedFunding.preConsumed = quota ∧
        ChargesSubscription reset relayInfo.requestId relayInfo.userId quota before.subscriptions
          after.subscriptions row
  have funded : ∀ middle : BillingStore,
      middle.ledger = chargeToken relayInfo quota before.ledger →
      AllOrNothing middle (fun charged after => post charged middle.ledger after)
        (FundingSource.preConsume config answers.funding quota (.subscription funding) middle) := by
    intro middle reserved
    have sameTables : middle.subscriptions = before.subscriptions := by
      have := congrArg Ledger.subscriptions reserved
      rwa [chargeToken_subscriptions] at this
    have middleFresh : middle.subscriptions.preConsumeRecords funding.requestId = none := by
      rwa [sameTables,sameRequest]
    have charged := subscriptionPreConsume_charges config answers.funding quota middleFresh
    rw [sameTables,amountEq,sameUser,sameRequest] at charged
    exact charged
  refine (preConsume_allOrNothing post untrusted positive.le tokenExists rollbackFine funded).mono ?_
  rintro session after ⟨charged,trusted,rfl,wallet,remain,used,chargedFunding,row,rfl,
    request,rowId,preConsumed,charges⟩
  refine ⟨⟨by simpa using wallet,row,rowId,preConsumed,charges⟩,remain,used,positive.le,rfl,
    rfl,⟨rfl,rfl,rfl⟩,(syncedRelayInfo_request _).2,?_⟩
  intro other isSubscription
  exact ⟨syncedRelayInfo_subscriptionId isSubscription,by
    cases isSubscription
    exact request⟩

variable (config) {answers : SessionAnswers} {preConsumedQuota : Int}

def SessionAnswers.reset (answers : SessionAnswers) (plans : Int → Option SubscriptionPlan) :
    UserSubscription → UserSubscription :=
  afterReset answers.subscription.funding.subscription.plans answers.subscription.funding.calendar
    answers.subscription.funding.now plans

abbrev CreatesSession (answers : SessionAnswers) (relayInfo : RelayInfo) (before : BillingStore) :
    Except NewAPIError BillingSession × BillingStore → Prop :=
  AllOrNothing before fun session after =>
    SessionCreated (answers.reset before.subscriptions.plans) relayInfo session before.ledger after

/-- The store can charge this request: its token row exists unless it comes from
the playground, no record of its request id exists, and rolling back a token
reservation succeeds. -/
structure Chargeable (answers : SessionAnswers) (relayInfo : RelayInfo) (store : BillingStore) :
    Prop where
  tokenExists : relayInfo.isPlayground = false → (store.tokens relayInfo.tokenId).isSome
  requestIdFresh : store.subscriptions.preConsumeRecords relayInfo.requestId = none
  walletRollback : answers.wallet.tokenRollback = none
  subscriptionRollback : answers.subscription.tokenRollback = none

theorem tryWallet_allOrNothing (nonneg : 0 ≤ preConsumedQuota)
    (chargeable : Chargeable answers relayInfo before) :
    CreatesSession answers relayInfo before
      (tryWallet config answers relayInfo preConsumedQuota before) := by
  unfold tryWallet
  split
  · exact ⟨rfl,SameRows.refl before⟩
  · next userQuota _ =>
    split_ifs
    · exact ⟨rfl,SameRows.refl before⟩
    · exact ⟨rfl,SameRows.refl before⟩
    · have tokenExists : before.HasToken { relayInfo with userQuota := userQuota } :=
        chargeable.tokenExists
      refine (walletSession_allOrNothing (answers.reset before.subscriptions.plans) nonneg
        tokenExists chargeable.walletRollback).mono fun session after created => ?_
      exact { created with }

theorem trySubscription_allOrNothing (preConsumedQuota : Int)
    (chargeable : Chargeable answers relayInfo before) :
    CreatesSession answers relayInfo before
      (trySubscription config answers relayInfo preConsumedQuota before) := by
  refine subscriptionSession_allOrNothing ?_ rfl rfl rfl chargeable.requestIdFresh
    chargeable.tokenExists chargeable.subscriptionRollback
  split <;> omega

theorem Chargeable.of_ledger {after : BillingStore} (chargeable : Chargeable answers relayInfo before)
    (ledgerEq : after.ledger = before.ledger) (rows : SameRows before after) :
    Chargeable answers relayInfo after := by
  have sameTables : after.subscriptions = before.subscriptions :=
    congrArg Ledger.subscriptions ledgerEq
  exact ⟨by rw [rows.2]; exact chargeable.tokenExists,by
    rw [sameTables]; exact chargeable.requestIdFresh,chargeable.walletRollback,
    chargeable.subscriptionRollback⟩

/-- A fallback that starts where a failed attempt left the ledger. -/
theorem AllOrNothing.after_failure {middle : BillingStore}
    {outcome : Except NewAPIError BillingSession × BillingStore}
    (ledgerEq : middle.ledger = before.ledger) (rows : SameRows before middle)
    (holds : CreatesSession answers relayInfo middle outcome) :
    CreatesSession answers relayInfo before outcome := by
  have sameTables : middle.subscriptions = before.subscriptions :=
    congrArg Ledger.subscriptions ledgerEq
  unfold CreatesSession at holds
  rw [sameTables,ledgerEq] at holds
  obtain ⟨result,after⟩ := outcome
  cases result with
  | error => exact ⟨holds.1.trans ledgerEq,rows.trans holds.2⟩
  | ok => exact ⟨holds.1,rows.trans holds.2⟩

/-- Every path of `createSession` is at most two attempts, the second from where the first has
failed. -/
theorem createSession_ends {motive : Except NewAPIError BillingSession × BillingStore → Prop}
    (anyError : ∀ error other after, motive (.error error, after) → motive (.error other, after))
    (start : ∀ error, motive (.error error, before))
    (wallet : ∀ middle error, motive (.error error, middle) →
      motive (tryWallet config answers relayInfo preConsumedQuota middle))
    (subscription : ∀ middle error, motive (.error error, middle) →
      motive (trySubscription config answers relayInfo preConsumedQuota middle)) :
    motive (createSession config answers relayInfo preConsumedQuota before) := by
  have noError : NewAPIError := .newError "" .queryDataError
  have walletFirst := wallet before noError (start noError)
  have subscriptionFirst := subscription before noError (start noError)
  unfold createSession
  split
  · exact subscriptionFirst
  · exact walletFirst
  · split
    · next error middle called =>
      rw [called] at walletFirst
      split_ifs
      · exact subscription middle error walletFirst
      · exact walletFirst
    · exact walletFirst
  · split
    · exact start _
    · exact walletFirst
    · split
      · next error middle called =>
        rw [called] at subscriptionFirst
        split_ifs
        · split
          · exact anyError error _ middle subscriptionFirst
          · exact wallet middle error subscriptionFirst
          · exact subscriptionFirst
        · exact subscriptionFirst
      · exact subscriptionFirst

theorem createSession_allOrNothing (nonneg : 0 ≤ preConsumedQuota)
    (chargeable : Chargeable answers relayInfo before) :
    CreatesSession answers relayInfo before
      (createSession config answers relayInfo preConsumedQuota before) := by
  refine createSession_ends config (fun _ _ _ failed => failed) (fun _ => ⟨rfl,SameRows.refl before⟩)
    ?_ ?_
  · intro middle _ failed
    exact AllOrNothing.after_failure failed.1 failed.2
      (tryWallet_allOrNothing config nonneg (chargeable.of_ledger failed.1 failed.2))
  · intro middle _ failed
    exact AllOrNothing.after_failure failed.1 failed.2
      (trySubscription_allOrNothing config preConsumedQuota (chargeable.of_ledger failed.1 failed.2))

end

/-- Creating a session charges one funding source and the request's token by the
session's amount, or leaves the ledger as it was. -/
theorem newBillingSession_all_or_nothing (config : BillingConfig) (answers : SessionAnswers)
    (relayInfo : Option RelayInfo) (preConsumedQuota : Int) (before after : BillingStore)
    (nonneg : 0 ≤ preConsumedQuota)
    (chargeable : ∀ info, relayInfo = some info → Chargeable answers info before) :
    (∀ error, newBillingSession config answers relayInfo preConsumedQuota before =
        (.error error, after) → after.ledger = before.ledger) ∧
      ∀ session, newBillingSession config answers relayInfo preConsumedQuota before =
          (.ok session, after) →
        ∃ info, relayInfo = some info ∧
          FundingCharged (answers.reset before.subscriptions.plans) info session before.ledger
            after.ledger ∧
          after.ledger.tokenRemain =
            (chargeToken info session.preConsumedQuota before.ledger).tokenRemain ∧
          after.ledger.tokenUsed =
            (chargeToken info session.preConsumedQuota before.ledger).tokenUsed := by
  cases relayInfo with
  | none =>
    refine ⟨fun error failed => ?_,fun session succeeded => ?_⟩
    · rw [show after = before from (congrArg Prod.snd failed).symm]
    · simp [newBillingSession] at succeeded
  | some info =>
    have created : CreatesSession answers info before
        (newBillingSession config answers (some info) preConsumedQuota before) :=
      createSession_allOrNothing config nonneg (chargeable info rfl)
    refine ⟨fun error failed => ?_,fun session succeeded => ?_⟩
    · rw [failed] at created
      exact created.1
    · rw [succeeded] at created
      exact ⟨info,rfl,created.1.fundingCharged,created.1.tokenRemain,created.1.tokenUsed⟩

def faultlessReserve : ReserveAnswers where
  script := .unavailable
  hydrated := false
  scriptAgain := .unavailable
  database := none

def faultlessAttempt : AttemptAnswers where
  token := faultlessReserve
  tokenRemain := 0
  funding :=
    { wallet := faultlessReserve
      calendar :=
        { nextMidnight := fun instant => instant - instant % 86400 + 86400
          nextMonday := fun instant => instant - (instant + 259200) % 604800 + 604800
          nextMonth := fun instant => instant + 2592000
          addDate := fun years months instant => instant + years * 31536000 + months * 2592000 }
      now := 100
      subscription :=
        { beginTx := none
          findExisting := none
          existingSubscription := none
          lockSubscriptions := none
          plans := { cached := fun _ => none, query := fun _ => none }
          saveReset := fun _ => none
          createRecord := fun _ => none
          duplicateKey := .message "UNIQUE constraint failed"
          findDuplicate := fun _ => none
          saveSubscription := fun _ => none
          commit := none }
      planInfo := none }
  tokenRollback := none
  quotaForMessage := { cached := .error .recordNotFound, database := none }

def faultlessAnswers : SessionAnswers where
  userQuota := { cached := .error .recordNotFound, database := none }
  wallet := faultlessAttempt
  subscription := faultlessAttempt
  countSubscriptions := none
  countedAt := 100
  countStrict := none
  strictCountedAt := 100
  contextTokenQuota := 50

def directConfig : BillingConfig where
  redisEnabled := false
  batchUpdateEnabled := false
  trustQuota := 5000
  formatQuota := toString

def fundedStore : BillingStore where
  users := fun id => if id = 1 then some 100 else none
  tokens := fun id => if id = 1 then some { remainQuota := 50, usedQuota := 0 } else none
  queuedUserQuota := fun _ => 0
  queuedTokenQuota := fun _ => 0
  subscriptions :=
    { recordedStore with
      plans := fun _ => some
        { id := 1
          title := "basic"
          durationUnit := .month
          durationValue := 1
          customSeconds := 0
          allowWalletOverflow := none
          maxPurchasePerUser := 0
          upgradeGroup := ""
          downgradeGroup := ""
          totalAmount := 100
          quotaResetPeriod := "never"
          quotaResetCustomSeconds := 0 } }

def requestInfo (billingPreference : String) : RelayInfo where
  userId := 1
  tokenId := 1
  tokenUnlimited := false
  isPlayground := false
  forcePreConsume := false
  requestId := "new request"
  billingPreference := billingPreference
  userQuota := 0
  finalPreConsumedQuota := 0
  billingSource := .unset
  subscriptionId := 0
  subscriptionPreConsumed := 0
  subscriptionPostDelta := 0
  subscriptionAmountTotal := 0
  subscriptionAmountUsedAfterPreConsume := 0
  subscriptionPlanId := 0
  subscriptionPlanTitle := ""

theorem fundedStore_chargeable (billingPreference : String) :
    Chargeable faultlessAnswers (requestInfo billingPreference) fundedStore :=
  ⟨fun _ => rfl,rfl,rfl,rfl⟩

/-- Ten units are taken from the wallet and from the token. -/
theorem newBillingSession_all_or_nothing_fundedStore :
    ∃ session after, newBillingSession directConfig faultlessAnswers
        (some (requestInfo "wallet_only")) 10 fundedStore = (.ok session, after) ∧
      after.ledger.tokenRemain 1 = 40 := by
  refine ⟨_,_,rfl,?_⟩
  obtain ⟨info,isInfo,-,remain,-⟩ := (newBillingSession_all_or_nothing directConfig
    faultlessAnswers (some (requestInfo "wallet_only")) 10 fundedStore _ (by decide)
    fun info isInfo => by
      cases isInfo
      exact fundedStore_chargeable "wallet_only").2 _ rfl
  decide

end NewApi
