import NewApi.FundingMoves

/-!
# Opening a billing session

The funding part of a creation; a token that could not be given back is no part of it.
-/

namespace NewApi

open BillingStore BillingSession

/-- The funding sources before the session, each subscription after the reset
that was due then. -/
def FundingOrigin.of (reset : UserSubscription → UserSubscription) (ledger : Ledger) :
    FundingOrigin where
  wallet := ledger.wallet
  used id := ((ledger.subscriptions.subscriptions.find? id).map
    fun row => (reset row).amountUsed).getD 0
  usedNonneg id := by
    cases ledger.subscriptions.subscriptions.find? id with
    | none => exact le_refl 0
    | some row => exact (reset row).usedNonneg

structure SameFunding (before after : BillingStore) : Prop where
  wallet : after.ledger.wallet = before.ledger.wallet
  subscriptions : after.subscriptions = before.subscriptions
  users : ∀ id, (after.users id).isSome = (before.users id).isSome

namespace SameFunding

variable {before middle after : BillingStore}

theorem refl (store : BillingStore) : SameFunding store store :=
  ⟨rfl,rfl,fun _ => rfl⟩

theorem trans (first : SameFunding before middle) (second : SameFunding middle after) :
    SameFunding before after :=
  ⟨second.wallet.trans first.wallet,second.subscriptions.trans first.subscriptions,
    fun id => (second.users id).trans (first.users id)⟩

theorem of_tokenOnly (frame : TokenOnly before after) : SameFunding before after := by
  obtain ⟨users,queued,tables⟩ := frame
  exact ⟨by simp [ledger,users,queued],tables,fun id => by rw [users]⟩

theorem of_ledger (ledgerEq : after.ledger = before.ledger) (rows : SameRows before after) :
    SameFunding before after :=
  ⟨congrArg Ledger.wallet ledgerEq,congrArg Ledger.subscriptions ledgerEq,
    fun id => by rw [rows.1]⟩

theorem origin (same : SameFunding before after) (reset : UserSubscription → UserSubscription) :
    FundingOrigin.of reset after.ledger = FundingOrigin.of reset before.ledger := by
  have tables : after.ledger.subscriptions = before.ledger.subscriptions := same.subscriptions
  simp [FundingOrigin.of,same.wallet,tables]

end SameFunding

/-- The billing fields of a request name the source that pays. -/
def PaidFrom (relayInfo : RelayInfo) : FundingSource → Prop
  | .wallet funding => relayInfo.billingSource = .wallet ∧ funding.userId = relayInfo.userId
  | .subscription funding =>
    relayInfo.billingSource = .subscription ∧
      funding.subscriptionId = relayInfo.subscriptionId ∧ 0 < funding.subscriptionId

structure OpenSession (origin : FundingOrigin) (session : BillingSession) (store : BillingStore) :
    Prop where
  holds : Holds origin session.preConsumedQuota session.funding store
  unfinished : session.fundingSettled = false ∧ session.settled = false
  paidFrom : PaidFrom session.relayInfo session.funding

/-- Opening a session fails and takes nothing, or leaves it open. -/
def Opens (reset : UserSubscription → UserSubscription) (before : BillingStore) :
    Except NewAPIError BillingSession × BillingStore → Prop
  | (.error _, after) => SameFunding before after
  | (.ok session, after) => OpenSession (.of reset before.ledger) session after

/-- A second way to open a session starts where a failed one has left the store. -/
theorem Opens.after_failure {reset : UserSubscription → UserSubscription}
    {before middle : BillingStore} {outcome : Except NewAPIError BillingSession × BillingStore}
    (same : SameFunding before middle) (opens : Opens reset middle outcome) :
    Opens reset before outcome := by
  obtain ⟨result,after⟩ := outcome
  cases result with
  | error => exact same.trans opens
  | ok session =>
    change OpenSession (.of reset middle.ledger) session after at opens
    rwa [same.origin] at opens

variable {config : BillingConfig} {relayInfo : RelayInfo} {before : BillingStore}
  {reset : UserSubscription → UserSubscription} {quota : Int}

theorem reserveRequestToken_frame (config : BillingConfig) (answers : AttemptAnswers) (amount : Int)
    (session : BillingSession) (store : BillingStore) :
    TokenOnly store (session.reserveRequestToken config answers amount store).2 ∧
      ∀ reserved, (session.reserveRequestToken config answers amount store).1 = .ok reserved →
        ∃ consumed, reserved = { session with tokenConsumed := consumed } := by
  have frame := preConsumeTokenQuota_frame config answers.token answers.tokenRemain amount
    session.relayInfo store
  unfold reserveRequestToken
  split_ifs
  · split <;> rename_i called <;> rw [called] at frame <;> refine ⟨frame,?_⟩ <;> rintro reserved ⟨⟩
    exact ⟨amount,rfl⟩
  · refine ⟨TokenOnly.refl store,?_⟩
    rintro reserved ⟨⟩
    exact ⟨session.tokenConsumed,rfl⟩

theorem rollbackToken_frame (config : BillingConfig) (fault : Option GoError)
    (session : BillingSession) (store : BillingStore) :
    TokenOnly store (session.rollbackToken config fault store) := by
  unfold rollbackToken
  split_ifs
  · exact changeTokenQuota_frame _ _ _ _ _ store
  · exact TokenOnly.refl store

def chargedSession (relayInfo : RelayInfo) (amount : Int) (trusted : Bool) (consumed : Int)
    (charged : FundingSource) : BillingSession :=
  BillingSession.syncRelayInfo
    { BillingSession.new relayInfo charged with
      trusted := trusted
      tokenConsumed := consumed
      preConsumedQuota := amount }

/-- The funding source takes nothing, or has paid for the session that is then open. -/
def FundingOpens (reset : UserSubscription → UserSubscription) (before : BillingStore)
    (relayInfo : RelayInfo) (amount : Int) (middle : BillingStore) :
    Except GoError FundingSource × BillingStore → Prop
  | (.error _, after) => SameFunding middle after
  | (.ok charged, after) => ∀ trusted consumed, OpenSession (.of reset before.ledger)
      (chargedSession relayInfo amount trusted consumed charged) after

theorem preConsume_opens {answers : AttemptAnswers} {contextTokenQuota amount : Int}
    {funding : FundingSource}
    (amountEq : (new relayInfo funding).effectiveQuota config contextTokenQuota quota = amount)
    (opens : ∀ middle, SameFunding before middle → FundingOpens reset before relayInfo amount middle
      (funding.preConsume config answers.funding amount middle)) :
    Opens reset before ((new relayInfo funding).preConsume config answers
      contextTokenQuota quota before) := by
  unfold preConsume
  rw [amountEq]
  generalize ((new relayInfo funding).shouldTrust config contextTokenQuota ||
    (new relayInfo funding).trusted) = trusted
  dsimp only
  obtain ⟨frame,reservedEq⟩ := reserveRequestToken_frame config answers amount
    { new relayInfo funding with trusted := trusted } before
  generalize reserveRequestToken config answers amount _ before = outcome
    at frame reservedEq ⊢
  obtain ⟨result,middle⟩ := outcome
  have sameMiddle : SameFunding before middle := .of_tokenOnly frame
  cases result with
  | error => exact sameMiddle
  | ok session =>
    obtain ⟨consumed,rfl⟩ := reservedEq session rfl
    change Opens reset before (match funding.preConsume config answers.funding amount middle with
      | (.error error, store) => _
      | (.ok charged, store) => _)
    replace opens := opens middle sameMiddle
    rcases called : funding.preConsume config answers.funding amount middle with ⟨result,after⟩
    rw [called] at opens
    cases result with
    | error =>
      exact (sameMiddle.trans opens).trans (.of_tokenOnly (rollbackToken_frame _ _ _ after))
    | ok => exact opens trusted consumed

theorem walletAttempt_opens (config : BillingConfig) (answers : AttemptAnswers)
    (contextTokenQuota : Int) (nonneg : 0 ≤ quota)
    (userExists : (before.users relayInfo.userId).isSome) :
    Opens reset before ((new relayInfo
      (.wallet { userId := relayInfo.userId, consumed := 0 })).preConsume config answers
        contextTokenQuota quota before) := by
  generalize amountEq : (new relayInfo (.wallet
    { userId := relayInfo.userId, consumed := 0 })).effectiveQuota config contextTokenQuota
      quota = amount
  have amountNonneg : 0 ≤ amount := amountEq ▸ effectiveQuota_nonneg _ nonneg
  refine preConsume_opens amountEq fun middle sameMiddle => ?_
  have charged := walletPreConsume_charges config middle answers.funding relayInfo.userId
    amountNonneg
  generalize FundingSource.preConsume config answers.funding amount _ middle = outcome at charged ⊢
  obtain ⟨step,after⟩ := outcome
  cases step with
  | error => exact .of_ledger charged.1 charged.2
  | ok =>
    obtain ⟨⟨taken,rfl⟩,rows⟩ := charged
    refine fun trusted consumed => ⟨⟨?_,?_⟩,⟨rfl,rfl⟩,⟨rfl,rfl⟩⟩
    · rwa [rows.1,sameMiddle.users]
    · change after.ledger.wallet relayInfo.userId = before.ledger.wallet relayInfo.userId - amount
      rw [taken,Ledger.takeWallet_wallet_self,sameMiddle.wallet]

theorem subscriptionAttempt_opens (config : BillingConfig) (answers : AttemptAnswers)
    (contextTokenQuota : Int) {funding : SubscriptionFunding}
    (amountEq : funding.amount = quota) (sameRequest : funding.requestId = relayInfo.requestId)
    (fresh : before.subscriptions.preConsumeRecords relayInfo.requestId = none) :
    Opens (afterReset answers.funding.subscription.plans answers.funding.calendar
        answers.funding.now before.subscriptions.plans) before
      ((new relayInfo (.subscription funding)).preConsume config answers
        contextTokenQuota quota before) := by
  have untrusted : (new relayInfo (.subscription funding)).effectiveQuota config
      contextTokenQuota quota = quota := by
    rw [effectiveQuota,shouldTrust_subscription]
    rfl
  refine preConsume_opens untrusted fun middle sameMiddle => ?_
  have freshFor : middle.subscriptions.preConsumeRecords funding.requestId = none := by
    rwa [sameMiddle.subscriptions,sameRequest]
  have charged := subscriptionPreConsume_charges config answers.funding quota freshFor
  generalize FundingSource.preConsume config answers.funding quota _ middle = outcome at charged ⊢
  obtain ⟨step,after⟩ := outcome
  cases step with
  | error => exact .of_ledger charged.1 charged.2
  | ok =>
    obtain ⟨⟨-,-,-,paid,row,rfl,-,rowId,-,charges⟩,-⟩ := charged
    rw [sameMiddle.subscriptions,amountEq] at charges
    obtain ⟨positive,found⟩ := charges.charged
    have stored : before.ledger.subscriptions.subscriptions.find? row.id = some row :=
      charges.stored
    refine fun trusted consumed => ⟨⟨_,by rw [← rowId] at found; exact found,?_,fun limited => ?_⟩,
      ⟨rfl,rfl⟩,⟨rfl,rfl,?_⟩⟩
    · change (chargedRow quota positive _).amountUsed = _ + quota
      simp [chargedRow,FundingOrigin.of,rowId,stored]
    · have room := charges.fits limited
      simp only [chargedRow,UserSubscription.withUsed_amountUsed,
        UserSubscription.withUsed_amountTotal]
      omega
    · rw [rowId]
      exact row.idPos

/-- The funding part of creating a session is all or nothing, whatever becomes of the token. -/
theorem createSession_opens (config : BillingConfig) (answers : SessionAnswers)
    {preConsumedQuota : Int} (nonneg : 0 ≤ preConsumedQuota)
    (userExists : (before.users relayInfo.userId).isSome)
    (fresh : before.subscriptions.preConsumeRecords relayInfo.requestId = none) :
    Opens (answers.reset before.subscriptions.plans) before
      (createSession config answers relayInfo preConsumedQuota before) := by
  have wallet : ∀ middle, SameFunding before middle →
      Opens (answers.reset before.subscriptions.plans) before
        (tryWallet config answers relayInfo preConsumedQuota middle) := by
    intro middle same
    refine Opens.after_failure same ?_
    unfold tryWallet
    split
    · exact SameFunding.refl middle
    · split_ifs
      · exact SameFunding.refl middle
      · exact SameFunding.refl middle
      · exact walletAttempt_opens config answers.wallet _ nonneg
          (show (middle.users relayInfo.userId).isSome by rwa [same.users])
  have subscription : ∀ middle, SameFunding before middle →
      Opens (answers.reset before.subscriptions.plans) before
        (trySubscription config answers relayInfo preConsumedQuota middle) := by
    intro middle same
    refine Opens.after_failure same ?_
    rw [← same.subscriptions]
    exact subscriptionAttempt_opens config answers.subscription _ rfl rfl
      (by rwa [same.subscriptions])
  exact createSession_ends config (fun _ _ _ same => same) (fun _ => .refl before)
    (fun middle _ => wallet middle) fun middle _ => subscription middle

end NewApi
