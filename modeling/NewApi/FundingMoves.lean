import NewApi.BillingSessionCalls

/-! # What each call does to the funding source -/

namespace NewApi

open BillingStore BillingSession FundingSource

/-- What each wallet owned and each subscription had used before a session. -/
structure FundingOrigin where
  wallet : Int → Int
  used : Int → Int
  usedNonneg : ∀ id, 0 ≤ used id

/-- The funding source has given up `taken` since the origin. -/
def Holds (origin : FundingOrigin) (taken : Int) (funding : FundingSource)
    (store : BillingStore) : Prop :=
  match funding with
  | .wallet funding =>
    (store.users funding.userId).isSome ∧
      store.ledger.wallet funding.userId = origin.wallet funding.userId - taken
  | .subscription funding =>
    ∃ row, store.subscriptions.subscriptions.find? funding.subscriptionId = some row ∧
      row.amountUsed = origin.used funding.subscriptionId + taken ∧
      (0 < row.amountTotal → row.amountUsed ≤ row.amountTotal)

def payingSource (bySubscription : Bool) (userId subscriptionId : Int) : FundingSource :=
  if bySubscription then
    .subscription
      { requestId := ""
        userId := userId
        amount := 0
        subscriptionId := subscriptionId
        preConsumed := 0
        amountTotal := 0
        amountUsedAfter := 0
        planId := 0
        planTitle := "" }
  else .wallet { userId := userId, consumed := 0 }

section

variable {config : BillingConfig} {faults : FundingFaults} {origin : FundingOrigin}
  {taken delta : Int}
  {funding : FundingSource} {before after : BillingStore} {session : BillingSession}
  {wallet : WalletFunding} {row : UserSubscription}

theorem Holds.frame (holds : Holds origin taken funding before)
    (frame : TokenOnly before after) : Holds origin taken funding after := by
  obtain ⟨users,queued,tables⟩ := frame
  cases funding with
  | wallet =>
    obtain ⟨rowExists,balance⟩ := holds
    exact ⟨by rwa [users],by simpa [ledger,users,queued] using balance⟩
  | subscription =>
    obtain ⟨row,found,used⟩ := holds
    exact ⟨row,by rwa [tables],used⟩

theorem walletSettle_refines (config : BillingConfig) (faults : FundingFaults) (delta : Int)
    (rowExists : (before.users wallet.userId).isSome) :
    Refines (fun _ ledger => ledger.takeWallet wallet.userId delta) before
      (settle config faults delta before (.wallet wallet)) := by
  simp only [FundingSource.settle]
  split_ifs with zero positive
  · exact refines_of_written (by simp [zero]) (SameRows.refl before)
  · exact decreaseUserQuota_refines faults.wallet false rowExists
  · have returned : Refines (fun _ ledger => ledger.takeWallet wallet.userId (- -delta)) before
        (increaseUserQuota config faults.wallet wallet.userId (-delta) false before) :=
      increaseUserQuota_refines faults.wallet false rowExists
    simpa using returned

/-- The subscription's used amount would not be negative. -/
def InRange (origin : FundingOrigin) (taken : Int) : FundingSource → Prop
  | .wallet _ => True
  | .subscription funding => 0 ≤ origin.used funding.subscriptionId + taken

theorem inRange_of_nonneg (nonneg : 0 ≤ taken) : InRange origin taken funding := by
  cases funding with
  | wallet => trivial
  | subscription funding => exact Int.add_nonneg (origin.usedNonneg funding.subscriptionId) nonneg

theorem Holds.inRange (holds : Holds origin taken funding before) :
    InRange origin taken funding := by
  cases funding with
  | wallet => trivial
  | subscription =>
    obtain ⟨row,-,usedEq,-⟩ := holds
    have nonneg := row.usedNonneg
    rwa [usedEq] at nonneg

/-- What a successful write of a new total leaves taken; a subscription's used
amount stops at zero. -/
def settledTaken (origin : FundingOrigin) (total : Int) : FundingSource → Int
  | .wallet _ => total
  | .subscription funding =>
    clampUsed (origin.used funding.subscriptionId + total) - origin.used funding.subscriptionId

theorem settledTaken_of_inRange (inRange : InRange origin taken funding) :
    settledTaken origin taken funding = taken := by
  cases funding with
  | wallet => rfl
  | subscription =>
    simp only [settledTaken,clampUsed_of_nonneg inRange]
    omega

theorem settle_cases {result : Except GoError Unit} (holds : Holds origin taken funding before)
    (called : funding.settle config faults delta before = (result, after)) :
    after.subscriptions.preConsumeRecords = before.subscriptions.preConsumeRecords ∧
      ((∃ error, result = .error error ∧ Holds origin taken funding after) ∨
        (result = .ok () ∧
          Holds origin (settledTaken origin (taken + delta) funding) funding after)) := by
  cases funding with
  | wallet =>
    have refined := walletSettle_refines config faults delta holds.1
    rw [called] at refined
    obtain ⟨rowExists,balance⟩ := holds
    cases result with
    | error error =>
      rw [← refined.2.1] at rowExists
      exact ⟨congrArg (·.subscriptions.preConsumeRecords) refined.1,
        .inl ⟨error,rfl,rowExists,by rwa [refined.1]⟩⟩
    | ok =>
      rw [← refined.2.1] at rowExists
      refine ⟨congrArg (·.subscriptions.preConsumeRecords) refined.1,.inr ⟨rfl,rowExists,?_⟩⟩
      simp only [refined.1,Ledger.takeWallet_wallet_self,settledTaken]
      omega
  | subscription subscription =>
    obtain ⟨row,found,usedEq,bounded⟩ := holds
    simp only [FundingSource.settle,onSubscriptions] at called
    split_ifs at called with zero
    · cases called
      refine ⟨rfl,.inr ⟨rfl,row,found,?_,bounded⟩⟩
      have nonneg := row.usedNonneg
      rw [settledTaken_of_inRange (by simp only [InRange]; omega)]
      omega
    · rcases moved : postConsumeUserSubscriptionDelta faults.subscription
        subscription.subscriptionId delta before.subscriptions with ⟨outcome,tables⟩
      rw [moved] at called
      cases called
      rcases postConsume_cases moved with ⟨error,rfl,rfl⟩ | ⟨-,-,isZero,-⟩ |
        ⟨rfl,-,-,-,stored,storedFound,fits,rfl⟩
      · exact ⟨rfl,.inl ⟨error,rfl,row,found,usedEq,bounded⟩⟩
      · exact absurd isZero zero
      · have sameRow : stored = row := by simpa [found] using storedFound.symm
        subst sameRow
        have sameId := KeyedTable.key_of_find? found
        refine ⟨rfl,.inr ⟨rfl,stored.withUsed _ (clampUsed_nonneg _),?_,?_,fits⟩⟩
        · rw [← sameId] at found ⊢
          exact before.subscriptions.subscriptions.find?_save_self found
        · simp only [UserSubscription.withUsed_amountUsed,settledTaken,usedEq]
          rw [Int.add_assoc]
          omega

theorem walletSettle_ok_iff (wallet : WalletFunding) (before : BillingStore) (moves : delta ≠ 0) :
    (settle config faults delta before (.wallet wallet)).1 = .ok () ↔
      config.batchUpdateEnabled = true ∨ faults.wallet = none := by
  have writer : ∀ (quota : Int) (queue update : BillingStore → BillingStore), 0 ≤ quota →
      ((changeQuota config.batchUpdateEnabled faults.wallet quota queue update before).1 = .ok () ↔
        config.batchUpdateEnabled = true ∨ faults.wallet = none) := by
    intro quota queue update nonneg
    have notNegative : ¬ quota < 0 := by omega
    cases config.batchUpdateEnabled <;> cases faults.wallet <;> simp [changeQuota,notNegative]
  simp only [FundingSource.settle,moves,if_false]
  split_ifs with raises
  · exact writer delta _ _ raises.le
  · exact writer (-delta) _ _ (by omega)

theorem subscriptionSettle_ok_iff {funding : SubscriptionFunding}
    (found : before.subscriptions.subscriptions.find? funding.subscriptionId = some row)
    (moves : delta ≠ 0) :
    (settle config faults delta before (.subscription funding)).1 = .ok () ↔
      faults.subscription = .succeeds ∧
        (0 < row.amountTotal → clampUsed (row.amountUsed + delta) ≤ row.amountTotal) := by
  simp only [FundingSource.settle,moves,if_false,onSubscriptions]
  constructor
  · intro succeeds
    rcases called : postConsumeUserSubscriptionDelta faults.subscription funding.subscriptionId delta
      before.subscriptions with ⟨result,after⟩
    rw [called] at succeeds
    rcases postConsume_cases called with ⟨error,isError,-⟩ | ⟨-,-,isZero,-⟩ |
      ⟨-,-,-,faultless,stored,storedFound,fits,-⟩
    · rw [isError] at succeeds
      cases succeeds
    · exact absurd isZero moves
    · have sameRow : stored = row := by simpa [found] using storedFound.symm
      exact ⟨faultless,sameRow ▸ fits⟩
  · rintro ⟨faultless,fits⟩
    rw [faultless,postConsume_succeeds found fits moves]

theorem settle_succeeds (config : BillingConfig) (holds : Holds origin taken funding before)
    (lowers : delta < 0) : (funding.settle config .succeeds delta before).1 = .ok () := by
  have nonzero : delta ≠ 0 := by omega
  cases funding with
  | wallet =>
    have notPositive : ¬ 0 < delta := by omega
    simp only [FundingSource.settle,nonzero,notPositive,if_false]
    exact changeQuota_succeeds (by omega)
  | subscription =>
    obtain ⟨row,found,usedEq,bounded⟩ := holds
    have fits : 0 < row.amountTotal → clampUsed (row.amountUsed + delta) ≤ row.amountTotal := by
      unfold clampUsed
      split_ifs <;> omega
    simp only [FundingSource.settle,nonzero,if_false,onSubscriptions,FundingFaults.succeeds,
      postConsume_succeeds found fits nonzero]

theorem settle_returns (config : BillingConfig) (holds : Holds origin (taken + delta) funding before)
    (raises : 0 < delta) (inRange : InRange origin taken funding) :
    ∃ stored, funding.settle config .succeeds (-delta) before = (.ok (), stored) ∧
      Holds origin taken funding stored ∧
      stored.subscriptions.preConsumeRecords = before.subscriptions.preConsumeRecords := by
  have succeeded := settle_succeeds config holds (by omega : -delta < 0)
  rcases written : funding.settle config .succeeds (-delta) before with ⟨outcome,stored⟩
  obtain ⟨records,effect⟩ := settle_cases holds written
  rw [written] at succeeded
  cases succeeded
  obtain ⟨error,impossible,-⟩ | ⟨-,moved⟩ := effect
  · cases impossible
  rw [Int.add_neg_cancel_right,settledTaken_of_inRange inRange] at moved
  exact ⟨stored,rfl,moved,records⟩

def addConsumed (delta : Int) : FundingSource → FundingSource
  | .wallet funding => .wallet { funding with consumed := funding.consumed + delta }
  | .subscription funding => .subscription funding

theorem holds_addConsumed (more : Int) :
    Holds origin taken (addConsumed more funding) before ↔
      Holds origin taken funding before := by
  cases funding <;> rfl

/-- Raising the taken amount never meets the lower bound. -/
theorem settledTaken_of_raise (holds : Holds origin taken funding before)
    (raises : 0 < delta) : settledTaken origin (taken + delta) funding = taken + delta := by
  cases funding with
  | wallet => rfl
  | subscription =>
    have inRange := holds.inRange
    exact settledTaken_of_inRange (by simp only [InRange] at inRange ⊢; omega)

theorem reserveFunding_cases {result : Except NewAPIError FundingSource}
    (holds : Holds origin taken session.funding before) (raises : 0 < delta)
    (called : session.reserveFunding config faults delta before = (result, after)) :
    after.subscriptions.preConsumeRecords = before.subscriptions.preConsumeRecords ∧
      ((∃ error, result = .error error ∧ Holds origin taken session.funding after) ∨
        (result = .ok (addConsumed delta session.funding) ∧
          Holds origin (taken + delta) session.funding after)) := by
  have nonzero : delta ≠ 0 := by omega
  rcases written : session.funding.settle config faults delta before with ⟨outcome,stored⟩
  have effect := settle_cases holds written
  rw [settledTaken_of_raise holds raises] at effect
  have agrees : stored = after ∧ ((∃ error, outcome = .error error ∧ ∃ apiError,
      result = .error apiError) ∨
        (outcome = .ok () ∧ result = .ok (addConsumed delta session.funding))) := by
    unfold BillingSession.reserveFunding at called
    cases fundingEq : session.funding
    all_goals
      rw [fundingEq] at called written
      simp only [FundingSource.settle,nonzero,raises,if_true,if_false] at written
      simp only [written] at called
      cases outcome with
      | error error =>
        cases called
        exact ⟨rfl,.inl ⟨error,rfl,_,rfl⟩⟩
      | ok =>
        cases called
        exact ⟨rfl,.inr ⟨rfl,rfl⟩⟩
  obtain ⟨rfl,verdict⟩ := agrees
  refine ⟨effect.1,?_⟩
  rcases verdict with ⟨error,rfl,apiError,rfl⟩ | ⟨rfl,rfl⟩
  · rcases effect.2 with ⟨-,-,unchanged⟩ | ⟨impossible,-⟩
    · exact .inl ⟨apiError,rfl,unchanged⟩
    · cases impossible
  · rcases effect.2 with ⟨error,impossible,-⟩ | ⟨-,moved⟩
    · cases impossible
    · exact .inr ⟨rfl,moved⟩

theorem rollbackFundingReserve_undoes (config : BillingConfig)
    (holds : Holds origin (taken + delta) funding before) (raises : 0 < delta)
    (inRange : InRange origin taken funding) :
    let undone := rollbackFundingReserve config .succeeds delta (addConsumed delta funding) before
    undone.1 = funding ∧ Holds origin taken funding undone.2 ∧
      undone.2.subscriptions.preConsumeRecords = before.subscriptions.preConsumeRecords := by
  have nonzero : delta ≠ 0 := by omega
  have notPositive : ¬ 0 < -delta := by omega
  obtain ⟨stored,written,back,records⟩ := settle_returns config holds raises inRange
  cases funding with
  | wallet =>
    simp only [FundingSource.settle,Int.neg_eq_zero,nonzero,notPositive,Int.neg_neg,
      if_false] at written
    simp only [rollbackFundingReserve,addConsumed,written]
    exact ⟨by simp,back,records⟩
  | subscription =>
    simp only [FundingSource.settle,Int.neg_eq_zero,nonzero,if_false] at written
    simp only [rollbackFundingReserve,addConsumed,written]
    exact ⟨trivial,back,records⟩

/-- A refund job of this session would give the reserved amount back. -/
def Backed (session : BillingSession) (store : BillingStore) : Prop :=
  match session.funding with
  | .wallet funding => funding.consumed = session.preConsumedQuota ∧ 0 ≤ session.preConsumedQuota
  | .subscription funding =>
    0 < funding.preConsumed ∧ 0 ≤ session.extraReserved ∧
      funding.preConsumed + session.extraReserved = session.preConsumedQuota ∧
      session.relayInfo.subscriptionId = funding.subscriptionId ∧
      GoStrings.trimSpace funding.requestId ≠ "" ∧
      ∃ userId, store.subscriptions.preConsumeRecords funding.requestId =
        some (consumedRecord userId funding.subscriptionId funding.preConsumed)

theorem subscriptionRefund_returns {tables : SubscriptionStore} {requestId : String}
    {userId amount : Int} (named : GoStrings.trimSpace requestId ≠ "") (positive : 0 < amount)
    (found : tables.subscriptions.find? row.id = some row) (covered : amount ≤ row.amountUsed)
    (bounded : 0 < row.amountTotal → row.amountUsed ≤ row.amountTotal)
    (recorded : tables.preConsumeRecords requestId = some (consumedRecord userId row.id amount)) :
    ∃ after, refundSubscriptionPreConsume .succeeds requestId tables = (.ok (), after) ∧
      ∃ refunded, after.subscriptions.find? row.id = some refunded ∧
        refunded.amountUsed = row.amountUsed - amount ∧
        refunded.amountTotal = row.amountTotal := by
  have remains : clampUsed (row.amountUsed - amount) = row.amountUsed - amount :=
    clampUsed_of_nonneg (by omega)
  have due : RefundDue tables requestId (consumedRecord userId row.id amount) row :=
    { named := named
      recorded := recorded
      consumed := rfl
      positive := positive
      stored := found
      accepted := by
        simp only [consumedRecord]
        omega }
  rcases called : refundSubscriptionPreConsume .succeeds requestId tables with ⟨result,after⟩
  rcases refund_of_due due called with ⟨impossible,-⟩ | ⟨-,impossible,-⟩ | ⟨-,rfl,written⟩
  · exact absurd impossible (by decide)
  · exact absurd impossible (by decide)
  · refine ⟨after,rfl,refundedRow row amount,?_,remains,rfl⟩
    rw [written]
    exact tables.subscriptions.find?_save_self found

theorem walletRefund_returns (config : BillingConfig) (attempts : Nat → RefundFaults)
    (holds : Holds origin wallet.consumed (.wallet wallet) before) (nonneg : 0 ≤ wallet.consumed) :
    Holds origin 0 (.wallet wallet)
      (FundingSource.refund config none attempts before (.wallet wallet)).2 := by
  simp only [FundingSource.refund]
  split_ifs with nothing
  · have zero : wallet.consumed = 0 := by omega
    rwa [zero] at holds
  · have nonzero : wallet.consumed ≠ 0 := by omega
    have notPositive : ¬ 0 < -wallet.consumed := by omega
    rw [← Int.zero_add wallet.consumed] at holds
    obtain ⟨stored,written,back,-⟩ := settle_returns config holds (by omega) trivial
    simp only [FundingSource.settle,Int.neg_eq_zero,nonzero,notPositive,Int.neg_neg,if_false,
      FundingFaults.succeeds] at written
    rwa [written]

theorem subscriptionJob_returns {subscription : SubscriptionFunding} {userId extra : Int}
    (config : BillingConfig) (extraNonneg : 0 ≤ extra) (positive : 0 < subscription.preConsumed)
    (named : GoStrings.trimSpace subscription.requestId ≠ "")
    (holds : Holds origin (subscription.preConsumed + extra) (.subscription subscription)
      before) (recorded : before.subscriptions.preConsumeRecords subscription.requestId =
      some (consumedRecord userId subscription.subscriptionId subscription.preConsumed)) :
    Holds origin 0 (.subscription subscription)
      (let store := (FundingSource.refund config none (fun _ => .succeeds) before
        (.subscription subscription)).2
      if 0 < extra ∧ (FundingSource.subscription subscription).source = .subscription ∧
          0 < subscription.subscriptionId then
        (onSubscriptions (postConsumeUserSubscriptionDelta .succeeds subscription.subscriptionId
          (-extra)) store).2
      else store) := by
  obtain ⟨row,found,usedEq,bounded⟩ := holds
  have sameId : row.id = subscription.subscriptionId := KeyedTable.key_of_find? found
  have idPos := row.idPos
  have originNonneg := origin.usedNonneg subscription.subscriptionId
  rw [← sameId] at found recorded ⊢
  obtain ⟨tables,refundedOk,refunded,refundedFound,refundedUsed,refundedTotal⟩ :=
    subscriptionRefund_returns named positive found (by omega) bounded recorded
  have notFree : ¬ subscription.preConsumed ≤ 0 := by omega
  have refundStep : FundingSource.refund config none (fun _ => .succeeds) before
      (.subscription subscription) = (.ok (), { before with subscriptions := tables }) := by
    simp [FundingSource.refund,notFree,refundWithRetry,retryRefund,onSubscriptions,refundedOk]
  simp only [refundStep,FundingSource.source,idPos,and_true]
  have middle : Holds origin (0 + extra) (.subscription subscription)
      { before with subscriptions := tables } := by
    refine ⟨refunded,by rwa [← sameId],by omega,fun limited => ?_⟩
    omega
  split_ifs with someExtra
  · obtain ⟨stored,written,back,-⟩ :=
      settle_returns config middle someExtra (inRange_of_nonneg le_rfl)
    have nonzero : extra ≠ 0 := by omega
    simp only [FundingSource.settle,Int.neg_eq_zero,nonzero,if_false,FundingFaults.succeeds]
      at written
    rwa [sameId,written]
  · rwa [show (0 : Int) + extra = 0 by omega] at middle

theorem refundJob_returns {job : RefundJob} {store : BillingStore}
    (config : BillingConfig) (holds : Holds origin session.preConsumedQuota session.funding store)
    (backed : Backed session store) (sameExtra : job.extraReserved = session.extraReserved)
    (sameSubscription : job.subscriptionId = session.relayInfo.subscriptionId) :
    Holds origin 0 session.funding (job.run config .succeeds session.funding store) := by
  -- The token step at the end leaves the funding source alone.
  have tokenStep : ∀ middle : BillingStore, Holds origin 0 session.funding middle →
      Holds origin 0 session.funding
        (if 0 < job.tokenConsumed ∧ job.isPlayground = false then
          (increaseTokenQuota config RefundAnswers.succeeds.token job.tokenId job.tokenConsumed
            middle).2
        else middle) := by
    intro middle middleHolds
    split_ifs
    · exact middleHolds.frame (changeTokenQuota_frame _ _ _ _ _ middle)
    · exact middleHolds
  apply tokenStep
  unfold Backed at backed
  rw [sameExtra,sameSubscription]
  cases fundingEq : session.funding with
  | wallet wallet =>
    rw [fundingEq] at holds backed
    obtain ⟨consumedEq,nonneg⟩ := backed
    rw [← consumedEq] at holds nonneg
    have notSubscription : ¬ (0 < session.extraReserved ∧
        (FundingSource.wallet wallet).source = .subscription ∧
          0 < session.relayInfo.subscriptionId) := by
      simp [FundingSource.source]
    rw [if_neg notSubscription]
    exact walletRefund_returns config _ holds nonneg
  | subscription =>
    rw [fundingEq] at holds backed
    obtain ⟨positive,extraNonneg,sumEq,subscriptionEq,named,userId,recorded⟩ := backed
    rw [← sumEq] at holds
    rw [subscriptionEq]
    exact subscriptionJob_returns config extraNonneg positive named holds recorded

end

end NewApi
