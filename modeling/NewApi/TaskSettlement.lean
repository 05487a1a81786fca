import NewApi.BillingSessionConservation
import NewApi.TaskSubmission

/-!
# What a stored task was charged with

A submission holds back nothing, or exactly what its session reserved, until it
is settled.
-/

namespace NewApi

open BillingStore BillingSession

section

/-- A request as `GenRelayInfo` leaves it, on a store that knows its user but not its id. -/
structure NewRequest (relayInfo : RelayInfo) (store : BillingStore) : Prop where
  nothingReserved : relayInfo.finalPreConsumedQuota = 0
  noSource : relayInfo.billingSource = .unset
  userExists : (store.users relayInfo.userId).isSome
  requestIdFresh : store.subscriptions.preConsumeRecords relayInfo.requestId = none

theorem NewRequest.of_same {relayInfo : RelayInfo} {before after : BillingStore}
    (new : NewRequest relayInfo before) (same : SameFunding before after) :
    NewRequest relayInfo after where
  nothingReserved := new.nothingReserved
  noSource := new.noSource
  userExists := by
    rw [same.users]
    exact new.userExists
  requestIdFresh := by
    rw [same.subscriptions]
    exact new.requestIdFresh

inductive TakenSoFar (before : BillingStore) (turns : List LoopTurn) : Payer → BillingStore → Prop where
  | nothing {relayInfo : RelayInfo} {store : BillingStore} (new : NewRequest relayInfo before)
      (same : SameFunding before store) : TakenSoFar before turns (.direct relayInfo) store
  | reserved {session : BillingSession} {store : BillingStore} (turn : LoopTurn)
      (member : turn ∈ turns)
      (isOpen : OpenSession (.of (turn.attempt.session.reset before.subscriptions.plans)
        before.ledger) session store) : TakenSoFar before turns (.session session) store

theorem preConsumeBilling_opens (env : TaskEnv) (clampText : QuotaClamp → String)
    (answers : SessionAnswers) (quotaClamp : Option QuotaClamp) (preConsumedQuota : Int)
    {relayInfo : RelayInfo} {store : BillingStore} (new : NewRequest relayInfo store) :
    Opens (answers.reset store.subscriptions.plans) store
      (preConsumeBilling env clampText answers quotaClamp preConsumedQuota relayInfo store) := by
  unfold preConsumeBilling
  split
  · exact SameFunding.refl store
  · split_ifs with negative
    · exact SameFunding.refl store
    · exact createSession_opens env.config answers (not_lt.mp negative) new.userExists
        new.requestIdFresh

variable {env : TaskEnv} {before : BillingStore} {turns : List LoopTurn} {turn : LoopTurn}
  {info after : TaskRelay} {store stored : BillingStore}

theorem reserveTask_keeps {result : Except TaskError Unit}
    (charged : TakenSoFar before turns info.payer store) (member : turn ∈ turns)
    (called : reserveTask env turn.attempt info store = (result, after, stored)) :
    TakenSoFar before turns after.payer stored ∧ after.priceData = info.priceData ∧
      ∀ relayInfo, result = .ok () → after.payer = .direct relayInfo →
        info.priceData.freeModel = true := by
  unfold reserveTask at called
  cases payer : info.payer with
  | session =>
    simp only [payer] at called charged
    cases called
    exact ⟨payer ▸ charged,rfl,fun relayInfo _ isDirect => by simp [payer] at isDirect⟩
  | direct relayInfo =>
    simp only [payer] at called charged
    split_ifs at called with free
    · cases called
      exact ⟨payer ▸ charged,rfl,fun _ _ _ => free⟩
    · cases charged with
      | nothing new same =>
        have forced : NewRequest { relayInfo with forcePreConsume := true } before :=
          { new with }
        have opens := preConsumeBilling_opens env turn.attempt.settings.clampText
          turn.attempt.session info.quotaClamp info.priceData.quota (forced.of_same same)
        rw [same.subscriptions] at opens
        replace opens := Opens.after_failure same opens
        generalize preConsumeBilling env turn.attempt.settings.clampText turn.attempt.session
          info.quotaClamp info.priceData.quota _ store = outcome at opens called
        obtain ⟨_ | session,middle⟩ := outcome <;> cases called
        · exact ⟨.nothing forced opens,rfl,fun _ impossible => by cases impossible⟩
        · exact ⟨.reserved turn member opens,rfl,fun _ _ isDirect => by cases isDirect⟩

def FreeQuota (price : PriceData) : Prop :=
  price.freeModel = true → price.quota = 0

@[simp]
theorem quotaFromFloatChecked_zero : quotaFromFloatChecked 0 = (0, none) := by
  decide +kernel

@[simp]
theorem applyEstimate_payer (adaptor : SubmitAdaptor) (info : TaskRelay) :
    (applyEstimate env adaptor info).payer = info.payer := by
  unfold applyEstimate
  split_ifs <;> rfl

theorem applyEstimate_freeQuota (adaptor : SubmitAdaptor) (free : FreeQuota info.priceData) :
    FreeQuota (applyEstimate env adaptor info).priceData := by
  unfold applyEstimate
  split_ifs
  · exact free
  · intro isFree
    have zero : info.priceData.quota = 0 := free isFree
    simp [PriceData.applyOtherRatiosToFloat,PriceData.addOtherRatios,zero]

theorem foldl_div_zero (factors : List Rat) :
    factors.foldl (fun value ratio => value / ratio) 0 = 0 := by
  induction factors with
  | nil => rfl
  | cons ratio factors induction => simpa using induction

theorem adjustOnSubmit_keeps (ratios : RatioTable) (info : TaskRelay) :
    (adjustOnSubmit ratios info).payer = info.payer ∧
      (FreeQuota info.priceData → info.priceData.freeModel = true →
        (adjustOnSubmit ratios info).priceData.quota = 0) := by
  unfold adjustOnSubmit recalcQuotaFromRatios
  split_ifs
  · exact ⟨rfl,fun free isFree => free isFree⟩
  · dsimp only
    split
    · exact ⟨rfl,fun free isFree => free isFree⟩
    · rename_i quota clamp recalculated
      refine ⟨rfl,fun free isFree => ?_⟩
      split_ifs at recalculated
      simp only [free isFree,PriceData.removeOtherRatiosFromFloat,Int.cast_zero,foldl_div_zero,
        PriceData.applyOtherRatiosToFloat,zero_mul] at recalculated
      cases recalculated
      rfl

theorem priceTask_payer (env : TaskEnv) (attempt : SubmitAttempt) (adaptor : SubmitAdaptor) (info : TaskRelay) :
    (priceTask env attempt adaptor info).2.payer = info.payer := by
  unfold priceTask
  dsimp only
  iterate 3
    split
    · rfl
  exact applyEstimate_payer adaptor _

theorem sendTask_keeps (attempt : SubmitAttempt) (adaptor : SubmitAdaptor)
    {result : Except TaskError TaskSubmitResult}
    (called : sendTask env attempt adaptor info = (result, after)) :
    after.payer = info.payer ∧
      (FreeQuota info.priceData → info.priceData.freeModel = true →
        ∀ submitted, result = .ok submitted → submitted.quota = 0) := by
  have adjusted := adjustOnSubmit_keeps adaptor.adjustBillingOnSubmit info
  unfold sendTask at called
  iterate 4
    split at called
    · cases called
      exact ⟨rfl,nofun⟩
  cases called
  refine ⟨adjusted.1,fun free isFree submitted isSubmitted => ?_⟩
  cases isSubmitted
  exact adjusted.2 free isFree

/-- What is known when a turn or the loop ends: the books are kept, and without a session the
submission costs nothing. -/
def KeepsBooks (before : BillingStore) (turns : List LoopTurn) :
    Except TaskError TaskSubmitResult × TaskRelay × BillingStore → Prop
  | (result, info, store) =>
    TakenSoFar before turns info.payer store ∧
      ∀ submitted relayInfo, result = .ok submitted → info.payer = .direct relayInfo →
        submitted.quota = 0

theorem KeepsBooks.of_error {error : TaskError} (charged : TakenSoFar before turns info.payer store) :
    KeepsBooks before turns (.error error, info, store) :=
  ⟨charged,fun _ _ impossible => by cases impossible⟩

theorem relayTaskSubmit_keeps (env : TaskEnv) (charged : TakenSoFar before turns info.payer store)
    (member : turn ∈ turns) :
    KeepsBooks before turns (relayTaskSubmit env turn.attempt info store) := by
  unfold relayTaskSubmit
  split
  · exact .of_error charged
  · rename_i adaptor _
    have samePayer := priceTask_payer env turn.attempt adaptor info
    rcases priced : priceTask env turn.attempt adaptor info with ⟨outcome,named⟩
    rw [priced] at samePayer
    rw [← samePayer] at charged
    cases outcome with
    | error => exact .of_error charged
    | ok _ =>
      obtain ⟨base,basePrice,-,isNamed⟩ := priceTask_ok priced
      have free : FreeQuota named.priceData := by
        rw [isNamed]
        exact applyEstimate_freeQuota adaptor (modelPriceHelperPerCall_ok basePrice).2
      rcases reservation : reserveTask env turn.attempt named store with ⟨outcome,reserved,middle⟩
      obtain ⟨keeps,samePrice,freeOf⟩ := reserveTask_keeps charged member reservation
      cases outcome with
      | error =>
        simp only [reservation]
        exact .of_error keeps
      | ok _ =>
        rcases sent : sendTask env turn.attempt adaptor reserved with ⟨result,final⟩
        obtain ⟨finalPayer,costsNothing⟩ := sendTask_keeps turn.attempt adaptor sent
        simp only [reservation,sent]
        refine ⟨finalPayer ▸ keeps,fun submitted relayInfo isOk isDirect => ?_⟩
        rw [samePrice] at costsNothing
        exact costsNothing free (freeOf relayInfo rfl (finalPayer ▸ isDirect)) submitted isOk

theorem submitLoop_keeps (env : TaskEnv) {rest : List LoopTurn}
    (charged : TakenSoFar before turns info.payer store)
    (members : ∀ other ∈ turn :: rest, other ∈ turns) :
    KeepsBooks before turns (submitLoop env turn rest info store) := by
  have keeps := relayTaskSubmit_keeps env charged (members turn List.mem_cons_self)
  fun_induction submitLoop env turn rest info store with
  | case1 => exact .of_error charged
  | case2 | case3 =>
    rename_i called
    rwa [called] at keeps
  | case4 turn info store _ error after stored next rest called _ induction =>
    rw [called] at keeps
    exact induction keeps.1 (List.forall_mem_cons.mp members).2
      (relayTaskSubmit_keeps env keeps.1 (members next (by simp)))
  | case5 turn _ _ _ _ _ _ _ _ called => rwa [called] at keeps

end

section

/-- A write to the funding source goes through: the statement does not fail, and a subscription
has room for the change and does not drop below zero. -/
def FundingWritten (config : BillingConfig) (faults : FundingFaults) (delta : Int)
    (store : BillingStore) : FundingSource → Prop
  | .wallet _ => config.batchUpdateEnabled = true ∨ faults.wallet = none
  | .subscription funding =>
    faults.subscription = .succeeds ∧
      ∀ row, store.subscriptions.subscriptions.find? funding.subscriptionId = some row →
        0 ≤ row.amountUsed + delta ∧ (0 < row.amountTotal → row.amountUsed + delta ≤ row.amountTotal)

/-- The settlement has nothing to change, or its write goes through. -/
def SettlementWritten (config : BillingConfig) (faults : FundingFaults) (quota : Int)
    (store : BillingStore) : Payer → Prop
  | .direct _ => True
  | .session session =>
    quota = session.preConsumedQuota ∨
      FundingWritten config faults (quota - session.preConsumedQuota) store session.funding

def refundTaskQuota (config : BillingConfig) (faults : FundingFaults) (task : SubmittedTask)
    (store : BillingStore) : BillingStore :=
  if task.row.quota = 0 then store
  else (refundFunding config faults task.account task.row store).2

/-- The row records what its funding source gave up, so that a refund gives back that amount or
nothing. -/
def RecordedAsCharged (config : BillingConfig) (origin : FundingOrigin) (task : SubmittedTask)
    (store : BillingStore) : Prop :=
  let taken (store : BillingStore) := fundingTaken origin task.account.funding store.ledger
  task.row.quota = taken store ∧
    ∀ faults, taken (refundTaskQuota config faults task store) = 0 ∨
      taken (refundTaskQuota config faults task store) = taken store

variable {config : BillingConfig} {faults : FundingFaults} {origin : FundingOrigin}
  {delta taken : Int} {store : BillingStore}

theorem settle_account (answers : SettleAnswers) (quota : Int) (session : BillingSession) :
    let settled := (session.settle config answers quota store).2.1
    settled.funding = session.funding ∧ settled.relayInfo.userId = session.relayInfo.userId ∧
      settled.relayInfo.billingSource = session.relayInfo.billingSource ∧
      settled.relayInfo.subscriptionId = session.relayInfo.subscriptionId := by
  unfold settle
  dsimp only
  split_ifs
  · exact ⟨rfl,rfl,rfl,rfl⟩
  · exact ⟨rfl,rfl,rfl,rfl⟩
  · split
    · exact ⟨rfl,rfl,rfl,rfl⟩
    · split <;> exact ⟨rfl,rfl,rfl,rfl⟩

theorem fundingWritten_iff (config : BillingConfig) (faults : FundingFaults)
    {funding : FundingSource} (holds : Holds origin taken funding store) (moves : delta ≠ 0) :
    FundingWritten config faults delta store funding ↔
      (funding.settle config faults delta store).1 = .ok () ∧
        settledTaken origin (taken + delta) funding = taken + delta := by
  cases funding with
  | wallet wallet => exact (walletSettle_ok_iff wallet store moves).symm.trans (by simp [settledTaken])
  | subscription subscription =>
    obtain ⟨row,found,usedEq,-⟩ := holds
    simp only [FundingWritten,subscriptionSettle_ok_iff found moves,settledTaken,found,
      Option.some.injEq,forall_eq',and_assoc]
    refine and_congr_right fun _ => ?_
    by_cases negative : row.amountUsed + delta < 0
    · simp only [clampUsed]
      omega
    · simp only [clampUsed]
      omega

theorem settle_taken {session : BillingSession} (isOpen : OpenSession origin session store)
    (answers : SettleAnswers) (quota : Int) :
    ∃ taken, Holds origin taken session.funding (session.settle config answers quota store).2.2 ∧
      (quota = taken ↔
        SettlementWritten config answers.funding quota store (.session session)) := by
  rcases called : session.settle config answers quota store with ⟨error,settled,after⟩
  obtain ⟨-,effect⟩ := settle_effect answers quota isOpen.holds isOpen.unfinished.1 called
  by_cases same : quota = session.preConsumedQuota
  · rcases effect with ⟨-,-,holds,-⟩ | ⟨settles,-⟩
    · exact ⟨session.preConsumedQuota,holds,iff_of_true same (.inl same)⟩
    · simp [SettlesFunding,same] at settles
  · have moves : quota - session.preConsumedQuota ≠ 0 := by omega
    have written := fundingWritten_iff config answers.funding isOpen.holds moves
    simp only [SettlementWritten,same,false_or,written]
    generalize outcome : session.funding.settle config answers.funding
      (quota - session.preConsumedQuota) store = step at written
    obtain ⟨result,middle⟩ := step
    simp only [SettlesFunding,isOpen.unfinished.1,isOpen.unfinished.2,outcome,decide_eq_true moves] at effect
    rcases effect with ⟨fails,-,holds,-⟩ | ⟨succeeds,-,-,-,holds⟩
    · refine ⟨session.preConsumedQuota,holds,iff_of_false same ?_⟩
      rintro ⟨isOk,-⟩
      simp only at isOk
      simp [isOk,Except.toBool] at fails
    · refine ⟨_,holds,?_⟩
      cases result with
      | error => simp [Except.toBool] at succeeds
      | ok => simp [eq_comm]

theorem PaidFrom.holds {relayInfo : RelayInfo} {funding : FundingSource} {account : TaskAccount}
    (paidFrom : PaidFrom relayInfo funding) (sameUser : account.userId = relayInfo.userId)
    (sameSource : account.billingSource = relayInfo.billingSource)
    (sameSubscription : account.subscriptionId = relayInfo.subscriptionId)
    (holds : Holds origin taken funding store) : Holds origin taken account.funding store := by
  cases funding with
  | wallet =>
    obtain ⟨source,user⟩ := paidFrom
    simpa [TaskAccount.funding,taskIsSubscription,payingSource,sameSource,source,Holds,
      sameUser,← user] using holds
  | subscription =>
    obtain ⟨source,named,positive⟩ := paidFrom
    simpa [TaskAccount.funding,taskIsSubscription,payingSource,sameSource,source,Holds,
      sameSubscription,positive,← named] using holds

theorem recordedAsCharged_iff {task : SubmittedTask} (config : BillingConfig)
    (holds : Holds origin taken task.account.funding store) :
    RecordedAsCharged config origin task store ↔ task.row.quota = taken := by
  have takenEq := fundingTaken_of_holds holds
  unfold RecordedAsCharged
  simp only [takenEq]
  refine ⟨fun recorded => recorded.1,fun recorded => ⟨recorded,fun faults => ?_⟩⟩
  unfold refundTaskQuota
  split_ifs with zero
  · exact .inr takenEq
  · have moves : -task.row.quota ≠ 0 := by omega
    unfold refundFunding
    rw [taskAdjustFunding_eq_settle config faults task.account moves]
    rcases called : task.account.funding.settle config faults (-task.row.quota) store with
      ⟨result,after⟩
    obtain ⟨-,⟨error,rfl,unmoved⟩ | ⟨rfl,moved⟩⟩ := settle_cases holds called
    · exact .inr (fundingTaken_of_holds unmoved)
    · left
      have back : taken + -task.row.quota = 0 := by omega
      rw [back,settledTaken_of_inRange (inRange_of_nonneg le_rfl)] at moved
      exact fundingTaken_of_holds moved

/-- The quota in the inserted row is what the funding source gave up for the submission, and a
refund gives back that or nothing, exactly when the settlement had nothing to change or its write
went through. -/
theorem recorded_quota_charged_iff (env : TaskEnv) (finish : FinishAnswers) (first : LoopTurn)
    (rest : List LoopTurn) (info submitted : TaskRelay) (relayInfo : RelayInfo)
    (result : TaskSubmitResult) (before middle : BillingStore)
    (starts : info.payer = .direct relayInfo) (new : NewRequest relayInfo before)
    (looped : submitLoop env first rest info before = (.ok result, submitted, middle))
    (inserted : finish.insert = none) :
    ∃ task, ∃ turn ∈ first :: rest,
      (relayTask env finish first rest info before).stored = .ok (some task) ∧
        (RecordedAsCharged env.config
            (.of (turn.attempt.session.reset before.subscriptions.plans) before.ledger) task
            (relayTask env finish first rest info before).store ↔
          SettlementWritten env.config finish.settle.funding result.quota middle
            submitted.payer) := by
  have initially : TakenSoFar before (first :: rest) info.payer before := by
    rw [starts]
    exact .nothing new (.refl before)
  have keeps := submitLoop_keeps env initially fun _ member => member
  rw [looped] at keeps
  obtain ⟨charged,costsNothing⟩ := keeps
  cases payer : submitted.payer with
  | direct reached =>
    rw [payer] at charged
    have zero := costsNothing result reached rfl payer
    cases charged with
    | nothing new same =>
      have unsettled : (Payer.direct reached).settleBilling env.config finish.settle
          result.quota middle = (none, .direct reached, middle) := by
        simp [Payer.settleBilling,zero,new.nothingReserved]
      simp only [relayTask,looped,inserted,payer,unsettled]
      refine ⟨_,first,List.mem_cons_self,rfl,iff_of_true ?_ trivial⟩
      have holds : Holds (.of (first.attempt.session.reset before.subscriptions.plans)
          before.ledger) 0 (.wallet { userId := reached.userId, consumed := 0 }) middle := by
        refine ⟨(new.of_same same).userExists,?_⟩
        rw [same.wallet,Int.sub_zero]
        rfl
      refine (recordedAsCharged_iff env.config ?_).mpr zero
      simpa [taskToInsert,TaskAccount.funding,taskIsSubscription,payingSource,
        Payer.relayInfo,new.noSource] using holds
  | session session =>
    rw [payer] at charged
    cases charged with
    | reserved turn member isOpen =>
      obtain ⟨taken,holds,quotaIff⟩ := settle_taken isOpen finish.settle result.quota
      obtain ⟨sameFunding,sameUser,sameSource,sameSubscription⟩ :=
        settle_account finish.settle result.quota session
      simp only [relayTask,looped,inserted,payer]
      refine ⟨_,turn,member,rfl,(recordedAsCharged_iff env.config ?_).trans quotaIff⟩
      exact isOpen.paidFrom.holds sameUser sameSource sameSubscription holds

def doubledTurn : LoopTurn where
  setup := none
  attempt :=
    { soraAttempt with
      adaptor := some
        { soraAdaptor with
          adjustBillingOnSubmit := (∅ : RatioTable).insert "seconds" (.finite 2) } }
  retry :=
    { affinitySkips := false
      retryTimes := 0
      specificChannel := false
      alwaysSkipRetryStatusCode := fun _ => false }

def finishWith (walletFault : Option GoError) : FinishAnswers where
  settle := { funding := { FundingFaults.succeeds with wallet := walletFault }, token := none }
  now := 100
  insert := none

/-- The 25 units of the adjustment cannot be taken. The row still records 50, and its refund leaves
the user with 125 of the 100 units they had. -/
theorem failed_settlement_overrecords :
    let outcome := relayTask plainTaskEnv (finishWith (some (.message "database is locked")))
      doubledTurn [] newTaskRelay fundedStore
    ((outcome.stored.toOption.bind id).map fun task =>
      (task.row.quota, outcome.store.users 1,
        (refundTaskQuota directConfig .succeeds task outcome.store).users 1)) =
      some (50, some 75, some 125) := by
  decide +kernel

def Payer.isWallet : Payer → Bool
  | .session billing => billing.funding.source = .wallet
  | .direct _ => false

/-- The same submission with a settlement that goes through. -/
theorem doubled_task_recorded :
    ∃ task, ∃ turn ∈ [doubledTurn],
      (relayTask plainTaskEnv (finishWith none) doubledTurn [] newTaskRelay fundedStore).stored =
          .ok (some task) ∧
        RecordedAsCharged plainTaskEnv.config
          (.of (turn.attempt.session.reset fundedStore.subscriptions.plans) fundedStore.ledger) task
          (relayTask plainTaskEnv (finishWith none) doubledTurn [] newTaskRelay fundedStore).store := by
  have evaluated : (submitLoop plainTaskEnv doubledTurn [] newTaskRelay fundedStore).1.isOk = true ∧
      (submitLoop plainTaskEnv doubledTurn [] newTaskRelay fundedStore).2.1.payer.isWallet = true := by
    decide +kernel
  rcases looped : submitLoop plainTaskEnv doubledTurn [] newTaskRelay fundedStore with
    ⟨result,submitted,middle⟩
  rw [looped] at evaluated
  obtain ⟨succeeded,byWallet⟩ := evaluated
  cases result with
  | error => cases succeeded
  | ok result =>
    obtain ⟨task,turn,member,stored,recorded⟩ := recorded_quota_charged_iff plainTaskEnv
      (finishWith none) doubledTurn [] newTaskRelay submitted (requestInfo "wallet_only") result
      fundedStore middle rfl ⟨rfl,rfl,rfl,rfl⟩ looped rfl
    refine ⟨task,turn,member,stored,recorded.mpr ?_⟩
    cases payer : submitted.payer with
    | direct => trivial
    | session session =>
      right
      cases funding : session.funding with
      | wallet => exact .inr rfl
      | subscription =>
        simp [payer,Payer.isWallet,FundingSource.source,funding] at byWallet

end

end NewApi
