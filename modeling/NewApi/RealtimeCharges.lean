import NewApi.RealtimeSession

/-!
# Realtime sessions pay twice

The charges of the turns and the settlement of the sum do not know of each
other.
-/

namespace NewApi

open GuardedRuns RealtimeState

/-- A usage that has tokens unless it is empty, as every usage counted on this side. -/
def CountedUsage (usage : RealtimeUsage) : Prop :=
  0 ≤ usage.totalTokens ∧ (usage.totalTokens = 0 → usage = 0)

theorem countedUsage_zero : CountedUsage 0 := ⟨le_rfl, fun _ => rfl⟩

theorem CountedUsage.add {first second : RealtimeUsage} (left : CountedUsage first)
    (right : CountedUsage second) : CountedUsage (first + second) := by
  obtain ⟨leftNonneg,leftEmpty⟩ := left
  obtain ⟨rightNonneg,rightEmpty⟩ := right
  constructor
  · rw [RealtimeUsage.totalTokens_add]
    omega
  · intro none_
    rw [RealtimeUsage.totalTokens_add] at none_
    rw [leftEmpty (by omega),rightEmpty (by omega),add_zero]

theorem countedUsage_tokens (tokens : CountedTokens) :
    CountedUsage tokens.asInput ∧ CountedUsage tokens.asOutput := by
  obtain ⟨text,audio⟩ := tokens
  constructor
  all_goals
    refine ⟨?_,fun none_ => ?_⟩
    · simp only [CountedTokens.asInput,CountedTokens.asOutput]
      omega
    · simp only [CountedTokens.asInput,CountedTokens.asOutput] at none_
      obtain ⟨rfl,rfl⟩ : text = 0 ∧ audio = 0 := by omega
      rfl

section

variable {config : BillingConfig} {origin : FundingOrigin} {taken other : Int}
  {funding : FundingSource}

theorem Holds.unique {store : BillingStore}
    (first : Holds origin taken funding store) (second : Holds origin other funding store) :
    taken = other := by
  cases funding with
  | wallet =>
    have balance := first.2.symm.trans second.2
    omega
  | subscription =>
    obtain ⟨row,found,used,-⟩ := first
    obtain ⟨sameRow,sameFound,sameUsed,-⟩ := second
    obtain rfl : row = sameRow := Option.some.inj (found.symm.trans sameFound)
    omega

def SameSource (relayInfo : RelayInfo) : FundingSource → Prop
  | .wallet wallet =>
    relayInfo.billingSource ≠ .subscription ∧ wallet.userId = relayInfo.userId
  | .subscription subscription =>
    relayInfo.billingSource = .subscription ∧
      subscription.subscriptionId = relayInfo.subscriptionId

theorem SameSource.holds_iff {relayInfo : RelayInfo}
    (same : SameSource relayInfo funding) {store : BillingStore} :
    Holds origin taken funding store ↔ Holds origin taken relayInfo.funding store := by
  cases funding with
  | wallet =>
    obtain ⟨notSubscription,sameUser⟩ := same
    simp [RelayInfo.funding,payingSource,notSubscription,Holds,sameUser]
  | subscription =>
    obtain ⟨isSubscription,sameId⟩ := same
    simp [RelayInfo.funding,payingSource,isSubscription,Holds,sameId]

def Payer.Open : Payer → Prop
  | .session billing => billing.settled = false ∧ billing.fundingSettled = false ∧
    SameSource billing.relayInfo billing.funding
  | .direct relayInfo => relayInfo.finalPreConsumedQuota = 0

def Payer.preConsumed : Payer → Int
  | .session billing => billing.preConsumedQuota
  | .direct _ => 0

variable {payer : Payer} {actualQuota charged : Int}

/-- A turn leaves the payer as it is, apart from a note in its `RelayInfo`. -/
theorem Payer.withRelayInfo_noted {relayInfo : RelayInfo} (isOpen : payer.Open)
    (noted : ∃ postDelta, relayInfo = { payer.relayInfo with subscriptionPostDelta := postDelta }) :
    (payer.withRelayInfo relayInfo).Open ∧
      (payer.withRelayInfo relayInfo).preConsumed = payer.preConsumed ∧
      (payer.withRelayInfo relayInfo).relayInfo.funding = payer.relayInfo.funding := by
  obtain ⟨postDelta,rfl⟩ := noted
  cases payer with
  | session =>
    obtain ⟨notSettled,notFunded,same⟩ := isOpen
    refine ⟨⟨notSettled,notFunded,?_⟩,rfl,rfl⟩
    exact same
  | direct => exact ⟨isOpen,rfl,rfl⟩

theorem session_settle_charges {billing after : BillingSession} {before store : BillingStore}
    (notSettled : billing.settled = false) (notFunded : billing.fundingSettled = false)
    (nonneg : 0 ≤ actualQuota + charged)
    (paid : Holds origin (billing.preConsumedQuota + charged) billing.funding before)
    (called : billing.settle config settleSucceeds actualQuota before = (none, after, store)) :
    Holds origin (actualQuota + charged) billing.funding store ∧
      after.relayInfo.funding = billing.relayInfo.funding := by
  obtain ⟨-,⟨-,marked,held,reason⟩ | ⟨-,-,-,⟨postDelta,noted⟩,held⟩⟩ :=
    settle_effect settleSucceeds actualQuota paid notFunded called
  · have sameQuota : actualQuota = billing.preConsumedQuota :=
      (reason rfl).resolve_left (by simp [notSettled])
    refine ⟨sameQuota ▸ held,?_⟩
    rcases marked with rfl | rfl <;> rfl
  · have total : billing.preConsumedQuota + charged + (actualQuota - billing.preConsumedQuota) =
        actualQuota + charged := by omega
    rw [total,settledTaken_of_inRange (inRange_of_nonneg nonneg)] at held
    exact ⟨held,noted ▸ rfl⟩

theorem Payer.settleBilling_charges {after : Payer} {before store : BillingStore}
    (isOpen : payer.Open) (nonneg : 0 ≤ actualQuota) (chargedNonneg : 0 ≤ charged)
    (paid : Holds origin (payer.preConsumed + charged) payer.relayInfo.funding before)
    (called : payer.settleBilling config settleSucceeds actualQuota before = (none, after, store)) :
    Holds origin (actualQuota + charged) after.relayInfo.funding store := by
  cases payer with
  | session billing =>
    obtain ⟨notSettled,notFunded,same⟩ := isOpen
    rcases settled : billing.settle config settleSucceeds actualQuota before with
      ⟨error,billing',store'⟩
    simp only [Payer.settleBilling,settled] at called
    cases called
    obtain ⟨moved,sameFunding⟩ := session_settle_charges notSettled notFunded
      (Int.add_nonneg nonneg chargedNonneg) (same.holds_iff.mpr paid) settled
    simp only [Payer.relayInfo]
    rw [sameFunding]
    exact same.holds_iff.mp moved
  | direct relayInfo =>
    have nothing : relayInfo.finalPreConsumedQuota = 0 := isOpen
    simp only [Payer.settleBilling,nothing,sub_zero] at called
    simp only [Payer.preConsumed,zero_add] at paid
    split_ifs at called with zero
    · rcases charges : postConsumeQuota config settleSucceeds relayInfo actualQuota before with
        ⟨error,relayInfo',store'⟩
      simp only [charges] at called
      cases called
      obtain ⟨⟨postDelta,rfl⟩,⟨-,failed,-⟩ | ⟨-,-,moved⟩⟩ :=
        postConsumeQuota_cases config paid nonneg charges
      · exact absurd rfl failed
      · rwa [add_comm]
    · cases called
      rwa [not_not.mp zero,zero_add]

variable {env : RealtimeEnv} {state : RealtimeState} {handed : RealtimeUsage}

structure Charged (origin : FundingOrigin) (payer : Payer) (store : BillingStore) (charged : Int) :
    Prop where
  isOpen : payer.Open
  nonneg : 0 ≤ charged
  paid : Holds origin (payer.preConsumed + charged) payer.relayInfo.funding store

theorem preConsumeUsage_cases (perToken : env.PerToken) (turn : TurnAnswers)
    (usage : RealtimeUsage) (before : Charged origin state.payer state.store charged) :
    ∃ error payer store, state.preConsumeUsage env turn usage = (error,
        { state with sumUsage := state.sumUsage + usage, payer := payer, store := store }) ∧
      ((turnRefused env.config turn state.payer.relayInfo usage state.store = true ∧
          error ≠ none ∧ Charged origin payer store charged) ∨
        (turnRefused env.config turn state.payer.relayInfo usage state.store = false ∧
          error = none ∧ Charged origin payer store (charged + turnQuota turn usage))) := by
  rcases called : preWssConsumeQuota env.config settleSucceeds turn false state.payer.relayInfo
    usage state.store with ⟨error,relayInfo,store⟩
  obtain ⟨noted,outcome⟩ := preWssConsumeQuota_cases env.config before.paid turn usage called
  obtain ⟨isOpen,samePre,sameFunding⟩ := Payer.withRelayInfo_noted before.isOpen noted
  refine ⟨error,state.payer.withRelayInfo relayInfo,store,?_,outcome.imp ?_ ?_⟩
  · simp only [preConsumeUsage,perToken.usePrice,called]
  · rintro ⟨refused,failed,kept⟩
    refine ⟨refused,failed,isOpen,before.nonneg,?_⟩
    rwa [samePre,sameFunding]
  · rintro ⟨accepted,written,moved⟩
    refine ⟨accepted,written,isOpen,?_,?_⟩
    · exact Int.add_nonneg before.nonneg (turnQuota_nonneg turn usage)
    · rwa [samePre,sameFunding,← add_assoc]

/-- `handed` is the usage of a refused turn: it is in the sum, and still waits in
the variable it came from. -/
structure RealtimeInvariant (origin : FundingOrigin) (state : RealtimeState) (charged : Int)
    (handed : RealtimeUsage) : Prop where
  charges : Charged origin state.payer state.store charged
  summed : state.sumUsage = state.reported + handed
  running : state.readerStopped = false → state.usage = 0 ∧ handed = 0
  waiting : (state.usage = 0 ∧ CountedUsage handed ∧
      ∃ extra, CountedUsage extra ∧ state.localUsage = handed + extra) ∨
    (state.usage = handed ∧ CountedUsage state.localUsage)

/-- Nothing was charged, and nothing with tokens was refused. -/
def Clean (charged : Int) (handed : RealtimeUsage) : Prop :=
  charged = 0 ∧ handed.totalTokens = 0

theorem RealtimeInvariant.counted (invariant : RealtimeInvariant origin state charged handed) :
    CountedUsage state.localUsage := by
  rcases invariant.waiting with ⟨-,countedHanded,extra,countedExtra,same⟩ | ⟨-,counted⟩
  · rw [same]
    exact countedHanded.add countedExtra
  · exact counted

theorem RealtimeInvariant.count (invariant : RealtimeInvariant origin state charged handed)
    {tokens : RealtimeUsage} (counted : CountedUsage tokens) :
    RealtimeInvariant origin { state with localUsage := state.localUsage + tokens } charged
      handed := by
  refine ⟨invariant.charges,invariant.summed,invariant.running,?_⟩
  rcases invariant.waiting with ⟨empty,countedHanded,extra,countedExtra,same⟩ | ⟨waits,-⟩
  · refine .inl ⟨empty,countedHanded,extra + tokens,countedExtra.add counted,?_⟩
    rw [same,add_assoc]
  · exact .inr ⟨waits,invariant.counted.add counted⟩

theorem clean_add {cost : Int} (nonneg : 0 ≤ charged) (costNonneg : 0 ≤ cost)
    (empty : handed = 0) : Clean (charged + cost) 0 ↔ Clean charged handed ∧ cost = 0 := by
  rw [empty]
  constructor
  · rintro ⟨total,-⟩
    exact ⟨⟨by omega,rfl⟩,by omega⟩
  · rintro ⟨⟨free,-⟩,costFree⟩
    exact ⟨by omega,rfl⟩

theorem realtime_step (perToken : env.PerToken) (message : RealtimeMessage)
    (invariant : RealtimeInvariant origin state charged handed) :
    ∃ charged' handed', RealtimeInvariant origin (state.step env message) charged' handed' ∧
      (Clean charged' handed' ↔ Clean charged handed ∧ state.FreeMessage env message) := by
  cases message with
  | client tokens =>
    exact ⟨charged,handed,invariant.count (countedUsage_tokens tokens).1,
      (and_iff_left trivial).symm⟩
  | delta tokens =>
    simp only [step]
    split_ifs with stopped
    · exact ⟨charged,handed,invariant,(and_iff_left trivial).symm⟩
    · exact ⟨charged,handed,invariant.count (countedUsage_tokens tokens).2,
        (and_iff_left trivial).symm⟩
  | responseUsage usage turn =>
    simp only [step,RealtimeState.FreeMessage]
    split_ifs with stopped
    · exact ⟨charged,handed,invariant,by simp [stopped]⟩
    · have isRunning : state.readerStopped = false := by simpa using stopped
      obtain ⟨noUsage,nothingHanded⟩ := invariant.running isRunning
      obtain ⟨error,payer,store,called,outcome⟩ :=
        preConsumeUsage_cases perToken turn (state.usage + usage) invariant.charges
      rw [called]
      rcases outcome with ⟨refused,failed,charges⟩ | ⟨accepted,rfl,charges⟩
      · obtain ⟨failure,rfl⟩ := Option.ne_none_iff_exists'.mp failed
        refine ⟨charged,state.usage + usage,⟨charges,?_,by simp,.inr ⟨rfl,invariant.counted⟩⟩,
          ?_⟩
        · simp only [invariant.summed,nothingHanded,add_zero]
        · simp [Clean,isRunning,RealtimeState.FreeTurn,refused,nothingHanded]
      · refine ⟨charged + turnQuota turn (state.usage + usage),0,⟨charges,?_,fun _ => ⟨rfl,rfl⟩,
          .inl ⟨rfl,countedUsage_zero,0,countedUsage_zero,(add_zero 0).symm⟩⟩,?_⟩
        · simp only [invariant.summed,nothingHanded,add_zero]
        · rw [clean_add invariant.charges.nonneg (turnQuota_nonneg _ _) nothingHanded]
          simp [isRunning,RealtimeState.FreeTurn,accepted]
  | responseCounted tokens turn =>
    simp only [step,RealtimeState.FreeMessage]
    split_ifs with stopped
    · exact ⟨charged,handed,invariant,by simp [stopped]⟩
    · have isRunning : state.readerStopped = false := by simpa using stopped
      obtain ⟨noUsage,nothingHanded⟩ := invariant.running isRunning
      have counted := invariant.counted.add (countedUsage_tokens tokens).1
      obtain ⟨error,payer,store,called,outcome⟩ :=
        preConsumeUsage_cases perToken turn (state.localUsage + tokens.asInput) invariant.charges
      rw [called]
      rcases outcome with ⟨refused,failed,charges⟩ | ⟨accepted,rfl,charges⟩
      · obtain ⟨failure,rfl⟩ := Option.ne_none_iff_exists'.mp failed
        refine ⟨charged,state.localUsage + tokens.asInput,⟨charges,?_,by simp,
          .inl ⟨noUsage,counted,0,countedUsage_zero,(add_zero _).symm⟩⟩,?_⟩
        · simp only [invariant.summed,nothingHanded,add_zero]
        · simp [Clean,isRunning,RealtimeState.FreeTurn,refused,nothingHanded]
      · refine ⟨charged + turnQuota turn (state.localUsage + tokens.asInput),0,⟨charges,?_,
          fun _ => ⟨noUsage,rfl⟩,
          .inl ⟨noUsage,countedUsage_zero,0,countedUsage_zero,(add_zero 0).symm⟩⟩,?_⟩
        · simp only [invariant.summed,nothingHanded,add_zero]
        · rw [clean_add invariant.charges.nonneg (turnQuota_nonneg _ _) nothingHanded]
          simp [isRunning,RealtimeState.FreeTurn,accepted]

theorem realtime_run (perToken : env.PerToken) (messages : List RealtimeMessage)
    (invariant : RealtimeInvariant origin state charged handed) :
    ∃ charged' handed',
      RealtimeInvariant origin (run (step env) state messages) charged' handed' ∧
      (Clean charged' handed' ↔ Clean charged handed ∧
        Guarded (step env) (RealtimeState.FreeMessage env) state messages) := by
  induction messages generalizing state charged handed with
  | nil => exact ⟨charged,handed,invariant,by simp [Guarded]⟩
  | cons message messages ih =>
    obtain ⟨charged',handed',next,clean⟩ := realtime_step perToken message invariant
    obtain ⟨charged'',handed'',last,cleanLater⟩ := ih next
    refine ⟨charged'',handed'',last,?_⟩
    rw [cleanLater,clean,Guarded,and_assoc]

def flushed (usage : RealtimeUsage) : RealtimeUsage :=
  if usage.totalTokens ≠ 0 then usage else 0

theorem CountedUsage.flushed_eq {usage : RealtimeUsage} (counted : CountedUsage usage) :
    flushed usage = usage := by
  unfold flushed
  split_ifs with tokens
  · rfl
  · exact (counted.2 (not_not.mp tokens)).symm

theorem flush_cases (perToken : env.PerToken) (turn : TurnAnswers) (usage : RealtimeUsage)
    (before : Charged origin state.payer state.store charged) :
    ∃ cost payer store, 0 ≤ cost ∧ (cost = 0 ↔ state.FreeFlush env turn usage) ∧
      Charged origin payer store (charged + cost) ∧ state.flush env turn usage =
        { state with
          sumUsage := state.sumUsage + flushed usage
          payer := payer
          store := store } := by
  unfold flush RealtimeState.FreeFlush flushed
  split_ifs with tokens
  · obtain ⟨error,payer,store,called,outcome⟩ :=
      preConsumeUsage_cases perToken turn usage before
    rw [called]
    rcases outcome with ⟨refused,-,charges⟩ | ⟨accepted,-,charges⟩
    · exact ⟨0,payer,store,le_rfl,by simp [refused],by rwa [add_zero],rfl⟩
    · exact ⟨turnQuota turn usage,payer,store,turnQuota_nonneg turn usage,
        by simp [tokens,accepted],charges,rfl⟩
  · exact ⟨0,state.payer,state.store,le_rfl,by simp [tokens],by rwa [add_zero],
      by rw [add_zero]⟩

theorem summed_once_iff (invariant : RealtimeInvariant origin state charged handed) :
    state.sumUsage + flushed state.usage + flushed state.localUsage =
      state.reported + state.usage + state.localUsage ↔ handed.totalTokens = 0 := by
  rw [invariant.counted.flushed_eq,add_left_inj,invariant.summed,add_assoc,add_right_inj]
  rcases invariant.waiting with ⟨empty,counted,-⟩ | ⟨waits,-⟩
  · rw [empty]
    have nothing : handed + flushed 0 = 0 ↔ handed = 0 := by
      rw [countedUsage_zero.flushed_eq,add_zero]
    rw [nothing]
    exact ⟨fun isZero => isZero ▸ rfl,counted.2⟩
  · rw [waits,add_eq_left]
    unfold flushed
    split_ifs with tokens
    · exact ⟨fun isZero => absurd (isZero ▸ rfl) tokens,fun none_ => absurd none_ tokens⟩
    · exact ⟨fun _ => not_not.mp tokens,fun _ => rfl⟩

theorem postWssQuota_nonneg (perToken : env.PerToken) (usage : RealtimeUsage) :
    0 ≤ postWssQuota env.pricing env.tiered usage := by
  unfold postWssQuota
  split_ifs
  · exact le_rfl
  · rw [perToken.notTiered]
    exact calculateAudioQuota_nonneg perToken.priceData usage

theorem finish_charged_once_iff (perToken : env.PerToken) (first second : TurnAnswers)
    (invariant : RealtimeInvariant origin state charged handed)
    (settled : ((state.finish env first second).settle env).1 = none) :
    ((state.finish env first second).settle env).2.ChargedOnce env origin ↔
      Clean charged handed ∧ state.FreeFinish env first second := by
  obtain ⟨firstCost,payer,store,firstNonneg,firstFree,afterFirst,firstFlush⟩ :=
    flush_cases perToken first state.usage invariant.charges
  have secondCharges : Charged origin (state.flush env first state.usage).payer
      (state.flush env first state.usage).store (charged + firstCost) := by
    rwa [firstFlush]
  obtain ⟨secondCost,lastPayer,lastStore,secondNonneg,secondFree,afterSecond,secondFlush⟩ :=
    flush_cases perToken second state.localUsage secondCharges
  have finished : state.finish env first second =
      { state with
        sumUsage := state.sumUsage + flushed state.usage + flushed state.localUsage
        payer := lastPayer
        store := lastStore
        reported := state.reported + state.usage + state.localUsage } := by
    unfold finish
    rw [secondFlush,firstFlush]
  generalize sumEq : state.sumUsage + flushed state.usage + flushed state.localUsage = sum
    at finished
  generalize reportedEq : state.reported + state.usage + state.localUsage = reported at finished
  have summed := summed_once_iff invariant
  rw [sumEq,reportedEq] at summed
  rcases called : lastPayer.settleBilling env.config settleSucceeds
    (postWssQuota env.pricing env.tiered sum) lastStore with ⟨error,settledPayer,settledStore⟩
  simp only [settle,finished,called] at settled ⊢
  subst settled
  have paid := Payer.settleBilling_charges afterSecond.isOpen (postWssQuota_nonneg perToken sum)
    afterSecond.nonneg afterSecond.paid called
  have noCost : charged + firstCost + secondCost = 0 ↔
      charged = 0 ∧ firstCost = 0 ∧ secondCost = 0 := by
    have nonneg := invariant.charges.nonneg
    omega
  unfold RealtimeState.ChargedOnce Clean RealtimeState.FreeFinish
  rw [← firstFree,← secondFree]
  constructor
  · rintro ⟨once,onlySum⟩
    have sameSum : sum = reported := once
    subst sameSum
    have total : postWssQuota env.pricing env.tiered sum + (charged + firstCost + secondCost) =
        postWssQuota env.pricing env.tiered sum := Holds.unique paid onlySum
    obtain ⟨free,firstZero,secondZero⟩ := noCost.mp (add_eq_left.mp total)
    exact ⟨⟨free,summed.mp rfl⟩,firstZero,secondZero⟩
  · rintro ⟨⟨free,noTokens⟩,firstZero,secondZero⟩
    have sameSum := summed.mpr noTokens
    subst sameSum
    rw [noCost.mpr ⟨free,firstZero,secondZero⟩,add_zero] at paid
    exact ⟨rfl,paid⟩

/-- A session is charged once exactly when every turn is free: what is charged costs
nothing, and what is refused before the end has no tokens. -/
theorem realtime_charged_once_iff (env : RealtimeEnv) (origin : FundingOrigin) (payer : Payer)
    (store : BillingStore) (messages : List RealtimeMessage) (first second : TurnAnswers)
    (perToken : env.PerToken) (isOpen : payer.Open)
    (paid : Holds origin payer.preConsumed payer.relayInfo.funding store)
    (settled : (((run (RealtimeState.step env) (.start payer store) messages).finish env first
      second).settle env).1 = none) :
    (((run (RealtimeState.step env) (.start payer store) messages).finish env first second).settle
        env).2.ChargedOnce env origin ↔
      Guarded (RealtimeState.step env) (RealtimeState.FreeMessage env) (.start payer store)
          messages ∧
        (run (RealtimeState.step env) (.start payer store) messages).FreeFinish env first
          second := by
  have initially : RealtimeInvariant origin (.start payer store) 0 0 := by
    refine ⟨⟨isOpen,le_rfl,?_⟩,(add_zero 0).symm,fun _ => ⟨rfl,rfl⟩,.inr ⟨rfl,countedUsage_zero⟩⟩
    rwa [add_zero]
  obtain ⟨charged,handed,invariant,clean⟩ := realtime_run perToken messages initially
  rw [finish_charged_once_iff perToken first second invariant settled,clean]
  simp [Clean]

end

section

variable {config : BillingConfig} {answers : SessionAnswers} {relayInfo : RelayInfo}
  {preConsumedQuota : Int} {session : BillingSession} {before after : BillingStore}

theorem newBillingSession_opens (nonneg : 0 ≤ preConsumedQuota)
    (userExists : (before.users relayInfo.userId).isSome)
    (fresh : before.subscriptions.preConsumeRecords relayInfo.requestId = none)
    (created : newBillingSession config answers (some relayInfo) preConsumedQuota before =
      (.ok session, after)) :
    (Payer.session session).Open ∧
      Holds (.of (answers.reset before.subscriptions.plans) before.ledger)
        (Payer.session session).preConsumed (Payer.session session).relayInfo.funding after := by
  have opens : Opens (answers.reset before.subscriptions.plans) before
      (newBillingSession config answers (some relayInfo) preConsumedQuota before) :=
    createSession_opens config answers nonneg userExists fresh
  rw [created] at opens
  obtain ⟨holds,⟨notFunded,notSettled⟩,paidFrom⟩ := opens
  have same : SameSource session.relayInfo session.funding := by
    cases funding : session.funding with
    | wallet =>
      rw [funding] at paidFrom
      exact ⟨by simp [paidFrom.1],paidFrom.2⟩
    | subscription =>
      rw [funding] at paidFrom
      exact ⟨paidFrom.1,paidFrom.2.1⟩
  exact ⟨⟨notSettled,notFunded,same⟩,same.holds_iff.mp holds⟩

end

def flatPricing (ratio : Rat) : AudioPricing where
  usePrice := false
  modelPrice := 0
  quotaPerUnit := 500000
  completionRatio := 1
  audioRatio := 1
  audioCompletionRatio := 1
  modelRatio := ratio
  groupRatio := 1

def flatTurn (ratio : Rat) : TurnAnswers where
  userQuota := { cached := .error .recordNotFound, database := none }
  token := .ok (false, 40)
  pricing := flatPricing ratio

def flatEnv (ratio : Rat) : RealtimeEnv where
  config := directConfig
  usePrice := false
  pricing := flatPricing ratio
  tiered := none

def oneTurn (ratio : Rat) : Option GoError × RealtimeState :=
  ((run (RealtimeState.step (flatEnv ratio))
    (.start (.session walletSession.session) walletSession.store)
    [.responseUsage ⟨20, 20, 0, 0, 20, 0, 0, 0⟩ (flatTurn ratio)]).finish (flatEnv ratio)
      (flatTurn ratio) (flatTurn ratio)).settle (flatEnv ratio)

theorem walletSession_opens :
    (Payer.session walletSession.session).Open ∧
      Holds (.of (faultlessAnswers.reset fundedStore.subscriptions.plans) fundedStore.ledger)
        (Payer.session walletSession.session).preConsumed
        (Payer.session walletSession.session).relayInfo.funding walletSession.store :=
  newBillingSession_opens (by decide) rfl rfl
    (show newBillingSession directConfig faultlessAnswers (some (requestInfo "wallet_only")) 10
      fundedStore = (.ok walletSession.session, walletSession.store) from rfl)

/-- At a hundredth of a unit per token the turn rounds to nothing. -/
theorem realtime_charged_once_iff_cheap :
    (oneTurn (1 / 100)).2.ChargedOnce (flatEnv (1 / 100))
      (.of (faultlessAnswers.reset fundedStore.subscriptions.plans) fundedStore.ledger) := by
  refine (realtime_charged_once_iff (flatEnv (1 / 100)) _ (.session walletSession.session)
    walletSession.store [.responseUsage ⟨20,20,0,0,20,0,0,0⟩ (flatTurn (1 / 100))]
    (flatTurn (1 / 100)) (flatTurn (1 / 100)) ⟨rfl,rfl,rfl⟩ walletSession_opens.1
    walletSession_opens.2 (by decide +kernel)).mpr ⟨⟨fun _ => ?_,trivial⟩,?_,?_⟩
  · have accepted : turnRefused directConfig (flatTurn (1 / 100)) walletSession.session.relayInfo
        (0 + ⟨20,20,0,0,20,0,0,0⟩) walletSession.store = false := by decide +kernel
    have free : turnQuota (flatTurn (1 / 100)) (0 + ⟨20,20,0,0,20,0,0,0⟩) = 0 := by
      decide +kernel
    unfold RealtimeState.FreeTurn
    split_ifs with refused
    · exact absurd (accepted.symm.trans refused) (by decide)
    · exact free
  · exact fun tokens => absurd (by decide +kernel) tokens
  · exact fun tokens => absurd (by decide +kernel) tokens

/-- At one unit per token the turn takes twenty, and the settlement twenty again. -/
theorem realtime_turn_charged_twice :
    (Payer.session walletSession.session).Open ∧ (oneTurn 1).1 = none ∧
      ¬ (oneTurn 1).2.ChargedOnce (flatEnv 1)
        (.of (faultlessAnswers.reset fundedStore.subscriptions.plans) fundedStore.ledger) := by
  refine ⟨walletSession_opens.1,by decide +kernel,?_⟩
  rintro ⟨-,paid⟩
  have left : (oneTurn 1).2.store.ledger.wallet 1 = 60 := by decide +kernel
  have quota : postWssQuota (flatEnv 1).pricing (flatEnv 1).tiered (oneTurn 1).2.reported = 20 := by
    decide +kernel
  have funding : (oneTurn 1).2.payer.relayInfo.funding = .wallet ⟨1,0⟩ := by decide +kernel
  rw [quota,funding] at paid
  have owed : (60 : Int) = 100 - 20 := left.symm.trans paid.2
  omega

end NewApi
