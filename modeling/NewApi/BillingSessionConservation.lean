import NewApi.BillingSessionOpening

/-!
# A billing session conserves its funding source

The ghost list `effects` keeps the calls whose funding step took effect.
-/

namespace NewApi

open BillingStore BillingSession GuardedRuns

inductive FundingEffect where
  | settled (actual : Int)
  | refunded
deriving DecidableEq, Repr

structure SessionState where
  session : BillingSession
  store : BillingStore
  pending : List RefundJob
  effects : List FundingEffect

inductive SessionCall where
  | reserve (targetQuota : Int) (funding : FundingFaults) (token : ReserveAnswers)
      (tokenRemain : Int)
  | settle (actualQuota : Int) (answers : SettleAnswers)
  | refund
  | runJob

/-- This `Settle` reaches the funding source, and the write succeeds. -/
def SettlesFunding (config : BillingConfig) (answers : SettleAnswers) (actualQuota : Int)
    (session : BillingSession) (store : BillingStore) : Bool :=
  !session.settled && !session.fundingSettled &&
    decide (actualQuota - session.preConsumedQuota ≠ 0) &&
    (session.funding.settle config answers.funding
      (actualQuota - session.preConsumedQuota) store).1.isOk

namespace SessionState

def start (session : BillingSession) (store : BillingStore) : SessionState where
  session := session
  store := store
  pending := []
  effects := []

/-- One call, or one pending job. Roll-backs and the writes of a job succeed. -/
def step (config : BillingConfig) (state : SessionState) : SessionCall → SessionState
  | .reserve targetQuota funding token tokenRemain =>
    let (_, session, store) := state.session.reserve config
      { funding := funding, token := token, tokenRemain := tokenRemain, rollback := .succeeds }
      targetQuota state.store
    { state with session := session, store := store }
  | .settle actualQuota answers =>
    let (_, session, store) := state.session.settle config answers actualQuota state.store
    { state with
      session := session
      store := store
      effects :=
        if SettlesFunding config answers actualQuota state.session state.store then
          state.effects ++ [.settled actualQuota]
        else state.effects }
  | .refund =>
    match state.session.refund with
    | (session, none) => { state with session := session }
    | (session, some job) =>
      { state with
        session := session
        pending := state.pending ++ [job]
        effects := state.effects ++ [.refunded] }
  | .runJob =>
    match state.pending with
    | [] => state
    | job :: rest =>
      { state with
        store := job.run config .succeeds state.session.funding state.store
        pending := rest }

end SessionState

def fundingTaken (origin : FundingOrigin) (funding : FundingSource) (ledger : Ledger) : Int :=
  match funding with
  | .wallet funding => origin.wallet funding.userId - ledger.wallet funding.userId
  | .subscription funding =>
    ((ledger.subscriptions.subscriptions.find? funding.subscriptionId).map
      UserSubscription.amountUsed).getD 0 - origin.used funding.subscriptionId

/-- What the effects so far say the funding source should have given up. -/
def expectedTaken (preConsumedQuota : Int) : List FundingEffect → Int
  | [] => preConsumedQuota
  | .settled actual :: _ => actual
  | .refunded :: _ => 0

/-- At most one call took effect, and once no job is pending the funding source
gave up what that call says. -/
def Conserved (origin : FundingOrigin) (state : SessionState) : Prop :=
  state.effects.length ≤ 1 ∧
    (state.pending = [] →
      fundingTaken origin state.session.funding state.store.ledger =
        expectedTaken state.session.preConsumedQuota state.effects)

/-- A `Settle` that moves the funding source finds the session not refunded, and
does not push a subscription's used amount below zero. -/
def SettleAllowed (config : BillingConfig) (state : SessionState) : SessionCall → Prop
  | .settle actualQuota answers =>
    SettlesFunding config answers actualQuota state.session state.store = true →
      state.session.refunded = false ∧
        ∀ funding row, state.session.funding = .subscription funding →
          state.store.subscriptions.subscriptions.find? funding.subscriptionId = some row →
          0 ≤ row.amountUsed + (actualQuota - state.session.preConsumedQuota)
  | _ => True

section

variable {config : BillingConfig} {origin : FundingOrigin} {taken : Int} {session : BillingSession}
  {store : BillingStore}

theorem Backed.of_records {after : BillingStore} (backed : Backed session store)
    (records : after.subscriptions.preConsumeRecords = store.subscriptions.preConsumeRecords) :
    Backed session after := by
  unfold Backed at backed ⊢
  rwa [records]

variable {session' : BillingSession} {store' : BillingStore}

theorem reserve_keeps (answers : ReserveCallAnswers) (targetQuota : Int)
    (compensates : answers.rollback = .succeeds)
    (holds : Holds origin session.preConsumedQuota session.funding store)
    (backed : Backed session store) {error : Option NewAPIError}
    (called : session.reserve config answers targetQuota store = (error, session', store')) :
    Holds origin session'.preConsumedQuota session'.funding store' ∧
      Backed session' store' ∧ session'.settled = session.settled ∧
      session'.refunded = session.refunded ∧ session'.fundingSettled = session.fundingSettled := by
  unfold reserve at called
  dsimp only at called
  split_ifs at called with blocked nothing
  · cases called
    exact ⟨holds,backed,rfl,rfl,rfl⟩
  · cases called
    exact ⟨holds,backed,rfl,rfl,rfl⟩
  generalize deltaEq : targetQuota - session.preConsumedQuota = delta at called nothing
  have raises : 0 < delta := by omega
  rcases funded : session.reserveFunding config answers.funding delta store with ⟨result,middle⟩
  obtain ⟨records,⟨apiError,rfl,unchanged⟩ | ⟨rfl,charged⟩⟩ :=
    reserveFunding_cases holds raises funded
  · simp only [funded] at called
    cases called
    exact ⟨unchanged,backed.of_records records,rfl,rfl,rfl⟩
  simp only [funded] at called
  have tokenFrame := reserveToken_frame config answers.token answers.tokenRemain delta session middle
  rcases tokenStep : session.reserveToken config answers.token answers.tokenRemain delta middle with
    ⟨tokenResult,after⟩
  rw [tokenStep] at tokenFrame
  have chargedAfter := charged.frame tokenFrame
  have recordsAfter : after.subscriptions.preConsumeRecords =
      store.subscriptions.preConsumeRecords := by
    rwa [tokenFrame.2.2]
  cases tokenResult with
  | error =>
    obtain ⟨fundingBack,heldBack,recordsBack⟩ :=
      rollbackFundingReserve_undoes config chargedAfter raises holds.inRange
    simp only [tokenStep,compensates] at called
    cases called
    rw [fundingBack]
    exact ⟨heldBack,backed.of_records (recordsBack.trans recordsAfter),rfl,rfl,rfl⟩
  | ok =>
    simp only [tokenStep] at called
    cases called
    refine ⟨(holds_addConsumed delta).mpr chargedAfter,?_,rfl,rfl,rfl⟩
    have stillBacked := backed.of_records recordsAfter
    unfold Backed at stillBacked ⊢
    cases fundingEq : session.funding with
    | wallet =>
      rw [fundingEq] at stillBacked
      simp only [syncRelayInfo,addConsumed]
      omega
    | subscription subscription =>
      rw [fundingEq] at stillBacked
      obtain ⟨positive,extraNonneg,sumEq,-,named,recorded⟩ := stillBacked
      refine ⟨positive,?_,?_,syncedRelayInfo_subscriptionId rfl,named,recorded⟩
      · change 0 ≤ session.extraReserved + delta
        omega
      · change subscription.preConsumed + (session.extraReserved + delta) =
          session.preConsumedQuota + delta
        omega

/-- A `Settle` that does not move the funding source at most marks the session
settled; one that does leaves the actual amount taken. -/
theorem settle_effect (answers : SettleAnswers) (actualQuota : Int)
    (holds : Holds origin taken session.funding store) (open_ : session.fundingSettled = false)
    {error : Option GoError}
    (called : session.settle config answers actualQuota store = (error, session', store')) :
    store'.subscriptions.preConsumeRecords = store.subscriptions.preConsumeRecords ∧
      ((SettlesFunding config answers actualQuota session store = false ∧
          (session' = session ∨ session' = { session with settled := true }) ∧
          Holds origin taken session.funding store' ∧
          (error = none → session.settled = true ∨ actualQuota = session.preConsumedQuota)) ∨
        (SettlesFunding config answers actualQuota session store = true ∧
          session'.settled = true ∧ session'.funding = session.funding ∧
          (∃ postDelta, session'.relayInfo =
            { session.relayInfo with subscriptionPostDelta := postDelta }) ∧
          Holds origin (settledTaken origin
            (taken + (actualQuota - session.preConsumedQuota)) session.funding)
            session.funding store')) := by
  unfold settle at called
  dsimp only at called
  split_ifs at called with isSettled unchanged
  · cases called
    exact ⟨rfl,.inl ⟨by simp [SettlesFunding,isSettled],.inl rfl,holds,fun _ => .inl isSettled⟩⟩
  · cases called
    exact ⟨rfl,.inl ⟨by simp [SettlesFunding,unchanged],.inr rfl,holds,fun _ => .inr (by omega)⟩⟩
  rcases written : session.funding.settle config answers.funding
    (actualQuota - session.preConsumedQuota) store with ⟨result,middle⟩
  have fundingStep : session.settleFunding config answers.funding
      (actualQuota - session.preConsumedQuota) store = (result, middle) := by
    simp [settleFunding,open_,written]
  obtain ⟨records,⟨failure,rfl,unmoved⟩ | ⟨rfl,moved⟩⟩ := settle_cases holds written
  · simp only [fundingStep] at called
    cases called
    exact ⟨records,.inl ⟨by simp [SettlesFunding,written,Except.toBool],
      .inl rfl,unmoved,nofun⟩⟩
  · have tokenFrame := settleToken_frame config answers.token
      (actualQuota - session.preConsumedQuota) session middle
    have settles : SettlesFunding config answers actualQuota session store = true := by
      simp [SettlesFunding,isSettled,open_,unchanged,written,Except.toBool]
    simp only [fundingStep] at called
    split at called
    all_goals
      rename_i token
      rw [token] at tokenFrame
      rw [← tokenFrame.2.2] at records
      cases called
      exact ⟨records,.inr ⟨settles,rfl,rfl,⟨_,rfl⟩,moved.frame tokenFrame⟩⟩

end

inductive SessionInvariant (origin : FundingOrigin) (state : SessionState) : Prop
  | reserved (effects : state.effects = []) (pending : state.pending = [])
      (notRefunded : state.session.refunded = false)
      (open_ : state.session.fundingSettled = false)
      (holds : Holds origin state.session.preConsumedQuota state.session.funding state.store)
      (backed : Backed state.session state.store)
  | settled (actual : Int) (effects : state.effects = [.settled actual])
      (pending : state.pending = []) (isSettled : state.session.settled = true)
      (holds : Holds origin actual state.session.funding state.store)
  | refunding (job : RefundJob) (effects : state.effects = [.refunded])
      (pending : state.pending = [job]) (isRefunded : state.session.refunded = true)
      (open_ : state.session.fundingSettled = false)
      (holds : Holds origin state.session.preConsumedQuota state.session.funding state.store)
      (backed : Backed state.session state.store)
      (sameExtra : job.extraReserved = state.session.extraReserved)
      (sameSubscription : job.subscriptionId = state.session.relayInfo.subscriptionId)
  | refunded (effects : state.effects = [.refunded]) (pending : state.pending = [])
      (isRefunded : state.session.refunded = true)
      (open_ : state.session.fundingSettled = false)
      (holds : Holds origin 0 state.session.funding state.store)

open SessionState

section

variable {config : BillingConfig} {origin : FundingOrigin} {state : SessionState}
  {session : BillingSession}

section

variable (invariant : SessionInvariant origin state)

include invariant

theorem step_reserve_keeps (targetQuota : Int)
    (funding : FundingFaults) (token : ReserveAnswers) (tokenRemain : Int) :
    SessionInvariant origin
      (state.step config (.reserve targetQuota funding token tokenRemain)) := by
  rcases called : state.session.reserve config
    { funding := funding, token := token, tokenRemain := tokenRemain, rollback := .succeeds }
    targetQuota state.store with ⟨error,session',store'⟩
  have stepEq : state.step config (.reserve targetQuota funding token tokenRemain) =
      { state with session := session', store := store' } := by
    simp only [step,called]
  have closedStep : state.session.settled = true ∨ state.session.refunded = true →
      state.step config (.reserve targetQuota funding token tokenRemain) = state := by
    rintro (settled | refunded)
    · simp [step,reserve,settled]
    · simp [step,reserve,refunded]
  have kept := invariant
  cases invariant with
  | reserved effects pending notRefunded open_ holds backed =>
    obtain ⟨held,stillBacked,-,sameRefunded,sameSettled⟩ :=
      reserve_keeps _ targetQuota rfl holds backed called
    rw [stepEq]
    exact .reserved effects pending (sameRefunded.trans notRefunded) (sameSettled.trans open_) held
      stillBacked
  | settled | refunding | refunded =>
    rwa [closedStep (by simp [*])]

theorem step_refund_keeps :
    SessionInvariant origin (state.step config .refund) := by
  by_cases closed : state.session.settled || state.session.refunded || !state.session.needsRefund
  · have stepEq : state.step config .refund = state := by
      simp only [step,refund,closed,if_true]
    rwa [stepEq]
  · simp only [step,refund,closed]
    cases invariant with
    | reserved effects pending _ open_ holds backed =>
      exact .refunding _ (by simp [effects]) (by simp [pending]; rfl) rfl open_ holds backed rfl rfl
    | settled _ _ _ isClosed | refunding _ _ _ isClosed | refunded _ _ isClosed =>
      simp [isClosed] at closed

theorem step_runJob_keeps :
    SessionInvariant origin (state.step config .runJob) := by
  have idleStep : state.pending = [] → state.step config .runJob = state := by
    intro idle
    simp only [step,idle]
  have kept := invariant
  cases invariant with
  | reserved _ pending | settled _ _ pending | refunded _ pending =>
    rwa [idleStep pending]
  | refunding job effects pending isRefunded open_ holds backed sameExtra sameSubscription =>
    have stepEq : state.step config .runJob =
        { state with
          store := job.run config .succeeds state.session.funding state.store
          pending := [] } := by
      simp only [step,pending]
    rw [stepEq]
    exact .refunded effects rfl isRefunded open_
      (refundJob_returns config holds backed sameExtra sameSubscription)

theorem step_settle_idle (actualQuota : Int) (answers : SettleAnswers)
    (idle : SettlesFunding config answers actualQuota state.session state.store = false) :
    SessionInvariant origin (state.step config (.settle actualQuota answers)) := by
  rcases called : state.session.settle config answers actualQuota state.store with
    ⟨error,session',store'⟩
  have stepEq : state.step config (.settle actualQuota answers) =
      { state with session := session', store := store' } := by
    simp [step,called,idle]
  -- Outside the settled phase the session is at most marked settled.
  have unmoved : ∀ {taken}, Holds origin taken state.session.funding state.store →
      state.session.fundingSettled = false →
      (session' = state.session ∨ session' = { state.session with settled := true }) ∧
        Holds origin taken state.session.funding store' ∧
        store'.subscriptions.preConsumeRecords =
          state.store.subscriptions.preConsumeRecords := by
    intro taken holds open_
    obtain ⟨records,⟨-,marked,held,-⟩ | ⟨moves,-⟩⟩ :=
      settle_effect answers actualQuota holds open_ called
    · exact ⟨marked,held,records⟩
    · rw [idle] at moves
      cases moves
  rw [stepEq]
  cases invariant with
  | reserved effects pending notRefunded open_ holds backed =>
    obtain ⟨rfl | rfl,held,records⟩ := unmoved holds open_ <;>
      exact .reserved effects pending notRefunded open_ held (backed.of_records records)
  | settled actual effects pending isSettled holds =>
    simp only [settle,isSettled] at called
    cases called
    exact .settled actual effects pending isSettled holds
  | refunding job effects pending isRefunded open_ holds backed sameExtra sameSubscription =>
    obtain ⟨rfl | rfl,held,records⟩ := unmoved holds open_ <;>
      exact .refunding job effects pending isRefunded open_ held (backed.of_records records)
        sameExtra sameSubscription
  | refunded effects pending isRefunded open_ holds =>
    obtain ⟨rfl | rfl,held,-⟩ := unmoved holds open_ <;>
      exact .refunded effects pending isRefunded open_ held

end

theorem step_settle_moves (effects : state.effects = []) (pending : state.pending = [])
    (open_ : state.session.fundingSettled = false)
    (holds : Holds origin state.session.preConsumedQuota state.session.funding state.store)
    (actualQuota : Int) (answers : SettleAnswers)
    (moves : SettlesFunding config answers actualQuota state.session state.store = true) :
    let next := state.step config (.settle actualQuota answers)
    next.effects = [.settled actualQuota] ∧ next.pending = [] ∧ next.session.settled = true ∧
      next.session.funding = state.session.funding ∧
      Holds origin (settledTaken origin actualQuota state.session.funding) state.session.funding
        next.store := by
  rcases called : state.session.settle config answers actualQuota state.store with
    ⟨error,session',store'⟩
  have stepEq : state.step config (.settle actualQuota answers) =
      { state with
        session := session'
        store := store'
        effects := [.settled actualQuota] } := by
    simp [step,called,moves,effects]
  rw [stepEq]
  obtain ⟨-,⟨idle,-⟩ | ⟨-,isSettled,sameFunding,-,held⟩⟩ :=
    settle_effect answers actualQuota holds open_ called
  · rw [moves] at idle
    cases idle
  · have total : state.session.preConsumedQuota +
        (actualQuota - state.session.preConsumedQuota) = actualQuota := by omega
    rw [total] at held
    exact ⟨rfl,pending,isSettled,sameFunding,held⟩

theorem inRange_of_allowed
    (holds : Holds origin state.session.preConsumedQuota state.session.funding state.store)
    (actualQuota : Int) :
    (∀ funding row, state.session.funding = .subscription funding →
      state.store.subscriptions.subscriptions.find? funding.subscriptionId = some row →
      0 ≤ row.amountUsed + (actualQuota - state.session.preConsumedQuota)) ↔
    InRange origin actualQuota state.session.funding := by
  cases fundingEq : state.session.funding with
  | wallet => simp [InRange]
  | subscription subscription =>
    rw [fundingEq] at holds
    obtain ⟨row,found,usedEq,-⟩ := holds
    constructor
    · intro allowed
      have := allowed subscription row rfl found
      simp only [InRange]
      omega
    · intro inRange other stored same storedFound
      cases same
      rw [found] at storedFound
      cases storedFound
      simp only [InRange] at inRange
      omega

theorem step_keeps (call : SessionCall) (invariant : SessionInvariant origin state)
    (allowed : SettleAllowed config state call) :
    SessionInvariant origin (state.step config call) := by
  cases call with
  | reserve targetQuota funding token tokenRemain =>
    exact step_reserve_keeps invariant targetQuota funding token tokenRemain
  | refund => exact step_refund_keeps invariant
  | runJob => exact step_runJob_keeps invariant
  | settle actualQuota answers =>
    cases moves : SettlesFunding config answers actualQuota state.session state.store with
    | false => exact step_settle_idle invariant actualQuota answers moves
    | true =>
      obtain ⟨notRefunded,bounded⟩ := allowed moves
      cases invariant with
      | reserved effects pending _ open_ holds =>
        obtain ⟨effects',pending',isSettled,sameFunding,held⟩ :=
          step_settle_moves effects pending open_ holds actualQuota answers moves
        rw [settledTaken_of_inRange ((inRange_of_allowed holds actualQuota).mp bounded)] at held
        exact .settled actualQuota effects' pending' isSettled (sameFunding ▸ held)
      | settled actual effects pending isSettled =>
        simp [SettlesFunding,isSettled] at moves
      | refunding job effects pending isRefunded | refunded effects pending isRefunded =>
        rw [notRefunded] at isRefunded
        cases isRefunded

theorem fundingTaken_of_holds {taken : Int} {funding : FundingSource} {store : BillingStore}
    (holds : Holds origin taken funding store) :
    fundingTaken origin funding store.ledger = taken := by
  cases funding with
  | wallet =>
    have balance := holds.2
    simp only [fundingTaken]
    omega
  | subscription subscription =>
    obtain ⟨row,found,usedEq,-⟩ := holds
    have storedFound : store.ledger.subscriptions.subscriptions.find?
        subscription.subscriptionId = some row := found
    simp only [fundingTaken,storedFound,Option.map_some,Option.getD_some]
    omega

theorem conserved_of_invariant (invariant : SessionInvariant origin state) :
    Conserved origin state := by
  cases invariant with
  | reserved effects pending _ _ holds | settled actual effects pending _ holds
  | refunded effects pending _ _ holds =>
    exact ⟨by simp [effects],fun _ => by rw [fundingTaken_of_holds holds,effects]; rfl⟩
  | refunding job effects pending =>
    exact ⟨by simp [effects],fun idle => by rw [pending] at idle; cases idle⟩

theorem step_breaks (call : SessionCall) (invariant : SessionInvariant origin state)
    (forbidden : ¬ SettleAllowed config state call) :
    ¬ Conserved origin (state.step config call) := by
  cases call with
  | reserve targetQuota funding token tokenRemain | refund | runJob =>
    exact absurd trivial forbidden
  | settle actualQuota answers =>
    simp only [SettleAllowed,Classical.not_imp] at forbidden
    obtain ⟨moves,forbidden⟩ := forbidden
    have appended : (state.step config (.settle actualQuota answers)).effects =
        state.effects ++ [.settled actualQuota] := by
      simp [step,moves]
    rintro ⟨atMostOne,expected⟩
    cases invariant with
    | reserved effects pending notRefunded open_ holds =>
      have outOfRange : ¬ InRange origin actualQuota state.session.funding := fun inRange =>
        forbidden ⟨notRefunded,(inRange_of_allowed holds actualQuota).mpr inRange⟩
      obtain ⟨effects',pending',-,sameFunding,held⟩ :=
        step_settle_moves effects pending open_ holds actualQuota answers moves
      have taken := expected pending'
      rw [sameFunding,fundingTaken_of_holds held,effects'] at taken
      cases fundingEq : state.session.funding with
      | wallet => exact outOfRange (by rw [fundingEq]; trivial)
      | subscription =>
        rw [fundingEq] at outOfRange taken
        simp only [InRange,settledTaken,expectedTaken,clampUsed] at outOfRange taken
        split_ifs at taken <;> omega
    | settled actual effects pending isSettled => simp [SettlesFunding,isSettled] at moves
    | refunding job effects | refunded effects => simp [appended,effects] at atMostOne

theorem conserved_iff_guarded (initially : SessionInvariant origin state)
    (calls : List SessionCall) :
    Always (step config) (Conserved origin) state calls ↔
      Guarded (step config) (SettleAllowed config) state calls := by
  refine always_iff_guarded ?_ ?_ ?_ initially calls
  · exact fun _ => conserved_of_invariant
  · exact fun _ call => step_keeps call
  · exact fun _ call => step_breaks call

theorem created_invariant {reset : UserSubscription → UserSubscription} {relayInfo : RelayInfo}
    {before after : BillingStore}
    (created : SessionCreated reset relayInfo session before.ledger after.ledger)
    (holds : Holds (.of reset before.ledger) session.preConsumedQuota session.funding after) :
    SessionInvariant (.of reset before.ledger) (.start session after) := by
  obtain ⟨open_,-,notRefunded⟩ := created.unfinished
  have fundingCharged := created.fundingCharged
  unfold FundingCharged at fundingCharged
  refine .reserved rfl rfl notRefunded open_ holds ?_
  change Backed session after
  unfold Backed
  cases fundingEq : session.funding with
  | wallet =>
    simp only [fundingEq] at fundingCharged
    exact ⟨fundingCharged.2.2.2,created.nonneg⟩
  | subscription subscription =>
    simp only [fundingEq] at fundingCharged
    obtain ⟨-,row,sameId,sameAmount,charges⟩ := fundingCharged
    obtain ⟨positive,-⟩ := charges.charged
    obtain ⟨subscriptionEq,requestEq⟩ := created.synced subscription fundingEq
    refine ⟨by omega,by rw [created.extraReserved],by rw [created.extraReserved]; omega,
      subscriptionEq,by rw [requestEq]; exact charges.named,relayInfo.userId,?_⟩
    have records := charges.records
    rw [requestEq,sameId,sameAmount]
    have stored := congrFun records relayInfo.requestId
    rwa [Function.update_self] at stored

end

/-- From a successful creation on, the runs that conserve the funding source
throughout are those in which every `Settle` that moves the funding source finds
the session not refunded and the used amount of its subscription in range. -/
theorem billingSession_conserved_iff (config : BillingConfig) (answers : SessionAnswers)
    (relayInfo : RelayInfo) (preConsumedQuota : Int) (before after : BillingStore)
    (session : BillingSession) (nonneg : 0 ≤ preConsumedQuota)
    (chargeable : Chargeable answers relayInfo before)
    (userExists : (before.users relayInfo.userId).isSome)
    (created : newBillingSession config answers (some relayInfo) preConsumedQuota before =
      (.ok session, after)) (calls : List SessionCall) :
    Always (SessionState.step config)
        (Conserved (.of (answers.reset before.subscriptions.plans) before.ledger))
        (.start session after) calls ↔
      Guarded (SessionState.step config) (SettleAllowed config) (.start session after) calls := by
  have outcome : CreatesSession answers relayInfo before
      (newBillingSession config answers (some relayInfo) preConsumedQuota before) :=
    createSession_allOrNothing config nonneg chargeable
  have opens : Opens (answers.reset before.subscriptions.plans) before
      (newBillingSession config answers (some relayInfo) preConsumedQuota before) :=
    createSession_opens config answers nonneg userExists chargeable.requestIdFresh
  rw [created] at outcome opens
  exact conserved_iff_guarded (created_invariant outcome.1 opens.holds) calls

def faultlessSettle : SettleAnswers where
  funding := .succeeds
  token := none

def walletSession : SessionState :=
  match newBillingSession directConfig faultlessAnswers (some (requestInfo "wallet_only")) 10
      fundedStore with
  | (.ok session, store) => .start session store
  | (.error _, store) => .start (.new (requestInfo "") (.wallet ⟨0, 0⟩)) store

/-- After a refund that returned all ten units, `Settle(25)` still takes effect:
it takes 15 units, neither 25 nor nothing. -/
theorem settle_after_refund_charges :
    let state := run (SessionState.step directConfig) walletSession
      [.refund, .runJob, .settle 25 faultlessSettle]
    state.effects = [.refunded, .settled 25] ∧ state.pending = [] ∧
      fundingTaken (.of id fundedStore.ledger) state.session.funding state.store.ledger = 15 := by
  decide

/-- Reserving up to 20 and settling at 25 stays within the guard. -/
theorem billingSession_conserved_iff_walletSession :
    Always (SessionState.step directConfig)
      (Conserved (.of (faultlessAnswers.reset fundedStore.subscriptions.plans) fundedStore.ledger))
      walletSession [.reserve 20 .succeeds faultlessReserve 0, .settle 25 faultlessSettle] :=
  (billingSession_conserved_iff directConfig faultlessAnswers (requestInfo "wallet_only") 10
    fundedStore _ _ (by decide) (fundedStore_chargeable "wallet_only") rfl rfl _).mpr
    ⟨trivial,fun _ => ⟨rfl,fun funding row isSubscription => by cases isSubscription⟩,trivial⟩

end NewApi
