import NewApi.SubscriptionStore
import NewApi.Transactions

/-! # Consuming and refunding subscription quota -/

namespace NewApi

open Transactions

/-- What `getSubscriptionPlanByIdTx` meets: the plan cache, and the answer of the
query that follows a cache miss. -/
structure PlanAccess where
  cached : Int → Option SubscriptionPlan
  query : Int → Option GoError

def getSubscriptionPlanById (access : PlanAccess) (plans : Int → Option SubscriptionPlan)
    (id : Int) : Except GoError SubscriptionPlan :=
  if id ≤ 0 then .error (.message "invalid plan id")
  else
    match access.cached id with
    | some plan => .ok plan
    | none =>
      match access.query id, plans id with
      | some error, _ => .error error
      | none, none => .error .recordNotFound
      | none, some plan => .ok plan

structure RowTxFaults where
  beginTx : Option GoError
  lock : Option GoError
  save : Option GoError
  commit : Option GoError
deriving DecidableEq

namespace RowTxFaults

def succeeds : RowTxFaults where
  beginTx := none
  lock := none
  save := none
  commit := none

end RowTxFaults

def firstSubscription (fault : Option GoError) (store : SubscriptionStore) (id : Int) :
    Except GoError UserSubscription :=
  match fault, store.subscriptions.find? id with
  | some error, _ => .error error
  | none, none => .error .recordNotFound
  | none, some sub => .ok sub

variable (sub : UserSubscription) (used : Int) {id delta : Int} (nonneg : 0 ≤ used)

theorem firstSubscription_eq_ok {fault : Option GoError} {store : SubscriptionStore}
    {sub : UserSubscription} :
    firstSubscription fault store id = .ok sub ↔
      fault = none ∧ store.subscriptions.find? id = some sub := by
  unfold firstSubscription
  split <;> simp_all

/-- The used amount after a delta; it stops at zero. -/
def clampUsed (used : Int) : Int :=
  if used < 0 then 0 else used

theorem clampUsed_nonneg : 0 ≤ clampUsed used := by
  unfold clampUsed
  split <;> omega

theorem clampUsed_of_nonneg {used : Int} (nonneg : 0 ≤ used) : clampUsed used = used := by
  unfold clampUsed
  split <;> omega

def UserSubscription.withUsed (sub : UserSubscription) (used : Int) (nonneg : 0 ≤ used) :
    UserSubscription :=
  { sub with amountUsed := used, usedNonneg := nonneg }

@[simp]
theorem UserSubscription.withUsed_id :
    (sub.withUsed used nonneg).id = sub.id := rfl

@[simp]
theorem UserSubscription.withUsed_amountUsed : (sub.withUsed used nonneg).amountUsed = used := rfl

@[simp]
theorem UserSubscription.withUsed_amountTotal :
    (sub.withUsed used nonneg).amountTotal = sub.amountTotal := rfl

def postConsumeUserSubscriptionDelta (faults : RowTxFaults) (userSubscriptionId delta : Int)
    (store : SubscriptionStore) : Except GoError Unit × SubscriptionStore :=
  if userSubscriptionId ≤ 0 then (.error (.message "invalid userSubscriptionId"), store)
  else if delta = 0 then (.ok (), store)
  else
    transaction faults.beginTx faults.commit (fun store => do
      let sub ← firstSubscription faults.lock store userSubscriptionId
      let newUsed := clampUsed (sub.amountUsed + delta)
      if 0 < sub.amountTotal ∧ sub.amountTotal < newUsed then
        .error (.message
          s!"subscription used exceeds total, used={newUsed} total={sub.amountTotal}")
      else
        attempt faults.save
          ((), store.saveSubscription (sub.withUsed newUsed (clampUsed_nonneg _)))) store

theorem postConsume_cases {faults : RowTxFaults} {before after : SubscriptionStore}
    {result : Except GoError Unit}
    (called : postConsumeUserSubscriptionDelta faults id delta before = (result, after)) :
    (∃ error, result = .error error ∧ after = before) ∨
      (result = .ok () ∧ 0 < id ∧ delta = 0 ∧ after = before) ∨
      (result = .ok () ∧ 0 < id ∧ delta ≠ 0 ∧ faults = .succeeds ∧
        ∃ sub, before.subscriptions.find? id = some sub ∧
          (0 < sub.amountTotal → clampUsed (sub.amountUsed + delta) ≤ sub.amountTotal) ∧
          after = before.saveSubscription
            (sub.withUsed (clampUsed (sub.amountUsed + delta)) (clampUsed_nonneg _))) := by
  unfold postConsumeUserSubscriptionDelta at called
  split_ifs at called with invalid unchanged
  · exact .inl ⟨_,(congrArg Prod.fst called).symm,(congrArg Prod.snd called).symm⟩
  · exact .inr (.inl ⟨(congrArg Prod.fst called).symm,by omega,unchanged,
      (congrArg Prod.snd called).symm⟩)
  · cases result with
    | error error => exact .inl ⟨error,rfl,transaction_error_state called⟩
    | ok =>
      obtain ⟨began,committed,body⟩ := transaction_ok_iff.mp called
      obtain ⟨sub,found,rest⟩ := bind_succeeds_iff.mp body
      have locked := firstSubscription_eq_ok.mp found
      dsimp only at rest
      split_ifs at rest with exceeds
      obtain ⟨saved,written⟩ := attempt_eq_ok.mp rest
      refine .inr (.inr ⟨rfl,by omega,unchanged,?_,sub,locked.2,fun bounded => ?_,?_⟩)
      · cases faults
        simp_all [RowTxFaults.succeeds]
      · omega
      · exact (congrArg Prod.snd written).symm

theorem postConsume_succeeds {store : SubscriptionStore} {sub : UserSubscription}
    (found : store.subscriptions.find? id = some sub)
    (fits : 0 < sub.amountTotal → clampUsed (sub.amountUsed + delta) ≤ sub.amountTotal)
    (moves : delta ≠ 0) :
    postConsumeUserSubscriptionDelta .succeeds id delta store =
      (.ok (), store.saveSubscription
        (sub.withUsed (clampUsed (sub.amountUsed + delta)) (clampUsed_nonneg _))) := by
  have positive : ¬ id ≤ 0 := by
    have := sub.idPos
    have := KeyedTable.key_of_find? found
    omega
  have within : ¬ (0 < sub.amountTotal ∧
      sub.amountTotal < clampUsed (sub.amountUsed + delta)) := by
    rintro ⟨bounded,exceeds⟩
    exact absurd (fits bounded) (by omega)
  simp [postConsumeUserSubscriptionDelta,positive,moves,transaction,RowTxFaults.succeeds,
    firstSubscription,found,bind,Except.bind,within]

structure SubscriptionPreConsumeResult where
  userSubscriptionId : Int
  preConsumed : Int
  amountTotal : Int
  amountUsedBefore : Int
  amountUsedAfter : Int
deriving DecidableEq, Repr

/-- Errors of the statements of `PreConsumeUserSubscription`. The statements of
the loop are indexed by the candidate they are made for; `duplicateKey` is what
the driver reports for a request id that is already stored. -/
structure PreConsumeFaults where
  beginTx : Option GoError
  findExisting : Option GoError
  existingSubscription : Option GoError
  lockSubscriptions : Option GoError
  plans : PlanAccess
  saveReset : Int → Option GoError
  createRecord : Int → Option GoError
  duplicateKey : GoError
  findDuplicate : Int → Option GoError
  saveSubscription : Int → Option GoError
  commit : Option GoError

def endsNoLater (first second : UserSubscription) : Prop :=
  first.endTime < second.endTime ∨ (first.endTime = second.endTime ∧ first.id ≤ second.id)

instance : DecidableRel endsNoLater := fun first second =>
  inferInstanceAs (Decidable (first.endTime < second.endTime ∨
    (first.endTime = second.endTime ∧ first.id ≤ second.id)))

def activeSubscriptions (store : SubscriptionStore) (userId now : Int) : List UserSubscription :=
  (store.subscriptions.rows.filter fun sub =>
    sub.userId = userId ∧ sub.status = .active ∧ now < sub.endTime).insertionSort endsNoLater

/-- The subscription has room for `amount`; a total of zero means no limit. -/
def Fits (amount : Int) (sub : UserSubscription) : Prop :=
  0 < sub.amountTotal → amount ≤ sub.amountTotal - sub.amountUsed

instance (amount : Int) (sub : UserSubscription) : Decidable (Fits amount sub) :=
  inferInstanceAs (Decidable (0 < sub.amountTotal → amount ≤ sub.amountTotal - sub.amountUsed))

def reuseExisting (faults : PreConsumeFaults) (requestId : String) (store : SubscriptionStore) :
    Except GoError (Option SubscriptionPreConsumeResult) :=
  match faults.findExisting, store.preConsumeRecords requestId with
  | some error, _ => .error error
  | none, none => .ok none
  | none, some existing =>
    if existing.status = .refunded then
      .error (.message "subscription pre-consume already refunded")
    else do
      let sub ← firstSubscription faults.existingSubscription store existing.userSubscriptionId
      .ok (some
        { userSubscriptionId := sub.id
          preConsumed := existing.preConsumed
          amountTotal := sub.amountTotal
          amountUsedBefore := sub.amountUsed
          amountUsedAfter := sub.amountUsed })

def resetCandidate (faults : PreConsumeFaults) (calendar : Calendar) (now : Int)
    (candidate : UserSubscription) (store : SubscriptionStore) :
    Except GoError (UserSubscription × SubscriptionStore) := do
  let plan ← getSubscriptionPlanById faults.plans store.plans candidate.planId
  match maybeResetUserSubscriptionWithPlan calendar candidate plan now with
  | none => .ok (candidate, store)
  | some updated =>
    attempt (faults.saveReset candidate.id) (updated, store.saveSubscription updated)

def createRecord (fault : Option GoError) (duplicateKey : GoError) (requestId : String)
    (record : SubscriptionPreConsumeRecord) (store : SubscriptionStore) :
    Except GoError SubscriptionStore :=
  match fault, store.preConsumeRecords requestId with
  | some error, _ => .error error
  | none, some _ => .error duplicateKey
  | none, none => .ok (store.saveRecord requestId record)

/-- The two remaining exits: consume from `sub`, or find that the request id was
taken in the meantime. -/
def chargeCandidate (faults : PreConsumeFaults) (requestId : String) (userId amount : Int)
    (positive : 0 < amount) (sub : UserSubscription) (store : SubscriptionStore) :
    Except GoError (SubscriptionPreConsumeResult × SubscriptionStore) :=
  let record : SubscriptionPreConsumeRecord :=
    { userId := userId
      userSubscriptionId := sub.id
      preConsumed := amount
      status := .consumed }
  match createRecord (faults.createRecord sub.id) faults.duplicateKey requestId record store with
  | .error error =>
    match faults.findDuplicate sub.id, store.preConsumeRecords requestId with
    | none, some dup =>
      if dup.status = .refunded then
        .error (.message "subscription pre-consume already refunded")
      else
        .ok (
          { userSubscriptionId := sub.id
            preConsumed := dup.preConsumed
            amountTotal := sub.amountTotal
            amountUsedBefore := sub.amountUsed
            amountUsedAfter := sub.amountUsed }, store)
    | _, _ => .error error
  | .ok store =>
    attempt (faults.saveSubscription sub.id) (
      { userSubscriptionId := sub.id
        preConsumed := amount
        amountTotal := sub.amountTotal
        amountUsedBefore := sub.amountUsed
        amountUsedAfter := sub.amountUsed + amount },
      store.saveSubscription (sub.withUsed (sub.amountUsed + amount)
        (sub.used_add_nonneg positive)))

def consumeCandidates (faults : PreConsumeFaults) (calendar : Calendar) (now : Int)
    (requestId : String) (userId amount : Int) (positive : 0 < amount) :
    List UserSubscription → SubscriptionStore →
      Except GoError (SubscriptionPreConsumeResult × SubscriptionStore)
  | [], _ => .error (.message s!"subscription quota insufficient, need={amount}")
  | candidate :: rest, store => do
    let (sub, store) ← resetCandidate faults calendar now candidate store
    if Fits amount sub then
      chargeCandidate faults requestId userId amount positive sub store
    else
      consumeCandidates faults calendar now requestId userId amount positive rest store

/-- The part of the transaction after the check for an existing record. -/
def consumeLocked (faults : PreConsumeFaults) (calendar : Calendar) (now : Int) (requestId : String)
    (userId amount : Int) (positive : 0 < amount) (store : SubscriptionStore) :
    Except GoError (SubscriptionPreConsumeResult × SubscriptionStore) :=
  match faults.lockSubscriptions, activeSubscriptions store userId now with
  | some _, _ => .error (.message "no active subscription")
  | none, [] => .error (.message "no active subscription")
  | none, candidates =>
    consumeCandidates faults calendar now requestId userId amount positive candidates store

def preConsumeUserSubscription (faults : PreConsumeFaults) (calendar : Calendar) (now : Int)
    (requestId : String) (userId amount : Int) (store : SubscriptionStore) :
    Except GoError SubscriptionPreConsumeResult × SubscriptionStore :=
  if userId ≤ 0 then (.error (.message "invalid userId"), store)
  else if GoStrings.trimSpace requestId = "" then (.error (.message "requestId is empty"), store)
  else if positive : 0 < amount then
    transaction faults.beginTx faults.commit (fun store => do
      match ← reuseExisting faults requestId store with
      | some result => .ok (result, store)
      | none =>
        consumeLocked faults calendar now requestId userId amount positive store) store
  else (.error (.message "amount must be > 0"), store)

end NewApi
