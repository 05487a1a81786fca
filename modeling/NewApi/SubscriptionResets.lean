import NewApi.SubscriptionConsumption

/-!
# Due resets and resets by an administrator

`ResetDueSubscriptions` reads the due subscriptions without a lock and then
resets each one in a transaction of its own, which locks the row and reads it
again.
-/

namespace NewApi

open Transactions

def dueSubscriptions (store : SubscriptionStore) (now : Int) (limit : Nat) :
    List UserSubscription :=
  ((store.subscriptions.rows.filter fun sub =>
    0 < sub.nextResetTime ∧ sub.nextResetTime ≤ now ∧ sub.status = .active).insertionSort
      fun first second => first.nextResetTime ≤ second.nextResetTime).take limit

/-- The transaction of `ResetDueSubscriptions` for one subscription. A row that is not due any
more is left alone without an error. -/
def resetDueSubscription (faults : RowTxFaults) (calendar : Calendar) (plan : SubscriptionPlan)
    (id now : Int) (store : SubscriptionStore) : Except GoError Unit × SubscriptionStore :=
  transaction faults.beginTx faults.commit (fun store =>
    match faults.lock, store.subscriptions.find? id with
    | none, some locked =>
      if 0 < locked.nextResetTime ∧ locked.nextResetTime ≤ now then
        match maybeResetUserSubscriptionWithPlan calendar locked plan now with
        | none => .ok ((), store)
        | some updated => attempt faults.save ((), store.saveSubscription updated)
      else .ok ((), store)
    | _, _ => .ok ((), store)) store

theorem resetDueSubscription_cases (faults : RowTxFaults) (calendar : Calendar)
    (plan : SubscriptionPlan) (id now : Int) (store : SubscriptionStore) :
    (resetDueSubscription faults calendar plan id now store).2 = store ∨
      ∃ locked updated, store.subscriptions.find? id = some locked ∧
        (0 < locked.nextResetTime ∧ locked.nextResetTime ≤ now) ∧
        maybeResetUserSubscriptionWithPlan calendar locked plan now = some updated ∧
        (resetDueSubscription faults calendar plan id now store).2 =
          store.saveSubscription updated := by
  cases called : resetDueSubscription faults calendar plan id now store with
  | mk result after =>
  cases result with
  | error => exact .inl (transaction_error_state called)
  | ok =>
    obtain ⟨-,-,body⟩ := transaction_ok_iff.mp called
    cases lockFault : faults.lock with
    | some =>
      simp only [lockFault,Except.ok.injEq,Prod.mk.injEq] at body
      exact .inl body.2.symm
    | none =>
      cases found : store.subscriptions.find? id with
      | none =>
        simp only [lockFault,found,Except.ok.injEq,Prod.mk.injEq] at body
        exact .inl body.2.symm
      | some locked =>
        simp only [lockFault,found] at body
        split at body
        · rename_i due
          cases reset : maybeResetUserSubscriptionWithPlan calendar locked plan now with
          | none =>
            simp only [reset,Except.ok.injEq,Prod.mk.injEq] at body
            exact .inl body.2.symm
          | some updated =>
            simp only [reset,attempt_eq_ok,Prod.mk.injEq] at body
            exact .inr ⟨locked,updated,rfl,due,reset,body.2.2.symm⟩
        · simp only [Except.ok.injEq,Prod.mk.injEq] at body
          exact .inl body.2.symm

section

def resetUserSubscription (calendar : Calendar) (sub : UserSubscription) (plan : SubscriptionPlan)
    (now : Int) (advanceResetTime : Bool) : UserSubscription :=
  let nextReset := calcNextResetTime calendar now plan sub.endTime
  { sub with
    amountUsed := 0
    nextResetTime := if advanceResetTime then nextReset else sub.nextResetTime
    lastResetTime :=
      if advanceResetTime then if 0 < nextReset then now else 0 else sub.lastResetTime
    usedNonneg := nothing_used }

structure SubscriptionResetResult where
  planId : Int
  matchedCount : Nat
  resetCount : Nat
  userCount : Nat
  advanceResetTime : Bool
  planTitle : String
  affectedUserIds : List Int
deriving DecidableEq, Repr

def buildSubscriptionResetResult (plan : SubscriptionPlan) (subs : List UserSubscription)
    (advanceResetTime : Bool) : SubscriptionResetResult :=
  let userIds := (subs.map UserSubscription.userId).eraseDups
  { planId := plan.id
    matchedCount := subs.length
    resetCount := subs.length
    userCount := userIds.length
    advanceResetTime := advanceResetTime
    planTitle := plan.title
    affectedUserIds := userIds }

/-- Errors of the statements of an administrator's reset; saves are indexed by the subscription. -/
structure AdminResetFaults where
  beginTx : Option GoError
  plans : PlanAccess
  lock : Option GoError
  save : Int → Option GoError
  commit : Option GoError

def resetAll (faults : AdminResetFaults) (calendar : Calendar) (plan : SubscriptionPlan)
    (now : Int) (advanceResetTime : Bool) (subs : List UserSubscription)
    (store : SubscriptionStore) : Except GoError SubscriptionStore :=
  subs.foldlM (fun store sub =>
    attempt (faults.save sub.id)
      (store.saveSubscription (resetUserSubscription calendar sub plan now advanceResetTime))) store

def userThenEnds (first second : UserSubscription) : Prop :=
  first.userId < second.userId ∨ (first.userId = second.userId ∧ endsNoLater first second)

instance : DecidableRel userThenEnds := fun first second =>
  inferInstanceAs (Decidable (first.userId < second.userId ∨
    (first.userId = second.userId ∧ endsNoLater first second)))

/-- The active subscriptions that an administrator's reset locks. For one user, the order by user
first is no other order. -/
def activeOfPlan (store : SubscriptionStore) (userId : Option Int) (planId now : Int) :
    List UserSubscription :=
  (store.subscriptions.rows.filter fun sub =>
    (∀ user ∈ userId, sub.userId = user) ∧ sub.planId = planId ∧ sub.status = .active ∧
      now < sub.endTime).insertionSort userThenEnds

/-- `adminResetUserSubscriptionsByPlanTx` for a user and `adminResetPlanSubscriptionsTx` for
everyone. Only the first one complains when nothing is found. -/
def adminResetTx (faults : AdminResetFaults) (calendar : Calendar) (userId : Option Int)
    (plan : SubscriptionPlan) (now : Int) (advanceResetTime : Bool) (store : SubscriptionStore) :
    Except GoError (SubscriptionResetResult × SubscriptionStore) :=
  match faults.lock with
  | some error => .error error
  | none =>
    let subs := activeOfPlan store userId plan.id now
    if userId.isSome ∧ subs = [] then .error (.message "该用户没有有效的此套餐订阅")
    else do
      let store ← resetAll faults calendar plan now advanceResetTime subs store
      .ok (buildSubscriptionResetResult plan subs advanceResetTime, store)

def adminReset (faults : AdminResetFaults) (calendar : Calendar) (userId : Option Int)
    (planId now : Int) (advanceResetTime : Bool) (store : SubscriptionStore) :
    Except GoError SubscriptionResetResult × SubscriptionStore :=
  transaction faults.beginTx faults.commit (fun store => do
    let plan ← getSubscriptionPlanById faults.plans store.plans planId
    adminResetTx faults calendar userId plan now advanceResetTime store) store

def adminResetUserSubscriptionsByPlan (faults : AdminResetFaults) (calendar : Calendar)
    (userId planId now : Int) (advanceResetTime : Bool) (store : SubscriptionStore) :
    Except GoError SubscriptionResetResult × SubscriptionStore :=
  if userId ≤ 0 ∨ planId ≤ 0 then (.error (.message "invalid userId or planId"), store)
  else adminReset faults calendar (some userId) planId now advanceResetTime store

def adminResetPlanSubscriptions (faults : AdminResetFaults) (calendar : Calendar)
    (planId now : Int) (advanceResetTime : Bool) (store : SubscriptionStore) :
    Except GoError SubscriptionResetResult × SubscriptionStore :=
  if planId ≤ 0 then (.error (.message "invalid planId"), store)
  else adminReset faults calendar none planId now advanceResetTime store

variable {faults : AdminResetFaults} {calendar : Calendar} {plan : SubscriptionPlan} {now : Int}
  {advanceResetTime : Bool} {subs : List UserSubscription} {before after : SubscriptionStore}

theorem resetAll_rows
    (called : resetAll faults calendar plan now advanceResetTime subs before = .ok after) :
    ∀ row ∈ after.subscriptions.rows, row ∈ before.subscriptions.rows ∨
      ∃ sub ∈ subs, row = resetUserSubscription calendar sub plan now advanceResetTime := by
  induction subs generalizing before with
  | nil =>
    intro row member
    cases called
    exact .inl member
  | cons sub subs induction =>
    intro row member
    obtain ⟨middle,first,rest⟩ := bind_succeeds_iff.mp called
    obtain ⟨-,rfl⟩ := attempt_eq_ok.mp first
    rcases induction rest row member with kept | ⟨other,otherMember,isReset⟩
    · rcases before.subscriptions.mem_save.mp kept with ⟨unchanged,-⟩ | ⟨isNew,-⟩
      · exact .inl unchanged
      · exact .inr ⟨sub,List.mem_cons_self,isNew⟩
    · exact .inr ⟨other,List.mem_cons_of_mem _ otherMember,isReset⟩

theorem adminReset_rows (userId : Option Int) (planId : Int) (store : SubscriptionStore) :
    ∀ row ∈ (adminReset faults calendar userId planId now advanceResetTime store).2.subscriptions.rows,
      row ∈ store.subscriptions.rows ∨
        ∃ plan, ∃ sub ∈ store.subscriptions.rows,
          row = resetUserSubscription calendar sub plan now advanceResetTime := by
  cases called : adminReset faults calendar userId planId now advanceResetTime store with
  | mk result after =>
  cases result with
  | error =>
    rw [transaction_error_state called]
    exact fun row member => .inl member
  | ok =>
    obtain ⟨-,-,body⟩ := transaction_ok_iff.mp called
    obtain ⟨plan,-,locked⟩ := bind_succeeds_iff.mp body
    unfold adminResetTx at locked
    split at locked
    · cases locked
    · dsimp only at locked
      split at locked
      · cases locked
      · obtain ⟨written,run,rest⟩ := bind_succeeds_iff.mp locked
        obtain ⟨-,rfl⟩ := rest
        intro row member
        rcases resetAll_rows run row member with kept | ⟨sub,subMember,isReset⟩
        · exact .inl kept
        · refine .inr ⟨plan,sub,?_,isReset⟩
          have active := (List.perm_insertionSort _ _).mem_iff.mp subMember
          exact (List.mem_filter.mp active).1

end

end NewApi
