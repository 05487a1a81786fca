import NewApi.SubscriptionRefund
import NewApi.SubscriptionResets

/-! # The used amount of a subscription stays within its total -/

namespace NewApi

open GuardedRuns Transactions List

/-- `PostConsumeUserSubscriptionDelta`, with the sum of two `int64` numbers. -/
def postConsumeInt64 (faults : RowTxFaults) (userSubscriptionId delta : Int)
    (store : SubscriptionStore) : Except GoError Unit × SubscriptionStore :=
  if userSubscriptionId ≤ 0 then (.error (.message "invalid userSubscriptionId"), store)
  else if delta = 0 then (.ok (), store)
  else
    transaction faults.beginTx faults.commit (fun store => do
      let sub ← firstSubscription faults.lock store userSubscriptionId
      let newUsed := clampUsed (wrapInt64 (sub.amountUsed + delta))
      if 0 < sub.amountTotal ∧ sub.amountTotal < newUsed then
        .error (.message
          s!"subscription used exceeds total, used={newUsed} total={sub.amountTotal}")
      else
        attempt faults.save
          ((), store.saveSubscription (sub.withUsed newUsed (clampUsed_nonneg _)))) store

theorem wrapInt64_of_range {value : Int} (low : -2 ^ 63 ≤ value) (high : value < 2 ^ 63) :
    wrapInt64 value = value := by
  unfold wrapInt64
  omega

theorem postConsumeInt64_eq {faults : RowTxFaults} {id delta : Int} {store : SubscriptionStore}
    (fits : ∀ sub, store.subscriptions.find? id = some sub →
      -2 ^ 63 ≤ sub.amountUsed + delta ∧ sub.amountUsed + delta < 2 ^ 63) :
    postConsumeInt64 faults id delta store =
      postConsumeUserSubscriptionDelta faults id delta store := by
  unfold postConsumeInt64 postConsumeUserSubscriptionDelta
  split_ifs
  · rfl
  · rfl
  · apply transaction_congr
    cases found : firstSubscription faults.lock store id with
    | error => rfl
    | ok sub =>
      obtain ⟨low,high⟩ := fits sub (firstSubscription_eq_ok.mp found).2
      simp only [bind,Except.bind,wrapInt64_of_range low high]

theorem postConsumeInt64_cases (faults : RowTxFaults) (id delta : Int) (store : SubscriptionStore) :
    (postConsumeInt64 faults id delta store).2 = store ∨
      ∃ sub used nonneg, store.subscriptions.find? id = some sub ∧
        (0 < sub.amountTotal → used ≤ sub.amountTotal) ∧
        (postConsumeInt64 faults id delta store).2 =
          store.saveSubscription (sub.withUsed used nonneg) := by
  cases called : postConsumeInt64 faults id delta store with
  | mk result after =>
  unfold postConsumeInt64 at called
  split_ifs at called
  · exact .inl (congrArg Prod.snd called).symm
  · exact .inl (congrArg Prod.snd called).symm
  · cases result with
    | error => exact .inl (transaction_error_state called)
    | ok =>
      obtain ⟨-,-,body⟩ := transaction_ok_iff.mp called
      obtain ⟨sub,found,rest⟩ := bind_succeeds_iff.mp body
      dsimp only at rest
      split_ifs at rest with exceeds
      obtain ⟨-,written⟩ := attempt_eq_ok.mp rest
      refine .inr ⟨sub,_,clampUsed_nonneg _,(firstSubscription_eq_ok.mp found).2,?_,
        (congrArg Prod.snd written).symm⟩
      omega

section

def WithinTotal (sub : UserSubscription) : Prop :=
  0 < sub.amountTotal → 0 ≤ sub.amountUsed ∧ sub.amountUsed ≤ sub.amountTotal

def UsageBounded (store : SubscriptionStore) : Prop :=
  ∀ sub ∈ store.subscriptions.rows, WithinTotal sub

variable {sub : UserSubscription} {calendar : Calendar}

theorem UsageBounded.save {store : SubscriptionStore} (bounded : UsageBounded store)
    (within : WithinTotal sub) :
    UsageBounded (store.saveSubscription sub) := by
  intro row member
  rcases store.subscriptions.mem_save.mp member with ⟨kept,-⟩ | ⟨rfl,-⟩
  · exact bounded row kept
  · exact within

theorem withinTotal_of_used_zero (unused : sub.amountUsed = 0) :
    WithinTotal sub := by
  intro limited
  omega

theorem withinTotal_maybeReset {updated : UserSubscription}
    {plan : SubscriptionPlan} {now : Int} (within : WithinTotal sub)
    (reset : maybeResetUserSubscriptionWithPlan calendar sub plan now = some updated) :
    WithinTotal updated := by
  obtain ⟨-,-,-,sameTotal,-,-,used⟩ := maybeReset_fields reset
  rcases used with kept | unused
  · unfold WithinTotal
    rwa [sameTotal,kept]
  · exact withinTotal_of_used_zero unused

theorem withinTotal_afterReset {access : PlanAccess} {now : Int}
    {plans : Int → Option SubscriptionPlan} (within : WithinTotal sub) :
    WithinTotal (afterReset access calendar now plans sub) := by
  rcases afterReset_cases access calendar now plans sub with same | ⟨plan,-,reset⟩
  · rwa [same]
  · exact withinTotal_maybeReset within reset

theorem withinTotal_chargedRow {amount : Int} {positive : 0 < amount} (fits : Fits amount sub)
    : WithinTotal (chargedRow amount positive sub) := by
  intro limited
  have room := fits limited
  have nonneg := (chargedRow amount positive sub).usedNonneg
  refine ⟨nonneg,?_⟩
  change sub.amountUsed + amount ≤ sub.amountTotal
  omega

end

section

variable {seen store after : SubscriptionStore} {faults : PreConsumeFaults} {calendar : Calendar}
  {now : Int} {requestId : String} {userId amount : Int} {result : SubscriptionPreConsumeResult}

/-- The subscription had room under the lock, once its due reset was made. -/
theorem preConsumeSeen_had_room (called : preConsumeSeen seen faults calendar now requestId userId
      amount store = (.ok result, after)) :
    (seen.preConsumeRecords requestId ≠ none ∧ after = store) ∨
      ∃ sub, store.subscriptions.find? result.userSubscriptionId = some sub ∧
        Fits amount (afterReset faults.plans calendar now store.plans sub) := by
  rcases preConsumeSeen_ok called with reused | ⟨-,-,positive,consumed⟩
  · exact .inl reused
  · obtain ⟨row,firstFit,resultId,-⟩ :=
      consumeCandidates_cases (activeSubscriptions_nodup store userId now)
        (fun row active => activeSubscriptions_stored active) consumed
    refine .inr ⟨row,?_,by simpa using find?_some firstFit⟩
    rw [resultId]
    exact activeSubscriptions_stored (mem_of_find?_eq_some firstFit)

theorem usageBounded_preConsume (bounded : UsageBounded store) :
    UsageBounded (preConsumeSeen seen faults calendar now requestId userId amount store).2 := by
  cases called : preConsumeSeen seen faults calendar now requestId userId amount store with
  | mk result after =>
  cases result with
  | error =>
    rwa [preConsumeSeen_error called]
  | ok =>
    rcases preConsumeSeen_ok called with ⟨-,rfl⟩ | ⟨-,-,positive,consumed⟩
    · exact bounded
    · obtain ⟨charged,firstFit,-,-,others,outcome⟩ :=
        consumeCandidates_cases (activeSubscriptions_nodup store userId now)
          (fun row active => activeSubscriptions_stored active) consumed
      have fits := find?_some firstFit
      have chargedBounded := bounded charged
        (mem_activeSubscriptions.mp (mem_of_find?_eq_some firstFit)).1
      intro row member
      have found := KeyedTable.find?_of_mem member
      by_cases isCharged : row.id = charged.id
      · rw [isCharged] at found
        rcases outcome with ⟨-,-,written,-⟩ | ⟨dup,-,-,-,written,-⟩
        · obtain rfl := Option.some.inj (found.symm.trans written)
          exact withinTotal_chargedRow (by simpa using fits)
        · obtain rfl := Option.some.inj (found.symm.trans written)
          exact withinTotal_afterReset chargedBounded
      · rcases others row.id isCharged with same | ⟨-,reset⟩
        · rw [same] at found
          exact bounded row (store.subscriptions.find?_eq_some_iff.mp found).1
        · rw [reset,Option.map_eq_some_iff] at found
          obtain ⟨old,oldFound,rfl⟩ := found
          exact withinTotal_afterReset
            (bounded old (store.subscriptions.find?_eq_some_iff.mp oldFound).1)

end

section

/-- The transactions that touch subscriptions, with the answers of the database. A refund is two
of them; between the two, others may run. -/
inductive UsageEvent where
  | preConsume (seen : SubscriptionStore) (faults : PreConsumeFaults) (calendar : Calendar)
      (now : Int) (requestId : String) (userId amount : Int)
  | postConsume (faults : RowTxFaults) (userSubscriptionId delta : Int)
  | refundAmount (faults : RefundFaults) (record : SubscriptionPreConsumeRecord)
  | refundRecord (faults : RefundFaults) (requestId : String) (record : SubscriptionPreConsumeRecord)
  | resetDue (faults : RowTxFaults) (calendar : Calendar) (plan : SubscriptionPlan) (id now : Int)
  | adminResetUser (faults : AdminResetFaults) (calendar : Calendar) (userId planId now : Int)
      (advanceResetTime : Bool)
  | adminResetPlan (faults : AdminResetFaults) (calendar : Calendar) (planId now : Int)
      (advanceResetTime : Bool)

def usageStep (store : SubscriptionStore) : UsageEvent → SubscriptionStore
  | .preConsume seen faults calendar now requestId userId amount =>
    (preConsumeSeen seen faults calendar now requestId userId amount store).2
  | .postConsume faults userSubscriptionId delta =>
    (postConsumeInt64 faults userSubscriptionId delta store).2
  | .refundAmount faults record =>
    (postConsumeInt64 faults.inner record.userSubscriptionId (-record.preConsumed) store).2
  | .refundRecord faults requestId record => (markRefunded faults requestId record store).2
  | .resetDue faults calendar plan id now =>
    (resetDueSubscription faults calendar plan id now store).2
  | .adminResetUser faults calendar userId planId now advanceResetTime =>
    (adminResetUserSubscriptionsByPlan faults calendar userId planId now advanceResetTime store).2
  | .adminResetPlan faults calendar planId now advanceResetTime =>
    (adminResetPlanSubscriptions faults calendar planId now advanceResetTime store).2

variable {store : SubscriptionStore}

theorem usageBounded_postConsume (faults : RowTxFaults) (id delta : Int)
    (bounded : UsageBounded store) : UsageBounded (postConsumeInt64 faults id delta store).2 := by
  rcases postConsumeInt64_cases faults id delta store with same | ⟨sub,used,nonneg,-,fits,written⟩
  · rwa [same]
  · rw [written]
    exact bounded.save fun limited => ⟨nonneg,fits limited⟩

theorem usageBounded_adminReset {faults : AdminResetFaults} {calendar : Calendar} {now : Int}
    {advanceResetTime : Bool} (userId : Option Int) (planId : Int) (bounded : UsageBounded store) :
    UsageBounded (adminReset faults calendar userId planId now advanceResetTime store).2 := by
  intro row member
  rcases adminReset_rows userId planId store row member with kept | ⟨plan,sub,-,rfl⟩
  · exact bounded row kept
  · exact withinTotal_of_used_zero rfl

theorem usageBounded_step (event : UsageEvent) (bounded : UsageBounded store) :
    UsageBounded (usageStep store event) := by
  cases event with
  | preConsume =>
    exact usageBounded_preConsume bounded
  | postConsume faults id delta => exact usageBounded_postConsume faults id delta bounded
  | refundAmount => exact usageBounded_postConsume _ _ _ bounded
  | refundRecord faults requestId record =>
    rw [usageStep]
    cases called : markRefunded faults requestId record store with
    | mk =>
    rcases markRefunded_cases record called with ⟨-,-,rfl⟩ | ⟨-,-,rfl⟩ <;> exact bounded
  | resetDue faults calendar plan id now =>
    rcases resetDueSubscription_cases faults calendar plan id now store with
      same | ⟨locked,updated,found,-,reset,written⟩
    · rwa [usageStep,same]
    · rw [usageStep,written]
      have member := (store.subscriptions.find?_eq_some_iff.mp found).1
      exact bounded.save (withinTotal_maybeReset (bounded locked member) reset)
  | adminResetUser =>
    rw [usageStep,adminResetUserSubscriptionsByPlan]
    split_ifs
    · exact bounded
    · exact usageBounded_adminReset _ _ bounded
  | adminResetPlan =>
    rw [usageStep,adminResetPlanSubscriptions]
    split_ifs
    · exact bounded
    · exact usageBounded_adminReset _ _ bounded

theorem recordedStore_bounded : UsageBounded recordedStore := by
  intro sub member
  obtain rfl := mem_singleton.mp member
  intro _
  decide

def quietPreConsume : PreConsumeFaults where
  beginTx := none
  findExisting := none
  existingSubscription := none
  lockSubscriptions := none
  plans := { cached := fun _ => none, query := fun _ => none }
  saveReset := fun _ => none
  createRecord := fun _ => none
  duplicateKey := .message "duplicate key"
  findDuplicate := fun _ => none
  saveSubscription := fun _ => none
  commit := none

/-- A calendar whose days begin at multiples of a day; weeks and months are left out. -/
def dayCalendar : Calendar where
  nextMidnight instant := (instant / 86400 + 1) * 86400
  nextMonday instant := instant
  nextMonth instant := instant
  addDate instant _ _ := instant

variable {store : SubscriptionStore} {faults : RefundFaults} {requestId : String}
  (fits : ∀ record sub, store.preConsumeRecords requestId = some record →
    store.subscriptions.find? record.userSubscriptionId = some sub →
    -2 ^ 63 ≤ sub.amountUsed - record.preConsumed ∧ sub.amountUsed - record.preConsumed < 2 ^ 63)
include fits

/-- A refund that nothing comes between is its transactions, one after the other. -/
theorem refund_eq_run :
    ∃ events, (refundSubscriptionPreConsume faults requestId store).2 = run usageStep store events := by
  unfold refundSubscriptionPreConsume
  split_ifs
  · exact ⟨[],rfl⟩
  · split
    · exact ⟨[],rfl⟩
    · exact ⟨[],rfl⟩
    · exact ⟨[],rfl⟩
    · rename_i record _ _ recorded
      have sameSum : postConsumeInt64 faults.inner record.userSubscriptionId (-record.preConsumed)
          store = postConsumeUserSubscriptionDelta faults.inner record.userSubscriptionId
            (-record.preConsumed) store :=
        postConsumeInt64_eq fun sub found => fits record sub recorded found
      split_ifs
      · split <;> exact ⟨[],rfl⟩
      · exact ⟨[.refundRecord faults requestId record],rfl⟩
      · split
        · rename_i error after moved
          refine ⟨[.refundAmount faults record],?_⟩
          rw [run_cons,run_nil,usageStep,sameSum,moved]
        · rename_i value after moved
          refine ⟨[.refundAmount faults record, .refundRecord faults requestId record],?_⟩
          rw [run_cons,run_cons,run_nil,usageStep,usageStep,sameSum,moved]

theorem refund_keeps_bounded (bounded : UsageBounded store) :
    UsageBounded (refundSubscriptionPreConsume faults requestId store).2 := by
  obtain ⟨events,after⟩ := refund_eq_run fits
  rw [after]
  exact run_invariant UsageBounded (fun _ event bounded _ => usageBounded_step event bounded)
    bounded (guarded_true store events)

end

theorem recordedStore_refund_bounded :
    UsageBounded (refundSubscriptionPreConsume .succeeds "request" recordedStore).2 :=
  refund_keeps_bounded (by rintro record sub ⟨⟩ ⟨⟩; decide) recordedStore_bounded

end NewApi
