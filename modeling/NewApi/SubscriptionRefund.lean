import Mathlib.Tactic.Ring
import NewApi.GuardedRuns
import NewApi.SubscriptionQuota

/-!
# Refunding a pre-consume record

`RefundSubscriptionPreConsume` moves the used amount back in a transaction of
its own, opened on the global handle inside the transaction that marks the
record.
-/

namespace NewApi

open GuardedRuns

structure RefundFaults where
  beginTx : Option GoError
  lockRecord : Option GoError
  inner : RowTxFaults
  saveRecord : Option GoError
  commit : Option GoError
deriving DecidableEq

namespace RefundFaults

def succeeds : RefundFaults where
  beginTx := none
  lockRecord := none
  inner := .succeeds
  saveRecord := none
  commit := none

/-- No statement up to the commit of the inner transaction fails. -/
def commitsInner (faults : RefundFaults) : Bool :=
  faults.beginTx = none ∧ faults.lockRecord = none ∧ faults.inner = .succeeds

def completes (faults : RefundFaults) : Bool :=
  faults.commitsInner ∧ faults.saveRecord = none ∧ faults.commit = none

end RefundFaults

def markRefunded (faults : RefundFaults) (requestId : String)
    (record : SubscriptionPreConsumeRecord) (store : SubscriptionStore) : Except GoError Unit × SubscriptionStore :=
  match faults.saveRecord, faults.commit with
  | some error, _ => (.error error, store)
  | none, some error => (.error error, store)
  | none, none => (.ok (), store.saveRecord requestId { record with status := .refunded })

def refundSubscriptionPreConsume (faults : RefundFaults) (requestId : String)
    (store : SubscriptionStore) : Except GoError Unit × SubscriptionStore :=
  if GoStrings.trimSpace requestId = "" then (.error (.message "requestId is empty"), store)
  else
    match faults.beginTx, faults.lockRecord, store.preConsumeRecords requestId with
    | some error, _, _ => (.error error, store)
    | none, some error, _ => (.error error, store)
    | none, none, none => (.error .recordNotFound, store)
    | none, none, some record =>
      if record.status = .refunded then
        match faults.commit with
        | some error => (.error error, store)
        | none => (.ok (), store)
      else if record.preConsumed ≤ 0 then markRefunded faults requestId record store
      else
        -- The inner transaction writes the shared store, not the outer copy.
        match postConsumeUserSubscriptionDelta faults.inner record.userSubscriptionId
            (-record.preConsumed) store with
        | (.error error, store) => (.error error, store)
        | (.ok _, store) => markRefunded faults requestId record store

def retryRefund {σ : Type} (fn : Nat → σ → Except GoError Unit × σ) :
    Nat → Nat → σ → Except GoError Unit × σ
  | 0, _, state => (.ok (), state)
  | remaining + 1, attempt, state =>
    match fn attempt state with
    | (.ok _, after) => (.ok (), after)
    | (.error error, after) =>
      if remaining = 0 then (.error error, after) else retryRefund fn remaining (attempt + 1) after

def refundWithRetry {σ : Type} (fn : Nat → σ → Except GoError Unit × σ) (state : σ) :
    Except GoError Unit × σ :=
  retryRefund fn 3 0 state

/-- A refund of this request would move an amount back: its record is consumed
and names a stored subscription that accepts the change. -/
structure RefundDue (store : SubscriptionStore) (requestId : String)
    (record : SubscriptionPreConsumeRecord) (sub : UserSubscription) : Prop where
  named : GoStrings.trimSpace requestId ≠ ""
  recorded : store.preConsumeRecords requestId = some record
  consumed : record.status = .consumed
  positive : 0 < record.preConsumed
  stored : store.subscriptions.find? record.userSubscriptionId = some sub
  accepted : 0 < sub.amountTotal →
    clampUsed (sub.amountUsed - record.preConsumed) ≤ sub.amountTotal

def refundedRow (sub : UserSubscription) (amount : Int) : UserSubscription :=
  sub.withUsed (clampUsed (sub.amountUsed - amount)) (clampUsed_nonneg _)

open RefundFaults

section

variable {faults : RefundFaults} {requestId : String} {before after : SubscriptionStore}
  {result : Except GoError Unit}

theorem markRefunded_cases (record : SubscriptionPreConsumeRecord)
    (called : markRefunded faults requestId record before = (result, after)) :
    (¬ (faults.saveRecord = none ∧ faults.commit = none) ∧ (∃ error, result = .error error) ∧
        after = before) ∨
      ((faults.saveRecord = none ∧ faults.commit = none) ∧ result = .ok () ∧
        after = before.saveRecord requestId { record with status := .refunded }) := by
  unfold markRefunded at called
  split at called
  · next error failed =>
    cases called
    exact .inl ⟨by simp [failed],⟨error,rfl⟩,rfl⟩
  · next error saved failed =>
    cases called
    exact .inl ⟨by simp [failed],⟨error,rfl⟩,rfl⟩
  · next saved committed =>
    cases called
    exact .inr ⟨⟨saved,committed⟩,rfl,rfl⟩

/-- While a refund is due, an execution does nothing unless its inner
transaction commits; then it moves the amount back, and marks the record only if
the outer transaction commits too. -/
theorem refund_of_due {record : SubscriptionPreConsumeRecord} {sub : UserSubscription}
    (due : RefundDue before requestId record sub)
    (called : refundSubscriptionPreConsume faults requestId before = (result, after)) :
    (faults.commitsInner = false ∧ (∃ error, result = .error error) ∧ after = before) ∨
      (faults.commitsInner = true ∧ faults.completes = false ∧ (∃ error, result = .error error) ∧
        after = before.saveSubscription (refundedRow sub record.preConsumed)) ∨
      (faults.completes = true ∧ result = .ok () ∧
        after = (before.saveSubscription (refundedRow sub record.preConsumed)).saveRecord requestId
          { record with status := .refunded }) := by
  obtain ⟨named,recorded,consumed,positive,found,accepted⟩ := due
  have notRefunded : record.status ≠ .refunded := by simp [consumed]
  have notFree : ¬ record.preConsumed ≤ 0 := by omega
  unfold refundSubscriptionPreConsume at called
  rw [if_neg named] at called
  cases began : faults.beginTx with
  | some error =>
    simp only [began] at called
    cases called
    exact .inl ⟨by simp [commitsInner,began],⟨error,rfl⟩,rfl⟩
  | none =>
    cases locked : faults.lockRecord with
    | some error =>
      simp only [began,locked] at called
      cases called
      exact .inl ⟨by simp [commitsInner,locked],⟨error,rfl⟩,rfl⟩
    | none =>
      simp only [began,locked,recorded,if_neg notRefunded,if_neg notFree] at called
      by_cases innerFine : faults.inner = .succeeds
      · have commits : faults.commitsInner = true := by
          simp [commitsInner,began,locked,innerFine]
        have inner : postConsumeUserSubscriptionDelta .succeeds record.userSubscriptionId
            (-record.preConsumed) before =
              (.ok (), before.saveSubscription (refundedRow sub record.preConsumed)) :=
          postConsume_succeeds found accepted (by omega)
        simp only [innerFine,inner] at called
        rcases markRefunded_cases record called with ⟨torn,failed,rfl⟩ | ⟨marked,rfl,rfl⟩
        · exact .inr (.inl ⟨commits,by simp [completes,torn],failed,rfl⟩)
        · exact .inr (.inr ⟨by simp [completes,commits,marked],rfl,rfl⟩)
      · refine .inl ⟨by simp [commitsInner,innerFine],?_⟩
        rcases inner : postConsumeUserSubscriptionDelta faults.inner record.userSubscriptionId
            (-record.preConsumed) before with ⟨innerResult,middle⟩
        rcases postConsume_cases inner with ⟨error,rfl,rfl⟩ | ⟨-,-,unmoved,-⟩ |
          ⟨-,-,-,fine,-⟩
        · simp only [inner] at called
          cases called
          exact ⟨⟨error,rfl⟩,rfl⟩
        · omega
        · exact absurd fine innerFine

theorem not_due_saveRecord (store : SubscriptionStore) (requestId : String)
    (record : SubscriptionPreConsumeRecord) :
    ¬ ∃ marked sub, RefundDue (store.saveRecord requestId { record with status := .refunded })
      requestId marked sub := by
  rintro ⟨marked,sub,-,found,consumed,-⟩
  simp only [SubscriptionStore.saveRecord_preConsumeRecords,Function.update_self,
    Option.some.injEq] at found
  simp [← found] at consumed

theorem refund_of_not_due (notDue : ¬ ∃ record sub, RefundDue before requestId record sub)
    (called : refundSubscriptionPreConsume faults requestId before = (result, after)) :
    after.subscriptions = before.subscriptions ∧
      ¬ ∃ record sub, RefundDue after requestId record sub := by
  revert called
  fun_cases refundSubscriptionPreConsume faults requestId before with
  | case7 _ record =>
    intro called
    rcases markRefunded_cases record called with ⟨-,-,rfl⟩ | ⟨-,-,rfl⟩
    · exact ⟨rfl,notDue⟩
    · exact ⟨rfl,not_due_saveRecord before requestId record⟩
  | case8 _ record _ _ _ _ _ error middle inner =>
    rintro ⟨⟩
    rcases postConsume_cases inner with ⟨-,-,rfl⟩ | ⟨failed,-⟩ | ⟨failed,-⟩
    · exact ⟨rfl,notDue⟩
    all_goals cases failed
  | case9 blank record recorded _ _ notRefunded free _ middle inner =>
    rcases postConsume_cases inner with ⟨error,failed,-⟩ | ⟨-,-,unmoved,-⟩ |
      ⟨-,-,-,-,sub,found,accepted,-⟩
    · cases failed
    · omega
    · refine absurd ⟨record,sub,blank,recorded,?_,by omega,found,accepted⟩ notDue
      cases status : record.status <;> simp_all
  | _ =>
    rintro ⟨⟩
    exact ⟨rfl,notDue⟩

theorem refund_ok_refunded (succeeded : refundSubscriptionPreConsume faults requestId before =
      (.ok (), after)) :
    ∃ record, after.preConsumeRecords requestId = some record ∧ record.status = .refunded := by
  have marks : ∀ store record, markRefunded faults requestId record store = (.ok (), after) →
      ∃ marked, after.preConsumeRecords requestId = some marked ∧ marked.status = .refunded := by
    intro store record called
    rcases markRefunded_cases record called with ⟨-,⟨error,failed⟩,-⟩ | ⟨-,-,rfl⟩
    · cases failed
    · exact ⟨{ record with status := .refunded },by simp,rfl⟩
  revert succeeded
  fun_cases refundSubscriptionPreConsume faults requestId before with
  | case6 _ record recorded _ _ refunded =>
    rintro ⟨⟩
    exact ⟨record,recorded,refunded⟩
  | case7 _ record | case9 _ record => exact marks _ record
  | _ => nofun

end

def refundStep (requestId : String) (store : SubscriptionStore) (faults : RefundFaults) :
    SubscriptionStore :=
  (refundSubscriptionPreConsume faults requestId store).2

/-- The executions up to the first one in which nothing fails. -/
def untilCompleted : List RefundFaults → List RefundFaults
  | [] => []
  | faults :: rest => if faults.completes then [faults] else faults :: untilCompleted rest

/-- How often the inner transaction commits before the record is marked. -/
def innerCommits (executions : List RefundFaults) : Nat :=
  (untilCompleted executions).countP RefundFaults.commitsInner

section

variable {requestId : String} {store : SubscriptionStore} {sub : UserSubscription}

theorem completes_commitsInner {faults : RefundFaults} (completes : faults.completes = true) :
    faults.commitsInner = true := by
  simp only [RefundFaults.completes,decide_eq_true_eq] at completes
  exact completes.1

theorem refund_run_of_not_due (notDue : ¬ ∃ record sub, RefundDue store requestId record sub)
    (executions : List RefundFaults) :
    (run (refundStep requestId) store executions).subscriptions = store.subscriptions := by
  induction executions generalizing store with
  | nil => rfl
  | cons faults rest ih =>
    have executed : refundSubscriptionPreConsume faults requestId store =
        (_, refundStep requestId store faults) := rfl
    obtain ⟨unchanged,stillNotDue⟩ := refund_of_not_due notDue executed
    exact (ih stillNotDue).trans unchanged

/-- Moving an amount back again starts from where the last move stopped. -/
theorem clampUsed_sub_sub (used amount : Int) (times : Nat) (nonneg : 0 ≤ amount) :
    clampUsed (clampUsed (used - amount) - times * amount) =
      clampUsed (used - (times + 1 : Nat) * amount) := by
  have more : 0 ≤ (times : Int) * amount := Int.mul_nonneg (Int.natCast_nonneg times) nonneg
  have split : ((times + 1 : Nat) : Int) * amount = times * amount + amount := by
    push_cast
    ring
  unfold clampUsed
  split_ifs <;> omega

theorem sub_clampUsed_le_iff {used amount : Int} (times : Nat) (nonneg : 0 ≤ used)
    (positive : 0 < amount) :
    used - clampUsed (used - times * amount) ≤ amount ↔ (amount < used → times ≤ 1) := by
  match times with
  | 0 =>
    simp only [Nat.cast_zero,Int.zero_mul,Int.sub_zero,clampUsed_of_nonneg nonneg]
    omega
  | 1 =>
    unfold clampUsed
    split_ifs <;> omega
  | times + 2 =>
    have more : 0 ≤ (times : Int) * amount := Int.mul_nonneg (Int.natCast_nonneg times) positive.le
    have split : ((times + 2 : Nat) : Int) * amount = times * amount + (amount + amount) := by
      push_cast
      ring
    unfold clampUsed
    split_ifs <;> omega

/-- A torn execution leaves the refund due, with the amount already moved. -/
theorem refundDue_of_torn {record : SubscriptionPreConsumeRecord}
    (due : RefundDue store requestId record sub) :
    RefundDue (store.saveSubscription (refundedRow sub record.preConsumed)) requestId record
      (refundedRow sub record.preConsumed) := by
  obtain ⟨named,recorded,consumed,positive,found,accepted⟩ := due
  have sameId : sub.id = record.userSubscriptionId := KeyedTable.key_of_find? found
  refine ⟨named,recorded,consumed,positive,?_,fun bounded => ?_⟩
  · rw [← sameId] at found ⊢
    exact store.subscriptions.find?_save_self found
  · have atMost := accepted bounded
    simp only [refundedRow,UserSubscription.withUsed_amountUsed,
      UserSubscription.withUsed_amountTotal] at bounded ⊢
    unfold clampUsed at atMost ⊢
    split_ifs at atMost ⊢ <;> omega

theorem refund_run_used {record : SubscriptionPreConsumeRecord}
    (due : RefundDue store requestId record sub) (executions : List RefundFaults) :
    ∃ row, (run (refundStep requestId) store executions).subscriptions.find?
        record.userSubscriptionId = some row ∧
      row.amountUsed =
        clampUsed (sub.amountUsed - innerCommits executions * record.preConsumed) := by
  induction executions generalizing store sub with
  | nil =>
    exact ⟨sub,due.stored,by simp [innerCommits,untilCompleted,
      clampUsed_of_nonneg sub.usedNonneg]⟩
  | cons faults rest ih =>
    have executed : refundSubscriptionPreConsume faults requestId store =
        (_, refundStep requestId store faults) := rfl
    rw [run_cons]
    rcases refund_of_due due executed with ⟨unreached,-,same⟩ | ⟨reached,torn,-,written⟩ |
      ⟨completes,-,written⟩
    · have incomplete : faults.completes = false := by
        cases completes : faults.completes with
        | false => rfl
        | true => rw [completes_commitsInner completes] at unreached; cases unreached
      rw [same]
      simpa [innerCommits,untilCompleted,incomplete,unreached] using ih due
    · obtain ⟨row,found,usedEq⟩ := ih (refundDue_of_torn due)
      rw [written]
      refine ⟨row,found,?_⟩
      rw [usedEq]
      simpa [innerCommits,untilCompleted,torn,reached,refundedRow] using
        clampUsed_sub_sub sub.amountUsed record.preConsumed (innerCommits rest) due.positive.le
    · have settled := written ▸ not_due_saveRecord
        (store.saveSubscription (refundedRow sub record.preConsumed)) requestId record
      obtain ⟨-,-,-,-,found,-⟩ := refundDue_of_torn due
      rw [refund_run_of_not_due settled rest,written]
      refine ⟨_,found,?_⟩
      simp [innerCommits,untilCompleted,completes,completes_commitsInner completes,refundedRow]

/-- A retried refund is a run of at most three executions, and nil means that the record is
refunded. -/
theorem retryRefund_run (attempts : Nat → RefundFaults) (remaining first : Nat) :
    let retried := retryRefund (fun attempt =>
      refundSubscriptionPreConsume (attempts attempt) requestId) remaining first store
    (∃ executed : List RefundFaults, executed.length ≤ remaining ∧
      retried.2 = run (refundStep requestId) store executed) ∧
    (remaining ≠ 0 → retried.1 = .ok () →
      ∃ record, retried.2.preConsumeRecords requestId = some record ∧
        record.status = .refunded) := by
  induction remaining generalizing first store with
  | zero => exact ⟨⟨[],by simp,rfl⟩,fun some_ => absurd rfl some_⟩
  | succ remaining ih =>
    rcases outcome : refundSubscriptionPreConsume (attempts first) requestId store with
      ⟨result,after⟩
    have stepped : refundStep requestId store (attempts first) = after :=
      congrArg Prod.snd outcome
    simp only [retryRefund,outcome]
    cases result with
    | ok => exact ⟨⟨[attempts first],by simp,by simp [stepped]⟩,fun _ _ => refund_ok_refunded outcome⟩
    | error =>
      by_cases last : remaining = 0
      · exact ⟨⟨[attempts first],by simp,by simp [stepped,last]⟩,fun _ => by simp [last]⟩
      · obtain ⟨⟨executed,short,same⟩,refunded⟩ := @ih after (first + 1)
        simp only [last]
        exact ⟨⟨attempts first :: executed,by simpa using short,by simp [stepped,same]⟩,
          fun _ => refunded last⟩

end

/-- The refund of one request lowers the used amount of its subscription by no
more than the recorded amount exactly when the inner transaction commits at most
once until the record is marked; an execution that returns nil, retried or not,
leaves the record refunded. -/
theorem refund_reduces_once_iff (requestId : String) (store : SubscriptionStore)
    (record : SubscriptionPreConsumeRecord) (sub : UserSubscription)
    (recorded : store.preConsumeRecords requestId = some record)
    (found : store.subscriptions.find? record.userSubscriptionId = some sub)
    (executions : List RefundFaults) :
    ((∃ row, (run (refundStep requestId) store executions).subscriptions.find?
          record.userSubscriptionId = some row ∧
        sub.amountUsed - row.amountUsed ≤ max record.preConsumed 0) ↔
      (RefundDue store requestId record sub → record.preConsumed < sub.amountUsed →
        innerCommits executions ≤ 1)) ∧
      (∀ faults before after, refundSubscriptionPreConsume faults requestId before = (.ok (), after) →
        ∃ marked, after.preConsumeRecords requestId = some marked ∧ marked.status = .refunded) ∧
      ∀ (attempts : Nat → RefundFaults) before,
        (∃ executed : List RefundFaults, executed.length ≤ 3 ∧
          (refundWithRetry (fun attempt =>
            refundSubscriptionPreConsume (attempts attempt) requestId) before).2 =
              run (refundStep requestId) before executed) ∧
        ((refundWithRetry (fun attempt =>
            refundSubscriptionPreConsume (attempts attempt) requestId) before).1 = .ok () →
          ∃ marked, (refundWithRetry (fun attempt =>
              refundSubscriptionPreConsume (attempts attempt) requestId)
                before).2.preConsumeRecords requestId = some marked ∧
            marked.status = .refunded) := by
  refine ⟨?_,fun faults before after => refund_ok_refunded,fun attempts before =>
    (retryRefund_run attempts 3 0).imp_right fun refunded => refunded (by decide)⟩
  by_cases due : RefundDue store requestId record sub
  · obtain ⟨row,rowFound,usedEq⟩ := refund_run_used due executions
    have positive : 0 < record.preConsumed := due.positive
    have nonneg := sub.usedNonneg
    rw [max_eq_left positive.le]
    simpa [rowFound,usedEq,due] using sub_clampUsed_le_iff (innerCommits executions) nonneg positive
  · have same : (run (refundStep requestId) store executions).subscriptions =
        store.subscriptions := by
      refine refund_run_of_not_due ?_ executions
      rintro ⟨other,row,refundable⟩
      have sameRecord : other = record := by
        simpa [recorded] using refundable.recorded.symm
      subst sameRecord
      have sameRow : row = sub := by simpa [found] using refundable.stored.symm
      exact due (sameRow ▸ refundable)
    rw [same]
    refine ⟨fun _ isDue => absurd isDue due,fun _ => ⟨sub,found,?_⟩⟩
    omega

def recordedStore : SubscriptionStore where
  subscriptions :=
    { rows :=
        [{ id := 1
           userId := 1
           planId := 1
           amountTotal := 100
           amountUsed := 10
           startTime := 0
           endTime := 1000
           status := .active
           lastResetTime := 0
           nextResetTime := 0
           upgradeGroup := ""
           prevUserGroup := ""
           downgradeGroup := ""
           allowWalletOverflow := true
           idPos := Int.one_pos
           usedNonneg := by decide }]
      keysNodup := by decide }
  plans := fun _ => none
  preConsumeRecords := Function.update (fun _ => none) "request"
    (some { userId := 1, userSubscriptionId := 1, preConsumed := 3, status := .consumed })

def tornThenFine (attempt : Nat) : RefundFaults :=
  if attempt = 0 then { RefundFaults.succeeds with commit := some (.message "bad connection") }
  else .succeeds

/-- A single retried refund of 3 takes 6 from the used amount. -/
theorem refundWithRetry_refunds_twice :
    (refundWithRetry (fun attempt =>
        refundSubscriptionPreConsume (tornThenFine attempt) "request") recordedStore).1 = .ok () ∧
      ((refundWithRetry (fun attempt =>
        refundSubscriptionPreConsume (tornThenFine attempt) "request")
          recordedStore).2.subscriptions.find? 1).map UserSubscription.amountUsed = some 4 := by
  decide

/-- Without a fault the same refund happens once, however often it is asked for. -/
theorem refund_reduces_once_iff_recordedStore :
    ∃ row, (run (refundStep "request") recordedStore [.succeeds, .succeeds]).subscriptions.find? 1 =
        some row ∧ (10 : Int) - row.amountUsed ≤ max 3 0 :=
  (refund_reduces_once_iff "request" recordedStore _ _ rfl rfl [.succeeds, .succeeds]).1.mpr
    fun _ _ => by decide

end NewApi
