import NewApi.SubscriptionQuota

/-! # What a pre-consume call does to the subscription tables -/

namespace NewApi

open Transactions List

def afterReset (access : PlanAccess) (calendar : Calendar) (now : Int)
    (plans : Int → Option SubscriptionPlan) (sub : UserSubscription) : UserSubscription :=
  match getSubscriptionPlanById access plans sub.planId with
  | .ok plan => (maybeResetUserSubscriptionWithPlan calendar sub plan now).getD sub
  | .error _ => sub

section

variable (access : PlanAccess) (calendar : Calendar) (now : Int)
  (plans : Int → Option SubscriptionPlan)

theorem afterReset_cases (sub : UserSubscription) :
    afterReset access calendar now plans sub = sub ∨
      ∃ plan, getSubscriptionPlanById access plans sub.planId = .ok plan ∧
        maybeResetUserSubscriptionWithPlan calendar sub plan now =
          some (afterReset access calendar now plans sub) := by
  unfold afterReset
  cases lookup : getSubscriptionPlanById access plans sub.planId with
  | error => exact .inl rfl
  | ok plan =>
    cases reset : maybeResetUserSubscriptionWithPlan calendar sub plan now with
    | none => exact .inl (by simp [reset])
    | some => exact .inr ⟨plan,rfl,by simp [reset]⟩

@[simp]
theorem afterReset_id (sub : UserSubscription) :
    (afterReset access calendar now plans sub).id = sub.id := by
  rcases afterReset_cases access calendar now plans sub with same | ⟨plan,-,reset⟩
  · rw [same]
  · exact (maybeReset_fields reset).1

end

/-- A row was left alone, or it is one of the candidates and its due reset was
applied. -/
def ResetOnly (reset : UserSubscription → UserSubscription) (candidates : List UserSubscription)
    (before after : SubscriptionStore) (id : Int) : Prop :=
  after.subscriptions.find? id = before.subscriptions.find? id ∨
    (id ∈ candidates.map UserSubscription.id ∧
      after.subscriptions.find? id = (before.subscriptions.find? id).map reset)

section

variable {faults : PreConsumeFaults} {calendar : Calendar} {now : Int} {requestId : String}
  {userId amount : Int} {positive : 0 < amount}
  {sub : UserSubscription} {before after store : SubscriptionStore}
  {result : SubscriptionPreConsumeResult} {candidate : UserSubscription} {userId : Int}

theorem resetCandidate_effect (stored : before.subscriptions.find? candidate.id = some candidate)
    (called : resetCandidate faults calendar now candidate before = .ok (sub, after)) :
    sub = afterReset faults.plans calendar now before.plans candidate ∧
      after.subscriptions.find? candidate.id = some sub ∧
      (∀ id, id ≠ candidate.id →
        after.subscriptions.find? id = before.subscriptions.find? id) ∧
      after.plans = before.plans ∧ after.preConsumeRecords = before.preConsumeRecords := by
  obtain ⟨plan,lookup,rest⟩ := bind_succeeds_iff.mp called
  cases reset : maybeResetUserSubscriptionWithPlan calendar candidate plan now with
  | none =>
    simp only [reset] at rest
    obtain ⟨rfl,rfl⟩ := rest
    exact ⟨by simp [afterReset,lookup,reset],stored,fun _ _ => rfl,rfl,rfl⟩
  | some =>
    simp only [reset,attempt_eq_ok] at rest
    obtain ⟨-,rfl,rfl⟩ := rest
    refine ⟨by simp [afterReset,lookup,reset],?_⟩
    rw [← (maybeReset_fields reset).1] at stored ⊢
    exact ⟨before.subscriptions.find?_save_self stored,
      fun id different => before.subscriptions.find?_save_of_ne different,rfl,rfl⟩

/-- The row and the record that a fresh consumption writes. -/
def chargedRow (amount : Int) (positive : 0 < amount) (sub : UserSubscription) :
    UserSubscription :=
  sub.withUsed (sub.amountUsed + amount) (sub.used_add_nonneg positive)

def consumedRecord (userId subscriptionId amount : Int) : SubscriptionPreConsumeRecord where
  userId := userId
  userSubscriptionId := subscriptionId
  preConsumed := amount
  status := .consumed

theorem chargeCandidate_cases
    (called : chargeCandidate faults requestId userId amount positive sub before =
      .ok (result, after)) :
    result.userSubscriptionId = sub.id ∧
      ((before.preConsumeRecords requestId = none ∧ result.preConsumed = amount ∧
          after = (before.saveRecord requestId (consumedRecord userId sub.id amount)).saveSubscription
            (chargedRow amount positive sub)) ∨
        (∃ dup, before.preConsumeRecords requestId = some dup ∧ dup.status ≠ .refunded ∧
          result.preConsumed = dup.preConsumed ∧ after = before)) := by
  unfold chargeCandidate createRecord at called
  cases stored : before.preConsumeRecords requestId with
  | none =>
    cases createFault : faults.createRecord sub.id with
    | some => simp [stored,createFault] at called
    | none =>
      simp only [stored,createFault,attempt_eq_ok] at called
      obtain ⟨-,rfl,rfl⟩ := called
      exact ⟨rfl,.inl ⟨rfl,rfl,rfl⟩⟩
  | some dup =>
    have duplicate : (if dup.status = .refunded then
        Except.error (GoError.message "subscription pre-consume already refunded")
      else Except.ok (
        { userSubscriptionId := sub.id
          preConsumed := dup.preConsumed
          amountTotal := sub.amountTotal
          amountUsedBefore := sub.amountUsed
          amountUsedAfter := sub.amountUsed : SubscriptionPreConsumeResult }, before)) =
        Except.ok (result, after) := by
      cases createFault : faults.createRecord sub.id <;>
        cases lookupFault : faults.findDuplicate sub.id <;>
        simp_all
    split_ifs at duplicate with refunded
    obtain ⟨rfl,rfl⟩ := duplicate
    exact ⟨rfl,.inr ⟨dup,rfl,refunded,rfl,rfl⟩⟩

theorem consumeCandidates_cases {candidates : List UserSubscription}
    (distinct : (candidates.map UserSubscription.id).Nodup)
    (stored : ∀ row ∈ candidates, before.subscriptions.find? row.id = some row)
    (called : consumeCandidates faults calendar now requestId userId amount positive candidates
      before = .ok (result, after)) :
    ∃ row, candidates.find? (fun row =>
        Fits amount (afterReset faults.plans calendar now before.plans row)) = some row ∧
      result.userSubscriptionId = row.id ∧ after.plans = before.plans ∧
      (∀ id, id ≠ row.id →
        ResetOnly (afterReset faults.plans calendar now before.plans) candidates before after
          id) ∧
      ((before.preConsumeRecords requestId = none ∧ result.preConsumed = amount ∧
          after.subscriptions.find? row.id = some (chargedRow amount positive
            (afterReset faults.plans calendar now before.plans row)) ∧
          after.preConsumeRecords = Function.update before.preConsumeRecords requestId
            (some (consumedRecord userId row.id amount))) ∨
        (∃ dup, before.preConsumeRecords requestId = some dup ∧ dup.status ≠ .refunded ∧
          result.preConsumed = dup.preConsumed ∧
          after.subscriptions.find? row.id =
            some (afterReset faults.plans calendar now before.plans row) ∧
          after.preConsumeRecords = before.preConsumeRecords)) := by
  induction candidates generalizing before with
  | nil => simp [consumeCandidates] at called
  | cons candidate rest ih =>
    obtain ⟨⟨sub,middle⟩,reset,continued⟩ := bind_succeeds_iff.mp called
    obtain ⟨subEq,found,others,plansEq,recordsEq⟩ :=
      resetCandidate_effect (stored candidate (by simp)) reset
    have sameId : sub.id = candidate.id := by rw [subEq,afterReset_id]
    simp only [map_cons,nodup_cons] at distinct
    dsimp only at continued
    split_ifs at continued with fits
    · obtain ⟨resultId,fresh | ⟨dup,recorded,notRefunded,amountEq,rfl⟩⟩ :=
        chargeCandidate_cases continued
      · obtain ⟨unrecorded,amountEq,rfl⟩ := fresh
        refine ⟨candidate,?_,resultId.trans sameId,plansEq,fun id different => ?_,.inl
          ⟨recordsEq ▸ unrecorded,amountEq,?_,?_⟩⟩
        · simp [← subEq,fits]
        · refine .inl ?_
          rw [← others id different]
          exact middle.subscriptions.find?_save_of_ne (by simpa [chargedRow,sameId] using different)
        · rw [← subEq,← sameId]
          rw [← sameId] at found
          exact middle.subscriptions.find?_save_self (by simpa [chargedRow] using found)
        · simp [recordsEq,sameId]
      · refine ⟨candidate,?_,resultId.trans sameId,plansEq,fun id different => ?_,.inr
          ⟨dup,recordsEq ▸ recorded,notRefunded,amountEq,?_,recordsEq⟩⟩
        · simp [← subEq,fits]
        · exact .inl (others id different)
        · rw [← subEq,found]
    · have restStored : ∀ row ∈ rest, middle.subscriptions.find? row.id = some row := by
        intro row member
        have different : row.id ≠ candidate.id := fun same =>
          distinct.1 (same ▸ mem_map_of_mem member)
        rw [others row.id different]
        exact stored row (by simp [member])
      obtain ⟨row,firstFit,resultId,plansEq',unchanged,outcome⟩ :=
        ih distinct.2 restStored continued
      rw [plansEq] at firstFit plansEq' unchanged outcome
      rw [recordsEq] at outcome
      refine ⟨row,?_,resultId,plansEq',fun id different => ?_,outcome⟩
      · have noRoom : ¬ Fits amount (afterReset faults.plans calendar now before.plans
            candidate) := subEq ▸ fits
        simpa [noRoom] using firstFit
      · rcases unchanged id different with same | ⟨later,reset⟩
        · by_cases isCandidate : id = candidate.id
          · refine .inr ⟨by simp [isCandidate],?_⟩
            rw [same,isCandidate,found,stored candidate (by simp),subEq]
            rfl
          · exact .inl (same.trans (others id isCandidate))
        · have notCandidate : id ≠ candidate.id := fun same => distinct.1 (same ▸ later)
          refine .inr ⟨by simp [later],?_⟩
          rw [reset,others id notCandidate]

theorem activeSubscriptions_nodup (store : SubscriptionStore) (userId now : Int) :
    ((activeSubscriptions store userId now).map UserSubscription.id).Nodup := by
  have sorted := perm_insertionSort endsNoLater (store.subscriptions.rows.filter fun sub =>
    sub.userId = userId ∧ sub.status = .active ∧ now < sub.endTime)
  refine (sorted.map UserSubscription.id).nodup_iff.mpr ?_
  exact store.subscriptions.keysNodup.sublist (filter_sublist.map _)

theorem mem_activeSubscriptions :
    sub ∈ activeSubscriptions store userId now ↔
      sub ∈ store.subscriptions.rows ∧ sub.userId = userId ∧ sub.status = .active ∧
        now < sub.endTime := by
  simp [activeSubscriptions]

theorem activeSubscriptions_stored (active : sub ∈ activeSubscriptions store userId now) :
    store.subscriptions.find? sub.id = some sub :=
  KeyedTable.find?_of_mem (mem_activeSubscriptions.mp active).1

theorem consumeLocked_eq_ok
    (called : consumeLocked faults calendar now requestId userId amount positive before =
      .ok (result, after)) :
    consumeCandidates faults calendar now requestId userId amount positive
      (activeSubscriptions before userId now) before = .ok (result, after) := by
  unfold consumeLocked at called
  split at called
  · cases called
  · cases called
  · exact called

end

structure ChargesSubscription (reset : UserSubscription → UserSubscription) (requestId : String)
    (userId amount : Int) (before after : SubscriptionStore) (row : UserSubscription) : Prop where
  named : GoStrings.trimSpace requestId ≠ ""
  stored : before.subscriptions.find? row.id = some row
  fits : Fits amount (reset row)
  charged : ∃ positive, after.subscriptions.find? row.id =
    some (chargedRow amount positive (reset row))
  others : ∀ id, id ≠ row.id →
    after.subscriptions.find? id = before.subscriptions.find? id ∨
      after.subscriptions.find? id = (before.subscriptions.find? id).map reset
  plans : after.plans = before.plans
  records : after.preConsumeRecords = Function.update before.preConsumeRecords requestId
    (some (consumedRecord userId row.id amount))

section

/-- `PreConsumeUserSubscription`, whose first read sees the tables as they were earlier. -/
def preConsumeSeen (seen : SubscriptionStore) (faults : PreConsumeFaults) (calendar : Calendar)
    (now : Int) (requestId : String) (userId amount : Int) (store : SubscriptionStore) :
    Except GoError SubscriptionPreConsumeResult × SubscriptionStore :=
  if userId ≤ 0 then (.error (.message "invalid userId"), store)
  else if GoStrings.trimSpace requestId = "" then (.error (.message "requestId is empty"), store)
  else if positive : 0 < amount then
    transaction faults.beginTx faults.commit (fun store => do
      match ← reuseExisting faults requestId seen with
      | some result => .ok (result, store)
      | none =>
        consumeLocked faults calendar now requestId userId amount positive store) store
  else (.error (.message "amount must be > 0"), store)

variable {seen before after : SubscriptionStore} {faults : PreConsumeFaults} {calendar : Calendar}
  {now : Int} {requestId : String} {userId amount : Int} {result : SubscriptionPreConsumeResult}
  {error : GoError}

theorem preConsumeSeen_self :
    preConsumeSeen before faults calendar now requestId userId amount before =
      preConsumeUserSubscription faults calendar now requestId userId amount before := by
  rfl

theorem preConsumeSeen_error
    (called : preConsumeSeen seen faults calendar now requestId userId amount before =
      (.error error, after)) : after = before := by
  unfold preConsumeSeen at called
  split_ifs at called
  · exact (congrArg Prod.snd called).symm
  · exact (congrArg Prod.snd called).symm
  · exact transaction_error_state called
  · exact (congrArg Prod.snd called).symm

/-- A call that succeeds found a record and writes nothing, or found none and took the first
subscription with room. -/
theorem preConsumeSeen_ok
    (called : preConsumeSeen seen faults calendar now requestId userId amount before =
      (.ok result, after)) :
    (seen.preConsumeRecords requestId ≠ none ∧ after = before) ∨
      (seen.preConsumeRecords requestId = none ∧ GoStrings.trimSpace requestId ≠ "" ∧
        ∃ positive : 0 < amount, consumeCandidates faults calendar now requestId userId amount
          positive (activeSubscriptions before userId now) before = .ok (result, after)) := by
  unfold preConsumeSeen at called
  split_ifs at called with noUser noRequest positive
  · simp at called
  · simp at called
  · obtain ⟨-,-,body⟩ := transaction_ok_iff.mp called
    obtain ⟨existing,reused,rest⟩ := bind_succeeds_iff.mp body
    cases recorded : seen.preConsumeRecords requestId with
    | none =>
      have unused : existing = none := by
        unfold reuseExisting at reused
        cases fault : faults.findExisting <;> simp_all
      subst unused
      exact .inr ⟨rfl,noRequest,positive,consumeLocked_eq_ok rest⟩
    | some =>
      refine .inl ⟨by simp,?_⟩
      have used : existing ≠ none := by
        rintro rfl
        unfold reuseExisting at reused
        cases fault : faults.findExisting with
        | some => simp [fault] at reused
        | none =>
          simp only [fault,recorded] at reused
          split at reused
          · cases reused
          · obtain ⟨sub,-,found⟩ := bind_succeeds_iff.mp reused
            cases found
      obtain ⟨found,rfl⟩ := Option.ne_none_iff_exists'.mp used
      simp only [Except.ok.injEq,Prod.mk.injEq] at rest
      exact rest.2.symm
  · simp at called

theorem preConsumeUserSubscription_error_state
    (called : preConsumeUserSubscription faults calendar now requestId userId amount before =
      (.error error, after)) : after = before :=
  preConsumeSeen_error (preConsumeSeen_self.trans called)

theorem preConsumeUserSubscription_charges (fresh : before.preConsumeRecords requestId = none)
    (called : preConsumeUserSubscription faults calendar now requestId userId amount before =
      (.ok result, after)) :
    ∃ row, result.userSubscriptionId = row.id ∧ result.preConsumed = amount ∧
      ChargesSubscription (afterReset faults.plans calendar now before.plans) requestId userId
        amount before after row := by
  rcases preConsumeSeen_ok (preConsumeSeen_self.trans called) with
    ⟨recorded,-⟩ | ⟨-,named,positive,consumed⟩
  · exact absurd fresh recorded
  obtain ⟨row,firstFit,resultId,plansEq,others,outcome⟩ :=
    consumeCandidates_cases (activeSubscriptions_nodup before userId now)
      (fun row active => activeSubscriptions_stored active) consumed
  rcases outcome with ⟨-,amountEq,charged,records⟩ | ⟨dup,recorded,-⟩
  · refine ⟨row,resultId,amountEq,named,?_,?_,⟨positive,charged⟩,?_,plansEq,records⟩
    · exact activeSubscriptions_stored (mem_of_find?_eq_some firstFit)
    · simpa using find?_some firstFit
    · intro id different
      exact (others id different).imp_right And.right
  · rw [fresh] at recorded
    cases recorded

end

end NewApi
