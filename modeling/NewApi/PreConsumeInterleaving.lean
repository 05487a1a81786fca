import NewApi.GuardedRuns
import NewApi.SubscriptionConsumption

/-!
# Concurrent pre-consume calls of one request

A call looks for a record of the request, and then locks the user's subscriptions and consumes.
-/

namespace NewApi

open Transactions GuardedRuns

structure PreConsumeCall where
  faults : PreConsumeFaults
  calendar : Calendar
  now : Int
  amount : Int

inductive CallPhase where
  | idle
  | waiting
  | finished (result : Except GoError SubscriptionPreConsumeResult)

def CallPhase.answeredId : CallPhase → Option Int
  | .finished (.ok result) => some result.userSubscriptionId
  | _ => none

namespace PreConsumeCall

variable (call : PreConsumeCall) (requestId : String) (userId : Int)

def check (store : SubscriptionStore) : CallPhase :=
  if userId ≤ 0 then .finished (.error (.message "invalid userId"))
  else if GoStrings.trimSpace requestId = "" then
    .finished (.error (.message "requestId is empty"))
  else if call.amount ≤ 0 then .finished (.error (.message "amount must be > 0"))
  else
    match call.faults.beginTx, reuseExisting call.faults requestId store with
    | some error, _ => .finished (.error error)
    | none, .error error => .finished (.error error)
    | none, .ok none => .waiting
    | none, .ok (some result) => .finished (attempt call.faults.commit result)

def consume (store : SubscriptionStore) :
    Except GoError SubscriptionPreConsumeResult × SubscriptionStore :=
  if positive : 0 < call.amount then
    transaction none call.faults.commit
      (consumeLocked call.faults call.calendar call.now requestId userId call.amount positive) store
  else (.error (.message "amount must be > 0"), store)

def firstFitting (store : SubscriptionStore) : Option UserSubscription :=
  (activeSubscriptions store userId call.now).find? fun row =>
    Fits call.amount (afterReset call.faults.plans call.calendar call.now store.plans row)

end PreConsumeCall

/-- What the subscriptions of a user gained between two states; a subscription
that lost counts as zero. -/
def usedIncrease (userId : Int) (before after : SubscriptionStore) : Int :=
  (before.subscriptions.rows.map fun row =>
    if row.userId = userId then
      ((after.subscriptions.find? row.id).map fun updated =>
        max 0 (updated.amountUsed - row.amountUsed)).getD 0
    else 0).sum

structure InterleavedCalls where
  store : SubscriptionStore
  phases : Nat → CallPhase
  increase : Int

namespace InterleavedCalls

def start (store : SubscriptionStore) : InterleavedCalls where
  store := store
  phases := fun _ => .idle
  increase := 0

def step (calls : Nat → PreConsumeCall) (requestId : String) (userId : Int)
    (state : InterleavedCalls) (turn : Nat) : InterleavedCalls :=
  match state.phases turn with
  | .idle =>
    { state with
      phases := Function.update state.phases turn
        ((calls turn).check requestId userId state.store) }
  | .waiting =>
    let outcome := (calls turn).consume requestId userId state.store
    { store := outcome.2
      phases := Function.update state.phases turn (.finished outcome.1)
      increase := state.increase + usedIncrease userId state.store outcome.2 }
  | .finished _ => state

def SameAmount (result : SubscriptionPreConsumeResult) (record : SubscriptionPreConsumeRecord) :
    Prop :=
  result.preConsumed = record.preConsumed

def SameAnswer (result : SubscriptionPreConsumeResult) (record : SubscriptionPreConsumeRecord) :
    Prop :=
  result.userSubscriptionId = record.userSubscriptionId ∧ SameAmount result record

/-- The increase is at most the amount of one call, and every call that succeeded
answered in agreement with the record of the request. -/
structure ConsumedOnce (calls : Nat → PreConsumeCall) (requestId : String)
    (Agrees : SubscriptionPreConsumeResult → SubscriptionPreConsumeRecord → Prop)
    (state : InterleavedCalls) : Prop where
  increase : state.increase ≤ 0 ∨
    ∃ winner result, state.phases winner = .finished (.ok result) ∧
      state.increase ≤ (calls winner).amount
  answers : ∀ turn result, state.phases turn = .finished (.ok result) →
    ∃ record, state.store.preConsumeRecords requestId = some record ∧ Agrees result record

/-- A call that comes second and still goes through finds room first in the
subscription that the record names. -/
def FindsRecorded (calls : Nat → PreConsumeCall) (requestId : String) (userId : Int)
    (state : InterleavedCalls) (turn : Nat) : Prop :=
  state.phases turn = .waiting →
  ((calls turn).consume requestId userId state.store).1.isOk →
  ∀ record, state.store.preConsumeRecords requestId = some record →
    ∀ row, (calls turn).firstFitting userId state.store = some row →
      row.id = record.userSubscriptionId

end InterleavedCalls

open PreConsumeCall

section

variable {userId : Int} {before after : SubscriptionStore}

theorem afterReset_used_le (access : PlanAccess) (calendar : Calendar) (now : Int)
    (plans : Int → Option SubscriptionPlan) (sub : UserSubscription) :
    (afterReset access calendar now plans sub).amountUsed ≤ sub.amountUsed := by
  rcases afterReset_cases access calendar now plans sub with same | ⟨plan,-,reset⟩
  · rw [same]
  · have := sub.usedNonneg
    have := maybeReset_fields reset
    omega

theorem resetOnly_used_le {access : PlanAccess} {calendar : Calendar} {now id : Int}
    {candidates : List UserSubscription} {row updated : UserSubscription}
    (reset : ResetOnly (afterReset access calendar now before.plans) candidates before after id)
    (stored : before.subscriptions.find? id = some row)
    (found : after.subscriptions.find? id = some updated) :
    updated.amountUsed ≤ row.amountUsed := by
  rcases reset with same | ⟨-,wasReset⟩
  · rw [same,stored] at found
    cases found
    exact le_rfl
  · rw [wasReset,stored] at found
    cases found
    exact afterReset_used_le access calendar now before.plans row

/-- Only the row with this id gained, and at most `bound`. -/
theorem usedIncrease_le {id bound : Int} {row updated : UserSubscription} (nonneg : 0 ≤ bound)
    (stored : before.subscriptions.find? id = some row)
    (found : after.subscriptions.find? id = some updated)
    (gained : updated.amountUsed ≤ row.amountUsed + bound)
    (others : ∀ other row updated, other ≠ id → before.subscriptions.find? other = some row →
      after.subscriptions.find? other = some updated → updated.amountUsed ≤ row.amountUsed) :
    usedIncrease userId before after ≤ bound := by
  have gain : ∀ row ∈ before.subscriptions.rows, ∀ limit, 0 ≤ limit →
      (∀ updated, after.subscriptions.find? row.id = some updated →
        updated.amountUsed ≤ row.amountUsed + limit) →
      (if row.userId = userId then
        ((after.subscriptions.find? row.id).map fun updated =>
          max 0 (updated.amountUsed - row.amountUsed)).getD 0
      else 0) ≤ limit := by
    intro row _ limit limitNonneg bounded
    split_ifs with isUsers
    · cases found : after.subscriptions.find? row.id with
      | none => simpa using limitNonneg
      | some updated =>
        have := bounded updated found
        simp only [Option.map_some,Option.getD_some]
        omega
    · exact limitNonneg
  refine before.subscriptions.sum_le_of_single id nonneg ?_ ?_
  · intro other member isRow
    refine gain other member bound nonneg fun new newFound => ?_
    obtain rfl : row = other :=
      Option.some.inj (stored.symm.trans (isRow ▸ KeyedTable.find?_of_mem member))
    obtain rfl : updated = new := Option.some.inj (found.symm.trans (isRow ▸ newFound))
    exact gained
  · intro row member different
    refine gain row member 0 le_rfl fun updated found => ?_
    have := others row.id row updated different (KeyedTable.find?_of_mem member) found
    omega

theorem usedIncrease_self (store : SubscriptionStore) : usedIncrease userId store store ≤ 0 := by
  apply le_of_eq
  apply List.sum_eq_zero
  intro gain member
  obtain ⟨row,stored,rfl⟩ := List.mem_map.mp member
  simp [KeyedTable.find?_of_mem stored]

variable {call : PreConsumeCall} {requestId : String}

theorem PreConsumeCall.consume_error_state {error : GoError}
    (called : call.consume requestId userId before = (.error error, after)) : after = before := by
  unfold consume at called
  split_ifs at called
  · exact transaction_error_state called
  · exact (congrArg Prod.snd called).symm

variable {result : SubscriptionPreConsumeResult}

/-- A consumption that succeeds names the first candidate with room. It charged
that one, or met the record of another call and charged nothing. -/
theorem PreConsumeCall.consume_ok
    (called : call.consume requestId userId before = (.ok result, after)) :
    ∃ row, call.firstFitting userId before = some row ∧ result.userSubscriptionId = row.id ∧
      ((before.preConsumeRecords requestId = none ∧ result.preConsumed = call.amount ∧
          usedIncrease userId before after ≤ call.amount ∧
          after.preConsumeRecords requestId = some (consumedRecord userId row.id call.amount)) ∨
        (∃ dup, before.preConsumeRecords requestId = some dup ∧
          result.preConsumed = dup.preConsumed ∧ usedIncrease userId before after ≤ 0 ∧
          after.preConsumeRecords = before.preConsumeRecords)) := by
  unfold consume at called
  split_ifs at called with positive
  · obtain ⟨-,-,body⟩ := transaction_ok_iff.mp called
    obtain ⟨row,firstFit,resultId,-,others,outcome⟩ :=
      consumeCandidates_cases (activeSubscriptions_nodup before userId call.now)
        (fun row active => activeSubscriptions_stored active) (consumeLocked_eq_ok body)
    have rowStored := activeSubscriptions_stored (List.mem_of_find?_eq_some firstFit)
    have resetUsed := afterReset_used_le call.faults.plans call.calendar call.now before.plans row
    refine ⟨row,firstFit,resultId,?_⟩
    have unchanged : ∀ other stored updated, other ≠ row.id →
        before.subscriptions.find? other = some stored →
        after.subscriptions.find? other = some updated →
        updated.amountUsed ≤ stored.amountUsed :=
      fun other stored updated different => resetOnly_used_le (others other different)
    rcases outcome with ⟨fresh,amountEq,charged,records⟩ | ⟨dup,recorded,-,amountEq,kept,records⟩
    · refine .inl ⟨fresh,amountEq,?_,by simp [records]⟩
      exact usedIncrease_le positive.le rowStored charged (by simpa [chargedRow] using resetUsed)
        unchanged
    · refine .inr ⟨dup,recorded,amountEq,?_,records⟩
      exact usedIncrease_le le_rfl rowStored kept (by omega) unchanged
  · simp at called

theorem PreConsumeCall.check_ok {store : SubscriptionStore}
    (checked : call.check requestId userId store = .finished (.ok result)) :
    ∃ record, store.preConsumeRecords requestId = some record ∧
      result.userSubscriptionId = record.userSubscriptionId ∧
      result.preConsumed = record.preConsumed := by
  unfold check at checked
  split_ifs at checked
  · simp at checked
  · simp at checked
  · simp at checked
  · split at checked
    · simp at checked
    · simp at checked
    · simp at checked
    · rename_i answer _ reused
      simp only [CallPhase.finished.injEq,attempt_eq_ok] at checked
      obtain ⟨-,rfl⟩ := checked
      unfold reuseExisting at reused
      split at reused
      · cases reused
      · cases reused
      · rename_i existing _ stored
        split_ifs at reused
        obtain ⟨sub,found,rest⟩ := bind_succeeds_iff.mp reused
        have named := KeyedTable.key_of_find? (firstSubscription_eq_ok.mp found).2
        cases rest
        exact ⟨existing,stored,named,rfl⟩

end

namespace InterleavedCalls

variable {calls : Nat → PreConsumeCall} {requestId : String} {userId : Int}
  {state : InterleavedCalls} {turn : Nat}
  {Agrees : SubscriptionPreConsumeResult → SubscriptionPreConsumeRecord → Prop}

/-- The record is never rewritten, so earlier answers still agree with it, and
only the call that creates it can add to the increase. -/
theorem ConsumedOnce.advance {store : SubscriptionStore} {gain : Int} {phase : CallPhase}
    (once : ConsumedOnce calls requestId Agrees state)
    (unfinished : ∀ result, state.phases turn ≠ .finished result)
    (records : ∀ record, state.store.preConsumeRecords requestId = some record →
      store.preConsumeRecords requestId = some record) (gained : gain ≤ 0 ∨
      (state.store.preConsumeRecords requestId = none ∧ gain ≤ (calls turn).amount ∧
        ∃ result, phase = .finished (.ok result)))
    (answered : ∀ result, phase = .finished (.ok result) →
      ∃ record, store.preConsumeRecords requestId = some record ∧ Agrees result record) :
    ConsumedOnce calls requestId Agrees
      { store := store
        phases := Function.update state.phases turn phase
        increase := state.increase + gain } where
  increase := by
    dsimp only
    rcases gained with noGain | ⟨fresh,gainLe,result,rfl⟩
    · rcases once.increase with zero | ⟨winner,result,finished,bounded⟩
      · exact .inl (by omega)
      · have different : winner ≠ turn := fun same => unfinished _ (same ▸ finished)
        exact .inr ⟨winner,result,by simpa [different] using finished,by omega⟩
    · rcases once.increase with zero | ⟨winner,answer,finished,-⟩
      · exact .inr ⟨turn,result,by simp,by omega⟩
      · obtain ⟨record,recorded,-⟩ := once.answers winner answer finished
        rw [fresh] at recorded
        cases recorded
  answers := by
    intro other result finished
    by_cases same : other = turn
    · subst same
      exact answered result (by simpa using finished)
    · obtain ⟨record,recorded,agrees⟩ :=
        once.answers other result (by simpa [same] using finished)
      exact ⟨record,records record recorded,agrees⟩

theorem consumedOnce_step (accepts : ∀ result record, SameAmount result record →
      (FindsRecorded calls requestId userId state turn →
        result.userSubscriptionId = record.userSubscriptionId) → Agrees result record)
    (once : ConsumedOnce calls requestId Agrees state) :
    ConsumedOnce calls requestId Agrees (step calls requestId userId state turn) := by
  cases phaseEq : state.phases turn with
  | idle =>
    have advanced : ConsumedOnce calls requestId Agrees
        { store := state.store
          phases := Function.update state.phases turn
            ((calls turn).check requestId userId state.store)
          increase := state.increase + 0 } := by
      refine once.advance (by simp [phaseEq]) (fun _ stored => stored) (.inl le_rfl) ?_
      intro result checked
      obtain ⟨record,stored,sameId,sameAmount⟩ := check_ok checked
      exact ⟨record,stored,accepts result record sameAmount fun _ => sameId⟩
    simpa [step,phaseEq] using advanced
  | waiting =>
    rcases called : (calls turn).consume requestId userId state.store with ⟨result,after⟩
    have advanced : ConsumedOnce calls requestId Agrees
        { store := after
          phases := Function.update state.phases turn (.finished result)
          increase := state.increase + usedIncrease userId state.store after } := by
      cases result with
      | error =>
        have unchanged := consume_error_state called
        subst unchanged
        exact once.advance (by simp [phaseEq]) (fun _ stored => stored)
          (.inl (usedIncrease_self state.store)) (by simp)
      | ok result =>
        obtain ⟨row,firstFit,resultId,fresh | duplicate⟩ := consume_ok called
        · obtain ⟨unrecorded,amountEq,gained,recorded⟩ := fresh
          refine once.advance (by simp [phaseEq]) (by simp [unrecorded])
            (.inr ⟨unrecorded,gained,result,rfl⟩) ?_
          rintro answer ⟨⟩
          exact ⟨_,recorded,accepts result _ amountEq fun _ => resultId⟩
        · obtain ⟨dup,stored,amountEq,gained,records⟩ := duplicate
          refine once.advance (by simp [phaseEq]) (by simp [records]) (.inl gained) ?_
          rintro answer ⟨⟩
          refine ⟨dup,by rw [records,stored],accepts result dup amountEq fun finds => ?_⟩
          exact resultId.trans
            (finds phaseEq (by simp [called,Except.toBool]) dup stored row firstFit)
    simpa [step,phaseEq,called] using advanced
  | finished => simpa [step,phaseEq] using once

/-- A second call whose first candidate with room is not the recorded one answers
with the wrong subscription. -/
theorem not_consumedOnce_step (missed : ¬ FindsRecorded calls requestId userId state turn) :
    ¬ ConsumedOnce calls requestId SameAnswer (step calls requestId userId state turn) := by
  unfold FindsRecorded at missed
  push Not at missed
  obtain ⟨phaseEq,succeeded,record,stored,row,firstFit,different⟩ := missed
  rcases called : (calls turn).consume requestId userId state.store with ⟨result,after⟩
  rw [called] at succeeded
  cases result with
  | error => cases succeeded
  | ok result =>
    obtain ⟨answered,answeredFirst,resultId,fresh | duplicate⟩ :=
      consume_ok called
    · rw [fresh.1] at stored
      cases stored
    · obtain ⟨dup,-,-,-,records⟩ := duplicate
      rw [firstFit] at answeredFirst
      cases answeredFirst
      intro once
      obtain ⟨found,foundStored,sameId,-⟩ := once.answers turn result
        (by simp [step,phaseEq,called])
      have sameRecord : found = record := by
        have kept : after.preConsumeRecords requestId = some record := by rw [records,stored]
        simpa [step,phaseEq,called,kept] using foundStored.symm
      exact different (resultId.symm.trans (sameRecord ▸ sameId))

theorem consumedOnce_start (store : SubscriptionStore) :
    ConsumedOnce calls requestId Agrees (start store) :=
  ⟨.inl le_rfl,by simp [start]⟩

end InterleavedCalls

def unusedSubscription (id total : Int) (idPos : 0 < id) : UserSubscription where
  id := id
  userId := 1
  planId := 1
  amountTotal := total
  amountUsed := 0
  startTime := 0
  endTime := 1000
  status := .active
  lastResetTime := 0
  nextResetTime := 0
  upgradeGroup := ""
  prevUserGroup := ""
  downgradeGroup := ""
  allowWalletOverflow := true
  idPos := idPos
  usedNonneg := nothing_used

def twoSubscriptions : SubscriptionStore where
  subscriptions :=
    { rows := [unusedSubscription 1 10 (by decide), unusedSubscription 2 100 (by decide)]
      keysNodup := by decide }
  plans := fun _ => some
    { id := 1
      title := "basic"
      durationUnit := .month
      durationValue := 1
      customSeconds := 0
      allowWalletOverflow := none
      maxPurchasePerUser := 0
      upgradeGroup := ""
      downgradeGroup := ""
      totalAmount := 100
      quotaResetPeriod := "never"
      quotaResetCustomSeconds := 0 }
  preConsumeRecords := fun _ => none

def faultlessCall : PreConsumeCall where
  faults :=
    { beginTx := none
      findExisting := none
      existingSubscription := none
      lockSubscriptions := none
      plans := { cached := fun _ => none, query := fun _ => none }
      saveReset := fun _ => none
      createRecord := fun _ => none
      duplicateKey := .message "UNIQUE constraint failed"
      findDuplicate := fun _ => none
      saveSubscription := fun _ => none
      commit := none }
  calendar := { nextMidnight := id, nextMonday := id, nextMonth := id, addDate := fun _ _ => id }
  now := 100
  amount := 10

end NewApi
