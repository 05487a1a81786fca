import NewApi.BillingStore

/-!
# The ledger behind the billing store

Each writer of the store reports an error, or takes one amount from one account.
-/

namespace NewApi

@[ext]
structure Ledger where
  wallet : Int → Int
  tokenRemain : Int → Int
  tokenUsed : Int → Int
  subscriptions : SubscriptionStore

namespace Ledger

def takeWallet (ledger : Ledger) (id amount : Int) : Ledger :=
  { ledger with wallet := Function.update ledger.wallet id (ledger.wallet id - amount) }

def takeToken (ledger : Ledger) (id amount : Int) : Ledger :=
  { ledger with
    tokenRemain := Function.update ledger.tokenRemain id (ledger.tokenRemain id - amount)
    tokenUsed := Function.update ledger.tokenUsed id (ledger.tokenUsed id + amount) }

variable (ledger : Ledger)

include ledger

variable (id second : Int)

@[simp]
theorem takeWallet_zero : ledger.takeWallet id 0 = ledger := by
  simp [takeWallet]

@[simp]
theorem takeToken_zero : ledger.takeToken id 0 = ledger := by
  simp [takeToken]

@[simp]
theorem takeToken_takeToken (first : Int) :
    (ledger.takeToken id first).takeToken id second = ledger.takeToken id (first + second) := by
  simp [takeToken,Int.sub_sub,Int.add_assoc]

variable (amount : Int)

@[simp]
theorem takeWallet_wallet_self :
    (ledger.takeWallet id amount).wallet id = ledger.wallet id - amount := by
  simp [takeWallet]

@[simp]
theorem takeToken_wallet :
    (ledger.takeToken id amount).wallet = ledger.wallet := rfl

@[simp]
theorem takeWallet_subscriptions :
    (ledger.takeWallet id amount).subscriptions = ledger.subscriptions := rfl

@[simp]
theorem takeToken_subscriptions :
    (ledger.takeToken id amount).subscriptions = ledger.subscriptions := rfl

end Ledger

namespace BillingStore

def ledger (store : BillingStore) : Ledger where
  wallet id := (store.users id).getD 0 + store.queuedUserQuota id
  tokenRemain id := ((store.tokens id).map TokenQuota.remainQuota).getD 0 + store.queuedTokenQuota id
  tokenUsed id := ((store.tokens id).map TokenQuota.usedQuota).getD 0 - store.queuedTokenQuota id
  subscriptions := store.subscriptions

def SameRows (before after : BillingStore) : Prop :=
  (∀ id, (after.users id).isSome = (before.users id).isSome) ∧
    ∀ id, (after.tokens id).isSome = (before.tokens id).isSome

variable (store : BillingStore) (id delta : Int)

theorem SameRows.refl : SameRows store store :=
  ⟨fun _ => rfl,fun _ => rfl⟩

theorem SameRows.trans {first second third : BillingStore} (left : SameRows first second)
    (right : SameRows second third) : SameRows first third :=
  ⟨fun id => (right.1 id).trans (left.1 id),fun id => (right.2 id).trans (left.2 id)⟩

theorem queueUserQuota_ledger :
    (store.queueUserQuota id delta).ledger = store.ledger.takeWallet id (-delta) := by
  refine Ledger.ext (funext fun other => ?_) rfl rfl rfl
  by_cases same : other = id
  · subst same
    simp [ledger,queueUserQuota]
    omega
  · simp [ledger,queueUserQuota,Ledger.takeWallet,same]

theorem queueTokenQuota_ledger :
    (store.queueTokenQuota id delta).ledger = store.ledger.takeToken id (-delta) := by
  refine Ledger.ext rfl (funext fun other => ?_) (funext fun other => ?_) rfl
  all_goals
    by_cases same : other = id
    · subst same
      simp [ledger,queueTokenQuota,Ledger.takeToken]
      omega
    · simp [ledger,queueTokenQuota,Ledger.takeToken,same]

theorem addUserQuota_ledger (rowExists : (store.users id).isSome) :
    (store.addUserQuota id delta).ledger = store.ledger.takeWallet id (-delta) := by
  obtain ⟨stored,found⟩ := Option.isSome_iff_exists.mp rowExists
  refine Ledger.ext (funext fun other => ?_) rfl rfl rfl
  by_cases same : other = id
  · subst same
    simp [ledger,addUserQuota,found]
    omega
  · simp [ledger,addUserQuota,Ledger.takeWallet,same]

theorem addTokenQuota_ledger (rowExists : (store.tokens id).isSome) :
    (store.addTokenQuota id delta).ledger = store.ledger.takeToken id (-delta) := by
  obtain ⟨stored,found⟩ := Option.isSome_iff_exists.mp rowExists
  refine Ledger.ext rfl (funext fun other => ?_) (funext fun other => ?_) rfl
  all_goals
    by_cases same : other = id
    · subst same
      simp [ledger,addTokenQuota,Ledger.takeToken,found]
      omega
    · simp [ledger,addTokenQuota,Ledger.takeToken,same]

theorem addUserQuota_sameRows :
    SameRows store (store.addUserQuota id delta) := by
  refine ⟨fun other => ?_,fun _ => rfl⟩
  by_cases same : other = id
  · subst same
    simp [addUserQuota]
  · simp [addUserQuota,same]

theorem addTokenQuota_sameRows :
    SameRows store (store.addTokenQuota id delta) := by
  refine ⟨fun _ => rfl,fun other => ?_⟩
  by_cases same : other = id
  · subst same
    simp [addTokenQuota]
  · simp [addTokenQuota,same]

end BillingStore

open BillingStore

/-- A store operation that fails leaves the ledger alone; one that succeeds
establishes the postcondition. -/
def AllOrNothing {ε α : Type} (before : BillingStore) (post : α → Ledger → Prop) :
    Except ε α × BillingStore → Prop
  | (.error _, after) => after.ledger = before.ledger ∧ SameRows before after
  | (.ok value, after) => post value after.ledger ∧ SameRows before after

theorem AllOrNothing.mono {ε α : Type} {before : BillingStore} {post weaker : α → Ledger → Prop}
    {outcome : Except ε α × BillingStore} (holds : AllOrNothing before post outcome)
    (weakens : ∀ value after, post value after → weaker value after) :
    AllOrNothing before weaker outcome := by
  obtain ⟨result,after⟩ := outcome
  cases result with
  | error => exact holds
  | ok value => exact ⟨weakens value after.ledger holds.1,holds.2⟩

def Refines {ε α : Type} (effect : α → Ledger → Ledger) (before : BillingStore)
    (outcome : Except ε α × BillingStore) : Prop :=
  AllOrNothing before (fun value after => after = effect value before.ledger) outcome

theorem refines_error {ε α : Type} {effect : α → Ledger → Ledger} {before : BillingStore}
    {error : ε} : Refines effect before (.error error, before) :=
  ⟨rfl,SameRows.refl before⟩

section

variable {config : BillingConfig} {before after : BillingStore} {id quota : Int}

theorem refines_of_written {ε α : Type} {effect : α → Ledger → Ledger} {value : α}
    (written : after.ledger = effect value before.ledger) (rows : SameRows before after) :
    Refines effect before ((.ok value : Except ε α), after) :=
  ⟨written,rows⟩

variable {queues : Bool} {fault : Option GoError}

theorem changeQuota_cases {motive : Except GoError Unit × BillingStore → Prop}
    {queue update : BillingStore → BillingStore} (failed : ∀ error, motive (.error error, before))
    (queued : motive (.ok (), queue before)) (updated : motive (.ok (), update before)) :
    motive (changeQuota queues fault quota queue update before) := by
  unfold changeQuota
  split_ifs
  · exact failed _
  · exact queued
  · cases fault with
    | some error => exact failed error
    | none => exact updated

theorem changeQuota_succeeds {queue update : BillingStore → BillingStore} (nonneg : 0 ≤ quota)
    : (changeQuota queues none quota queue update before).1 = .ok () := by
  have notNegative : ¬ quota < 0 := by omega
  unfold changeQuota
  split_ifs <;> rfl

theorem changeUserQuota_refines (rowExists : (before.users id).isSome) (delta : Int) :
    Refines (fun _ ledger => ledger.takeWallet id (-delta)) before
      (changeQuota queues fault quota (·.queueUserQuota id delta) (·.addUserQuota id delta)
        before) :=
  changeQuota_cases (fun _ => refines_error)
    (refines_of_written (queueUserQuota_ledger before id delta) (SameRows.refl before))
    (refines_of_written (addUserQuota_ledger before id delta rowExists)
      (addUserQuota_sameRows before id delta))

theorem changeTokenQuota_refines (rowExists : (before.tokens id).isSome) (delta : Int) :
    Refines (fun _ ledger => ledger.takeToken id (-delta)) before
      (changeQuota queues fault quota (·.queueTokenQuota id delta) (·.addTokenQuota id delta)
        before) :=
  changeQuota_cases (fun _ => refines_error)
    (refines_of_written (queueTokenQuota_ledger before id delta) (SameRows.refl before))
    (refines_of_written (addTokenQuota_ledger before id delta rowExists)
      (addTokenQuota_sameRows before id delta))

theorem increaseUserQuota_refines (fault : Option GoError) (db : Bool)
    (rowExists : (before.users id).isSome) :
    Refines (fun _ ledger => ledger.takeWallet id (-quota)) before
      (increaseUserQuota config fault id quota db before) :=
  changeUserQuota_refines rowExists quota

theorem decreaseUserQuota_refines (fault : Option GoError) (db : Bool)
    (rowExists : (before.users id).isSome) :
    Refines (fun _ ledger => ledger.takeWallet id quota) before
      (decreaseUserQuota config fault id quota db before) := by
  unfold decreaseUserQuota
  simpa using changeUserQuota_refines rowExists (-quota)

theorem increaseTokenQuota_refines (fault : Option GoError)
    (rowExists : (before.tokens id).isSome) :
    Refines (fun _ ledger => ledger.takeToken id (-quota)) before
      (increaseTokenQuota config fault id quota before) :=
  changeTokenQuota_refines rowExists quota

variable {answers : ReserveAnswers}

def reserving (take : Ledger → Ledger) (reserved : Bool) (ledger : Ledger) : Ledger :=
  if reserved then take ledger else ledger

theorem refines_refused (take : Ledger → Ledger) :
    Refines (reserving take) before ((.ok false : Except GoError Bool), before) :=
  refines_of_written rfl (SameRows.refl before)

theorem refines_reserved {take : Ledger → Ledger}
    (written : after.ledger = take before.ledger) (rows : SameRows before after) :
    Refines (reserving take) before ((.ok true : Except GoError Bool), after) :=
  refines_of_written written rows

section

variable {motive : Except GoError Bool × BillingStore → Prop}
  (failed : ∀ error, motive (.error error, before)) (refused : motive (.ok false, before))
  {rowExists : Bool}

include failed

theorem persistDelta_cases
    {queue update : BillingStore → BillingStore} (queued : motive (.ok true, queue before))
    (updated : rowExists = true → motive (.ok true, update before)) :
    motive (persistDelta config fault rowExists queue update before) := by
  unfold persistDelta
  cases config.batchUpdateEnabled with
  | true => exact queued
  | false =>
    cases fault with
    | some error => exact failed error
    | none =>
      cases rowExists with
      | false => exact failed _
      | true => exact updated rfl

include refused

theorem reserveThroughCache_cases {queue update : BillingStore → BillingStore}
    {reserveDB : BillingStore → Except GoError Bool × BillingStore}
    (database : motive (reserveDB before)) (queued : motive (.ok true, queue before))
    (updated : rowExists = true → motive (.ok true, update before)) :
    motive (reserveThroughCache config answers reserveDB
      (persistDelta config answers.database rowExists queue update) before) := by
  unfold reserveThroughCache
  split_ifs
  · exact database
  all_goals
    dsimp only
    split
    · exact database
    · exact database
    · exact refused
    · exact persistDelta_cases failed queued updated

theorem tryReserveUserQuota_cases (nothing : quota = 0 → motive (.ok true, before))
    (queued : motive (.ok true, before.queueUserQuota id (-quota)))
    (updated : (before.users id).isSome → motive (.ok true, before.addUserQuota id (-quota))) :
    motive (tryReserveUserQuota config answers id quota before) := by
  unfold tryReserveUserQuota
  split_ifs with negative zero
  · exact failed _
  · exact nothing zero
  · refine reserveThroughCache_cases failed refused ?_ queued updated
    unfold reserveUserQuotaDB
    split
    · exact failed _
    · exact refused
    · next stored found =>
      split_ifs
      · exact updated (by simp [found])
      · exact refused

theorem tryReserveTokenQuota_cases {unlimited : Bool}
    (nothing : quota = 0 → motive (.ok true, before))
    (queued : motive (.ok true, before.queueTokenQuota id (-quota)))
    (updated : motive (.ok true, before.addTokenQuota id (-quota))) :
    motive (tryReserveTokenQuota config answers id quota unlimited before) := by
  unfold tryReserveTokenQuota
  split_ifs with negative zero
  · exact failed _
  · exact nothing zero
  · unfold decreaseTokenQuota changeQuota
    split_ifs
    · exact queued
    · cases answers.database with
      | some error => exact failed error
      | none => exact updated
  · refine reserveThroughCache_cases failed refused ?_ queued fun _ => updated
    unfold reserveTokenQuotaDB
    split
    · exact failed _
    · exact refused
    · split_ifs
      · exact updated
      · exact refused

end

variable (config answers before id quota)

theorem tryReserveUserQuota_refines :
    Refines (reserving (·.takeWallet id quota)) before
      (tryReserveUserQuota config answers id quota before) := by
  refine tryReserveUserQuota_cases (fun _ => refines_error) (refines_refused _) (fun zero => ?_)
    (refines_reserved ?_ (SameRows.refl before)) fun rowExists =>
      refines_reserved ?_ (addUserQuota_sameRows before id (-quota))
  · exact refines_reserved (by simp [zero]) (SameRows.refl before)
  · simpa using queueUserQuota_ledger before id (-quota)
  · simpa using addUserQuota_ledger before id (-quota) rowExists

theorem tryReserveTokenQuota_refines (unlimited : Bool) (rowExists : (before.tokens id).isSome) :
    Refines (reserving (·.takeToken id quota)) before
      (tryReserveTokenQuota config answers id quota unlimited before) := by
  refine tryReserveTokenQuota_cases (fun _ => refines_error) (refines_refused _) (fun zero => ?_)
    (refines_reserved ?_ (SameRows.refl before))
    (refines_reserved ?_ (addTokenQuota_sameRows before id (-quota)))
  · exact refines_reserved (by simp [zero]) (SameRows.refl before)
  · simpa using queueTokenQuota_ledger before id (-quota)
  · simpa using addTokenQuota_ledger before id (-quota) rowExists

end

end NewApi
