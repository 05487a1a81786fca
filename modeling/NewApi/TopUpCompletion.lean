import NewApi.GuardedRuns
import NewApi.TopUpOrders

/-! # Every order is credited once -/

namespace NewApi

open Transactions GuardedRuns

/-- The ways to change an order. -/
inductive TopUpEntry where
  | rechargeEpay (actualPaymentMethod : String)
  | recharge (customerId : String)
  | rechargeCreem (customerEmail : String)
  | rechargeWaffo
  | rechargeWaffoPancake
  | manualCompleteTopUp
  | updatePendingTopUpStatus (expectedPaymentProvider : Option PaymentProvider)
      (targetStatus : TopUpStatus)
deriving DecidableEq

structure TopUpCall where
  entry : TopUpEntry
  faults : TopUpFaults
  now : Int

def TopUpCall.apply (quotaPerUnit : Rat) (tradeNo : String) (call : TopUpCall)
    (store : TopUpStore) : Except GoError Unit × TopUpStore :=
  match call.entry with
  | .rechargeEpay method =>
    let (result, after) := NewApi.rechargeEpay quotaPerUnit call.faults call.now tradeNo method store
    (result.map fun _ => (), after)
  | .recharge customerId =>
    NewApi.recharge quotaPerUnit call.faults call.now tradeNo customerId store
  | .rechargeCreem email => NewApi.rechargeCreem call.faults call.now tradeNo email store
  | .rechargeWaffo => NewApi.rechargeWaffo quotaPerUnit call.faults call.now tradeNo store
  | .rechargeWaffoPancake =>
    NewApi.rechargeWaffoPancake quotaPerUnit call.faults call.now tradeNo store
  | .manualCompleteTopUp =>
    NewApi.manualCompleteTopUp quotaPerUnit call.faults call.now tradeNo store
  | .updatePendingTopUpStatus provider status =>
    NewApi.updatePendingTopUpStatus call.faults tradeNo provider status store

namespace TopUpEntry

def provider : TopUpEntry → Option PaymentProvider
  | rechargeEpay _ => some .epay
  | recharge _ => some .stripe
  | rechargeCreem _ => some .creem
  | rechargeWaffo => some .waffo
  | rechargeWaffoPancake => some .waffoPancake
  | manualCompleteTopUp => none
  | updatePendingTopUpStatus _ _ => none

/-- The provider's own callback, or the administrator. -/
def MayComplete (entry : TopUpEntry) (order : TopUp) : Prop :=
  entry = manualCompleteTopUp ∨ entry.provider = some order.paymentProvider

/-- What the entry point converts into the quota to add. -/
def creditValue (quotaPerUnit : Rat) (order : TopUp) : TopUpEntry → Rat
  | recharge _ => order.money * quotaPerUnit
  | rechargeCreem _ => order.amount
  | manualCompleteTopUp => order.manualUnits * quotaPerUnit
  | _ => order.amount * quotaPerUnit

end TopUpEntry

/-- The terms of an order, which no call changes. -/
structure SameTerms (order row : TopUp) : Prop where
  userId : row.userId = order.userId
  amount : row.amount = order.amount
  money : row.money = order.money
  tradeNo : row.tradeNo = order.tradeNo
  paymentProvider : row.paymentProvider = order.paymentProvider

def userQuota (store : TopUpStore) (userId : Int) : Option Int :=
  (store.users userId).map UserAccount.quota

structure Completes (quotaPerUnit : Rat) (entry : TopUpEntry) (before after : TopUpStore)
    (row : TopUp) (amount : Int) : Prop where
  allowed : entry.MayComplete row
  converted : creditQuota (entry.creditValue quotaPerUnit row) = .ok amount
  saved : ∃ done, SameTerms row done ∧ done.status = .success ∧
    after.orders = before.orders.save done
  credited : userQuota after row.userId = (userQuota before row.userId).map (· + amount)

inductive CallEffect (quotaPerUnit : Rat) (entry : TopUpEntry) (before after : TopUpStore)
    (row : TopUp) : Prop where
  | unchanged (same : after = before)
  | moved (pending : row.status = .pending) (status : TopUpStatus)
      (saved : after = { before with orders := before.orders.save { row with status := status } })
  | completed (pending : row.status = .pending) (amount : Int)
      (completes : Completes quotaPerUnit entry before after row amount)

section

variable {quotaPerUnit : Rat} {faults : TopUpFaults} {now : Int} {tradeNo : String}
  {before after : TopUpStore} {row : TopUp}

theorem lockTopUp_eq_ok {fault : Option GoError} {notFound : GoError} {found : TopUp}
    (stored : before.orders.find? tradeNo = some row)
    (locked : lockTopUp fault notFound tradeNo before = .ok found) : found = row := by
  unfold lockTopUp at locked
  rw [stored] at locked
  cases fault with
  | none => exact (Except.ok.inj locked).symm
  | some => cases locked

section

variable {α : Type} {value : α} {error missing notFound : GoError}
  {rest : TopUp → TopUpStore → Except GoError (α × TopUpStore)}

theorem body_of_ok (stored : before.orders.find? tradeNo = some row)
    (called : (if tradeNo = "" then (.error missing, before)
      else transaction faults.beginTx faults.commit (fun store => do
        let topUp ← lockTopUp faults.lock notFound tradeNo store
        rest topUp store) before) = (.ok value, after)) : rest row before = .ok (value, after) := by
  split_ifs at called
  · cases called
  obtain ⟨-,-,body⟩ := transaction_ok_iff.mp called
  obtain ⟨found,locked,body⟩ := bind_succeeds_iff.mp body
  obtain rfl := lockTopUp_eq_ok stored locked
  exact body

theorem unhidden_of_ok {outcome : Except GoError α × TopUpStore}
    (called : (if tradeNo = "" then (.error missing, before) else hideError outcome) =
      (.ok value, after)) :
    (if tradeNo = "" then (.error missing, before) else outcome) = (.ok value, after) := by
  obtain ⟨result,store⟩ := outcome
  split_ifs at called ⊢
  · cases called
  · cases result with
    | error => cases called
    | ok => exact called

variable {body : TopUpStore → Except GoError (α × TopUpStore)}

theorem state_of_error
    (failed : (if tradeNo = "" then (.error missing, before) else transaction faults.beginTx
      faults.commit body before) = (.error error, after)) : after = before := by
  split_ifs at failed
  · exact (congrArg Prod.snd failed).symm
  · exact transaction_error_state failed

theorem hidden_state_of_error
    (failed : (if tradeNo = "" then (.error missing, before) else hideError (transaction
      faults.beginTx faults.commit body before)) = (.error error, after)) : after = before := by
  split_ifs at failed
  · exact (congrArg Prod.snd failed).symm
  rcases inner : transaction faults.beginTx faults.commit body before with ⟨result,written⟩
  rw [inner] at failed
  cases result with
  | ok => cases failed
  | error =>
    obtain rfl := transaction_error_state inner
    exact (congrArg Prod.snd failed).symm

end

variable {entry : TopUpEntry}

theorem completes_of_writes {done : TopUp} {saved : TopUpStore}
    {saveFault updateFault : Option GoError} {change : UserAccount → UserAccount} {amount : Int}
    {rowsAffected : Nat} (notPending : ¬ row.status ≠ .pending) (allowed : entry.MayComplete row)
    (converted : creditQuota (entry.creditValue quotaPerUnit row) = .ok amount)
    (terms : SameTerms row done) (success : done.status = .success)
    (credits : ∀ user, (change user).quota = user.quota + amount)
    (saves : saveTopUp saveFault done before = .ok saved)
    (updates : updateUser updateFault row.userId change saved = .ok (rowsAffected, after)) :
    CallEffect quotaPerUnit entry before after row := by
  obtain ⟨-,rfl⟩ := attempt_eq_ok.mp saves
  obtain ⟨-,updated⟩ := attempt_eq_ok.mp updates
  refine .completed (not_not.mp notPending) amount ⟨allowed,converted,⟨done,terms,success,?_⟩,?_⟩
  · split at updated <;> cases updated <;> rfl
  · unfold userQuota
    cases user : before.users row.userId with
    | none =>
      simp only [user,Prod.mk.injEq] at updated
      simp [← updated.2,user]
    | some =>
      simp only [user,Prod.mk.injEq] at updated
      simp [← updated.2,credits]

theorem sameTerms_completed (order : TopUp) (now : Int) : SameTerms order (order.completed now) :=
  ⟨rfl,rfl,rfl,rfl,rfl⟩

theorem sameTerms_paidBy (order : TopUp) (method : String) :
    SameTerms order (order.paidBy method) := by
  unfold TopUp.paidBy
  split_ifs <;> exact ⟨rfl,rfl,rfl,rfl,rfl⟩

section

variable (stored : before.orders.find? tradeNo = some row)

include stored

theorem updatePending_effect {provider : Option PaymentProvider} {status : TopUpStatus}
    (called : updatePendingTopUpStatus faults tradeNo provider status before = (.ok (), after)) :
    CallEffect quotaPerUnit entry before after row := by
  have body := body_of_ok stored called
  split_ifs at body with mismatch notPending
  obtain ⟨saved,saves,done⟩ := bind_succeeds_iff.mp body
  cases done
  obtain ⟨-,rfl⟩ := attempt_eq_ok.mp saves
  exact .moved (not_not.mp notPending) status rfl

theorem rechargeEpay_effect {method : String} {alreadyDone : Bool}
    (called : rechargeEpay quotaPerUnit faults now tradeNo method before =
      (.ok alreadyDone, after)) :
    CallEffect quotaPerUnit (.rechargeEpay method) before after row := by
  have body := body_of_ok stored called
  split_ifs at body with mismatch success notPending
  · cases body
    exact .unchanged rfl
  · simp only [bind_succeeds_iff] at body
    obtain ⟨amount,converted,saved,saves,⟨rowsAffected,credited⟩,updates,done⟩ := body
    split_ifs at done
    cases done
    have paid := sameTerms_paidBy row method
    rw [paid.userId] at updates
    rw [paid.amount] at converted
    refine completes_of_writes notPending ?_ converted ?_ rfl (fun _ => rfl) saves updates
    · exact .inr (congrArg some (not_not.mp mismatch).symm)
    · exact { paid with }

theorem recharge_effect {customerId : String}
    (called : recharge quotaPerUnit faults now tradeNo customerId before = (.ok (), after)) :
    CallEffect quotaPerUnit (.recharge customerId) before after row := by
  have body := body_of_ok stored (unhidden_of_ok called)
  split_ifs at body with mismatch notPending
  simp only [bind_succeeds_iff] at body
  obtain ⟨saved,saves,amount,converted,⟨rowsAffected,credited⟩,updates,done⟩ := body
  cases done
  refine completes_of_writes notPending ?_ converted (sameTerms_completed row now) rfl
    (fun _ => rfl) saves updates
  exact .inr (congrArg some (not_not.mp mismatch).symm)

theorem rechargeCreem_effect {email : String}
    (called : rechargeCreem faults now tradeNo email before = (.ok (), after)) :
    CallEffect quotaPerUnit (.rechargeCreem email) before after row := by
  have body := body_of_ok stored (unhidden_of_ok called)
  split_ifs at body with mismatch notPending
  simp only [bind_succeeds_iff] at body
  obtain ⟨saved,saves,amount,converted,newEmail,-,⟨rowsAffected,credited⟩,updates,done⟩ := body
  cases done
  refine completes_of_writes notPending ?_ converted (sameTerms_completed row now) rfl
    (fun _ => rfl) saves updates
  exact .inr (congrArg some (not_not.mp mismatch).symm)

end

theorem rechargeByAmount_effect {provider : PaymentProvider} (own : entry.provider = some provider)
    (value : ∀ order, entry.creditValue quotaPerUnit order = order.amount * quotaPerUnit)
    (stored : before.orders.find? tradeNo = some row)
    (called : rechargeByAmount quotaPerUnit faults now tradeNo provider before = (.ok (), after)) :
    CallEffect quotaPerUnit entry before after row := by
  have body := body_of_ok stored (unhidden_of_ok called)
  split_ifs at body with mismatch success notPending
  · cases body
    exact .unchanged rfl
  · simp only [bind_succeeds_iff] at body
    obtain ⟨amount,converted,saved,saves,⟨rowsAffected,credited⟩,updates,done⟩ := body
    cases done
    refine completes_of_writes notPending ?_ ?_ (sameTerms_completed row now) rfl
      (fun _ => rfl) saves updates
    · exact .inr (own.trans (congrArg some (not_not.mp mismatch).symm))
    · rw [value,converted]

theorem manualCompleteTopUp_effect (stored : before.orders.find? tradeNo = some row)
    (called : manualCompleteTopUp quotaPerUnit faults now tradeNo before = (.ok (), after)) :
    CallEffect quotaPerUnit .manualCompleteTopUp before after row := by
  have body := body_of_ok stored called
  split_ifs at body with success notPending
  · cases body
    exact .unchanged rfl
  · simp only [bind_succeeds_iff] at body
    obtain ⟨amount,converted,saved,saves,⟨rowsAffected,credited⟩,updates,done⟩ := body
    cases done
    exact completes_of_writes notPending (.inl rfl) converted (sameTerms_completed row now) rfl
      (fun _ => rfl) saves updates

end

open TopUpCall

section

variable {quotaPerUnit : Rat} {tradeNo : String} {before after : TopUpStore} {call : TopUpCall}

theorem TopUpCall.apply_effect {row : TopUp} (stored : before.orders.find? tradeNo = some row)
    (called : call.apply quotaPerUnit tradeNo before = (.ok (), after)) :
    CallEffect quotaPerUnit call.entry before after row := by
  obtain ⟨entry,faults,now⟩ := call
  cases entry with
  | rechargeEpay method =>
    rcases inner : NewApi.rechargeEpay quotaPerUnit faults now tradeNo method before with
      ⟨result,written⟩
    simp only [apply,inner,Prod.mk.injEq] at called
    obtain ⟨succeeded,rfl⟩ := called
    cases result with
    | error => cases succeeded
    | ok => exact rechargeEpay_effect stored inner
  | recharge => exact recharge_effect stored called
  | rechargeCreem => exact rechargeCreem_effect stored called
  | rechargeWaffo | rechargeWaffoPancake =>
    exact rechargeByAmount_effect rfl (fun _ => rfl) stored called
  | manualCompleteTopUp => exact manualCompleteTopUp_effect stored called
  | updatePendingTopUpStatus => exact updatePending_effect stored called

theorem TopUpCall.apply_named (called : call.apply quotaPerUnit tradeNo before = (.ok (), after)) :
    tradeNo ≠ "" := by
  rintro rfl
  obtain ⟨entry,faults,now⟩ := call
  cases entry <;>
    simp [apply,NewApi.rechargeEpay,NewApi.recharge,NewApi.rechargeCreem,
      NewApi.rechargeWaffo,NewApi.rechargeWaffoPancake,rechargeByAmount,
      NewApi.manualCompleteTopUp,NewApi.updatePendingTopUpStatus,Except.map] at called

theorem TopUpCall.apply_error_state {error : GoError}
    (called : call.apply quotaPerUnit tradeNo before = (.error error, after)) :
    after = before := by
  obtain ⟨entry,faults,now⟩ := call
  cases entry with
  | rechargeEpay method =>
    rcases inner : NewApi.rechargeEpay quotaPerUnit faults now tradeNo method before with
      ⟨result,written⟩
    simp only [apply,inner,Prod.mk.injEq] at called
    obtain ⟨failed,rfl⟩ := called
    cases result with
    | ok => cases failed
    | error => exact state_of_error inner
  | recharge customerId | rechargeCreem email | rechargeWaffo | rechargeWaffoPancake =>
    exact hidden_state_of_error called
  | manualCompleteTopUp | updatePendingTopUpStatus provider status => exact state_of_error called

end

/-- The store, and the credits that the user of the order has seen so far, each
with the entry point it came from. -/
structure TopUpRun where
  store : TopUpStore
  credits : List (TopUpEntry × Int)

def quotaChange (before after : TopUpStore) (userId : Int) : Option Int :=
  match userQuota before userId, userQuota after userId with
  | some old, some new => if new = old then none else some (new - old)
  | _, _ => none

namespace TopUpRun

def start (store : TopUpStore) : TopUpRun where
  store := store
  credits := []

def step (quotaPerUnit : Rat) (order : TopUp) (state : TopUpRun) (call : TopUpCall) : TopUpRun :=
  let after := (call.apply quotaPerUnit order.tradeNo state.store).2
  { store := after
    credits := state.credits ++
      ((quotaChange state.store after order.userId).map fun change =>
        (call.entry, change)).toList }

structure CreditedOnce (quotaPerUnit : Rat) (order : TopUp) (initially : TopUpStore)
    (state : TopUpRun) : Prop where
  atMostOnce : state.credits.length ≤ 1
  ownEntry : ∀ credit ∈ state.credits, credit.1.MayComplete order ∧
    creditQuota (credit.1.creditValue quotaPerUnit order) = .ok credit.2
  onlySuccess : ∃ row, state.store.orders.find? order.tradeNo = some row ∧
    SameTerms order row ∧ (state.credits ≠ [] → row.status = .success)
  sameUser : (userQuota state.store order.userId).isSome =
    (userQuota initially order.userId).isSome
  creditable : state.credits ≠ [] →
    order.tradeNo ≠ "" ∧ (userQuota initially order.userId).isSome

end TopUpRun

section

open TopUpRun

variable {quotaPerUnit : Rat} {order : TopUp} {initially : TopUpStore} {state : TopUpRun}

theorem SameTerms.trans {first second third : TopUp} (left : SameTerms first second)
    (right : SameTerms second third) : SameTerms first third :=
  ⟨right.userId.trans left.userId,right.amount.trans left.amount,right.money.trans left.money,
    right.tradeNo.trans left.tradeNo,right.paymentProvider.trans left.paymentProvider⟩

theorem creditValue_congr {row : TopUp} (terms : SameTerms order row) (entry : TopUpEntry) :
    entry.creditValue quotaPerUnit row = entry.creditValue quotaPerUnit order := by
  cases entry <;>
    simp [TopUpEntry.creditValue,TopUp.manualUnits,terms.amount,terms.money,
      terms.paymentProvider]

variable {amount : Int} {store : TopUpStore} {entry : TopUpEntry}

theorem creditQuota_eq_ok {value : Rat} :
    creditQuota value = .ok amount ↔
      roundHalfAway value = amount ∧ 0 < amount ∧ amount < maxQuota := by
  unfold creditQuota
  cases converted : quotaFromDecimalStrict value with
  | error =>
    simp only [reduceCtorEq,false_iff]
    rintro ⟨rounded,positive,below⟩
    have above : minQuota < amount := by unfold minQuota; omega
    rw [quotaFromDecimalStrict_eq_ok.mpr ⟨rounded,above,below⟩] at converted
    cases converted
  | ok =>
    obtain ⟨rounded,above,below⟩ := quotaFromDecimalStrict_eq_ok.mp converted
    dsimp only
    split_ifs with notPositive
    · simp only [false_iff]
      omega
    · simp only [Except.ok.injEq]
      constructor
      · rintro rfl
        exact ⟨rounded,by omega,below⟩
      · omega

theorem quotaChange_self (store : TopUpStore) (userId : Int) :
    quotaChange store store userId = none := by
  unfold quotaChange
  cases userQuota store userId <;> simp

theorem quotaChange_credited {before after : TopUpStore} {userId : Int} (positive : 0 < amount)
    (credited : userQuota after userId = (userQuota before userId).map (· + amount)) :
    quotaChange before after userId = (userQuota before userId).map fun _ => amount := by
  unfold quotaChange
  rw [credited]
  cases userQuota before userId with
  | none => rfl
  | some quota =>
    have changed : ¬ quota + amount = quota := by omega
    simp [changed]

theorem creditedOnce_step (once : CreditedOnce quotaPerUnit order initially state)
    (call : TopUpCall) :
    CreditedOnce quotaPerUnit order initially (step quotaPerUnit order state call) := by
  obtain ⟨row,stored,terms,success⟩ := once.onlySuccess
  have rowTrade : row.tradeNo = order.tradeNo := terms.tradeNo
  rcases called : call.apply quotaPerUnit order.tradeNo state.store with ⟨result,after⟩
  have unchanged : after = state.store →
      CreditedOnce quotaPerUnit order initially (step quotaPerUnit order state call) := by
    rintro rfl
    have same : step quotaPerUnit order state call = state := by
      simp [step,called,quotaChange_self]
    rwa [same]
  have uncredited : row.status = .pending → state.credits = [] := by
    intro pending
    by_contra credited
    rw [success credited] at pending
    cases pending
  cases result with
  | error => exact unchanged (apply_error_state called)
  | ok =>
    cases apply_effect stored called with
    | unchanged same => exact unchanged same
    | moved pending status saved =>
      have found : after.orders.find? order.tradeNo = some { row with status := status } := by
        subst saved
        rw [← rowTrade] at stored ⊢
        exact state.store.orders.find?_save_self stored
      have noChange : quotaChange state.store after order.userId = none := by
        subst saved
        exact quotaChange_self state.store order.userId
      have noCredit : (step quotaPerUnit order state call).credits = [] := by
        simp [step,called,noChange,uncredited pending]
      have sameUsers : after.users = state.store.users := by rw [saved]
      refine ⟨by simp [noCredit],by simp [noCredit],⟨{ row with status := status },?_,?_,
        by simp [noCredit]⟩,?_,by simp [noCredit]⟩
      · simpa [step,called] using found
      · exact { terms with }
      · simpa [step,called,userQuota,sameUsers] using once.sameUser
    | completed pending amount completes =>
      obtain ⟨done,doneTerms,doneSuccess,saved⟩ := completes.saved
      have found : after.orders.find? order.tradeNo = some done := by
        rw [saved,← rowTrade,← doneTerms.tradeNo]
        rw [← rowTrade,← doneTerms.tradeNo] at stored
        exact state.store.orders.find?_save_self stored
      have change := quotaChange_credited (creditQuota_eq_ok.mp completes.converted).2.1
        completes.credited
      rw [terms.userId] at change
      have credits : (step quotaPerUnit order state call).credits =
          ((userQuota state.store order.userId).map fun _ => (call.entry, amount)).toList := by
        simp [step,called,change,uncredited pending,Function.comp_def]
      refine ⟨?_,?_,⟨done,?_,terms.trans doneTerms,fun _ => doneSuccess⟩,?_,?_⟩
      · rw [credits]
        cases userQuota state.store order.userId <;> simp
      · intro credit member
        rw [credits] at member
        obtain ⟨quota,-,rfl⟩ := Option.map_eq_some_iff.mp (Option.mem_toList.mp member)
        refine ⟨?_,by rw [← creditValue_congr terms,completes.converted]⟩
        unfold TopUpEntry.MayComplete
        rw [← terms.paymentProvider]
        exact completes.allowed
      · simpa [step,called] using found
      · rw [← once.sameUser]
        have credited := completes.credited
        rw [terms.userId] at credited
        simp [step,called,credited]
      · intro someCredit
        refine ⟨apply_named called,?_⟩
        rw [← once.sameUser]
        by_contra missing
        rw [Bool.not_eq_true,Option.isSome_eq_false_iff,Option.isNone_iff_eq_none] at missing
        exact someCredit (by simp [credits,missing])

theorem creditedOnce_run (stored : store.orders.find? order.tradeNo = some order)
    (calls : List TopUpCall) :
    CreditedOnce quotaPerUnit order store (run (step quotaPerUnit order) (start store) calls) := by
  refine run_invariant (CreditedOnce quotaPerUnit order store)
    (fun _ call once _ => creditedOnce_step once call) ?_ (guarded_true _ calls)
  exact ⟨by simp [start],by simp [start],
    ⟨order,stored,⟨rfl,rfl,rfl,rfl,rfl⟩,by simp [start]⟩,rfl,by simp [start]⟩

theorem creditValue_own (allowed : entry.MayComplete order)
    (notCreem : order.paymentProvider ≠ .creem) :
    entry.creditValue quotaPerUnit order = order.manualUnits * quotaPerUnit := by
  rcases allowed with rfl | own
  · rfl
  · cases entry with
    | rechargeCreem => exact absurd (Option.some.inj own).symm notCreem
    | manualCompleteTopUp => rfl
    | updatePendingTopUpStatus => cases own
    | _ => simp [TopUpEntry.creditValue,TopUp.manualUnits,← Option.some.inj own]

/-- A Creem order that its callback and a manual completion would both accept is
worth the same to both. -/
def CreemUnitsAgree (quotaPerUnit : Rat) (order : TopUp) (store : TopUpStore) : Prop :=
  order.paymentProvider = .creem → order.tradeNo ≠ "" → (store.users order.userId).isSome →
    0 < order.amount → order.amount < maxQuota →
    0 < roundHalfAway (order.amount * quotaPerUnit) →
    roundHalfAway (order.amount * quotaPerUnit) < maxQuota →
    roundHalfAway (order.amount * quotaPerUnit) = order.amount

theorem creditValue_creem (allowed : entry.MayComplete order)
    (creem : order.paymentProvider = .creem) :
    entry.creditValue quotaPerUnit order = order.amount ∨
      entry.creditValue quotaPerUnit order = order.amount * quotaPerUnit := by
  rcases allowed with rfl | own
  · exact .inr (by simp [TopUpEntry.creditValue,TopUp.manualUnits,creem])
  · rw [creem] at own
    cases entry with
    | rechargeCreem => exact .inl rfl
    | _ => simp [TopUpEntry.provider] at own

theorem credits_agree (agree : CreemUnitsAgree quotaPerUnit order store) {first second : TopUpRun}
    (firstOnce : CreditedOnce quotaPerUnit order store first)
    (secondOnce : CreditedOnce quotaPerUnit order store second) {a b : TopUpEntry × Int}
    (inFirst : a ∈ first.credits) (inSecond : b ∈ second.credits) : a.2 = b.2 := by
  obtain ⟨allowedA,convertedA⟩ := firstOnce.ownEntry a inFirst
  obtain ⟨allowedB,convertedB⟩ := secondOnce.ownEntry b inSecond
  obtain ⟨named,user⟩ := firstOnce.creditable (List.ne_nil_of_mem inFirst)
  rw [creditQuota_eq_ok] at convertedA convertedB
  by_cases creem : order.paymentProvider = .creem
  · have units := agree creem named (by simpa [userQuota] using user)
    have plain := roundHalfAway_intCast order.amount
    rcases creditValue_creem allowedA creem with valueA | valueA <;>
      rcases creditValue_creem allowedB creem with valueB | valueB <;>
      rw [valueA] at convertedA <;> rw [valueB] at convertedB <;> omega
  · rw [creditValue_own allowedA creem] at convertedA
    rw [creditValue_own allowedB creem] at convertedB
    exact convertedA.1.symm.trans convertedB.1

section

variable {store : TopUpStore} {user : UserAccount}
  (stored : store.orders.find? order.tradeNo = some order) (pending : order.status = .pending)
  (creem : order.paymentProvider = .creem) (named : order.tradeNo ≠ "")
  (known : store.users order.userId = some user)

include stored pending creem named known

theorem creem_credits (positive : 0 < order.amount) (below : order.amount < maxQuota) :
    (step quotaPerUnit order (start store) ⟨.rechargeCreem "", .succeeds, 0⟩).credits =
      [(.rechargeCreem "", order.amount)] := by
  have converted : creditQuota order.amount = .ok order.amount :=
    creditQuota_eq_ok.mpr ⟨roundHalfAway_intCast _,positive,below⟩
  have nonzero : order.amount ≠ 0 := by omega
  simp [step,start,apply,NewApi.rechargeCreem,named,hideError,transaction,
    TopUpFaults.succeeds,lockTopUp,stored,bind,Except.bind,creem,pending,saveTopUp,
    converted,creemEmail,updateUser,known,quotaChange,userQuota,UserAccount.credited,nonzero]

theorem manual_credits (positive : 0 < roundHalfAway (order.amount * quotaPerUnit))
    (below : roundHalfAway (order.amount * quotaPerUnit) < maxQuota) :
    (step quotaPerUnit order (start store) ⟨.manualCompleteTopUp, .succeeds, 0⟩).credits =
      [(.manualCompleteTopUp, roundHalfAway (order.amount * quotaPerUnit))] := by
  have converted : creditQuota (order.manualUnits * quotaPerUnit) =
      .ok (roundHalfAway (order.amount * quotaPerUnit)) := by
    simpa [TopUp.manualUnits,creem] using creditQuota_eq_ok.mpr ⟨rfl,positive,below⟩
  have nonzero : roundHalfAway (order.amount * quotaPerUnit) ≠ 0 := by omega
  simp [step,start,apply,NewApi.manualCompleteTopUp,named,transaction,
    TopUpFaults.succeeds,lockTopUp,stored,bind,Except.bind,pending,saveTopUp,
    converted,updateUser,known,quotaChange,userQuota,UserAccount.credited,nonzero]

end

end

open TopUpRun in
/-- In every sequence of calls on a pending order its user is credited at most
once, only with the order in status success, and only by the provider's own
callback or an administrator; a call that fails changes nothing. All completions
credit the same amount exactly when the two readings of a Creem amount agree. -/
theorem topUp_credited_once_iff (quotaPerUnit : Rat) (order : TopUp) (store : TopUpStore)
    (stored : store.orders.find? order.tradeNo = some order) (pending : order.status = .pending) :
    (∀ calls, CreditedOnce quotaPerUnit order store
      (run (step quotaPerUnit order) (start store) calls)) ∧
    (∀ calls call error after,
      TopUpCall.apply quotaPerUnit order.tradeNo call
          (run (step quotaPerUnit order) (start store) calls).store = (.error error, after) →
        after = (run (step quotaPerUnit order) (start store) calls).store) ∧
    ((∀ first second,
      ∀ a ∈ (run (step quotaPerUnit order) (start store) first).credits,
        ∀ b ∈ (run (step quotaPerUnit order) (start store) second).credits, a.2 = b.2) ↔
      CreemUnitsAgree quotaPerUnit order store) := by
  refine ⟨creditedOnce_run stored,fun _ _ _ _ => TopUpCall.apply_error_state,?_,?_⟩
  · intro agree creem named known positive below unitsPositive unitsBelow
    obtain ⟨user,known⟩ := Option.isSome_iff_exists.mp known
    refine (agree [⟨.rechargeCreem "",.succeeds,0⟩] [⟨.manualCompleteTopUp,.succeeds,0⟩]
      (.rechargeCreem "", order.amount) ?_
      (.manualCompleteTopUp, roundHalfAway (order.amount * quotaPerUnit)) ?_).symm
    · rw [run_cons,run_nil,creem_credits stored pending creem named known positive below]
      exact List.mem_singleton_self _
    · rw [run_cons,run_nil,manual_credits stored pending creem named known unitsPositive unitsBelow]
      exact List.mem_singleton_self _
  · intro agree first second a inFirst b inSecond
    exact credits_agree agree (creditedOnce_run stored first) (creditedOnce_run stored second)
      inFirst inSecond

def creemOrder : TopUp where
  userId := 1
  amount := 1000
  money := 10
  tradeNo := "ref_1"
  paymentMethod := "creem"
  paymentProvider := .creem
  completeTime := 0
  status := .pending

def creemStore : TopUpStore where
  orders := { rows := [creemOrder], keysNodup := by decide }
  users := fun id =>
    if id = 1 then some { quota := 0, email := "", stripeCustomer := "" } else none

/-- The callback credits 1000, an administrator 500 000 times as much. -/
theorem creem_manual_credits_units :
    (run (TopUpRun.step 500000 creemOrder) (.start creemStore)
        [⟨.rechargeCreem "", .succeeds, 0⟩]).credits = [(.rechargeCreem "", 1000)] ∧
      (run (TopUpRun.step 500000 creemOrder) (.start creemStore)
        [⟨.manualCompleteTopUp, .succeeds, 0⟩]).credits =
          [(.manualCompleteTopUp, 500000000)] := by
  decide +kernel

/-- With one unit of quota a unit both credit 1000, and twice is once. -/
theorem topUp_credited_once_iff_creemOrder :
    TopUpRun.CreditedOnce 1 creemOrder creemStore
      (run (TopUpRun.step 1 creemOrder) (.start creemStore)
        [⟨.rechargeCreem "", .succeeds, 0⟩, ⟨.manualCompleteTopUp, .succeeds, 0⟩]) :=
  (topUp_credited_once_iff 1 creemOrder creemStore rfl rfl).1 _

/-- A call for any order. -/
def topUpStep (quotaPerUnit : Rat) (store : TopUpStore) (call : String × TopUpCall) : TopUpStore :=
  (call.2.apply quotaPerUnit call.1 store).2

section

variable {quotaPerUnit : Rat} {store : TopUpStore}

theorem topUpStep_missing {tradeNo : String} (missing : store.orders.find? tradeNo = none)
    (call : TopUpCall) : topUpStep quotaPerUnit store (tradeNo, call) = store := by
  obtain ⟨entry,faults,now⟩ := call
  have fails : ∀ fault notFound, lockTopUp fault notFound tradeNo store = .error notFound := by
    intro fault notFound
    cases fault <;> simp [lockTopUp,missing]
  cases entry <;>
    simp only [topUpStep,TopUpCall.apply,rechargeEpay,recharge,rechargeCreem,rechargeWaffo,
      rechargeWaffoPancake,rechargeByAmount,manualCompleteTopUp,updatePendingTopUpStatus,
      transaction,fails,bind,Except.bind] <;>
    cases faults.beginTx <;> split_ifs <;> rfl

variable {order : TopUp} (stored : store.orders.find? order.tradeNo = some order)
  (ended : order.status ≠ .pending)
include stored ended

theorem topUpStep_ended (tradeNo : String) (call : TopUpCall) :
    (topUpStep quotaPerUnit store (tradeNo, call)).orders.find? order.tradeNo = some order := by
  cases found : store.orders.find? tradeNo with
  | none => rwa [topUpStep_missing found]
  | some row =>
    have kept : ∀ done : TopUp, row.status = .pending → done.tradeNo = row.tradeNo →
        (store.orders.save done).find? order.tradeNo = some order := by
      intro done pending sameNo
      rw [KeyedTable.find?_save_of_ne,stored]
      rintro same
      rw [same,sameNo,store.orders.key_of_find? found,found] at stored
      cases stored
      exact ended pending
    rcases called : call.apply quotaPerUnit tradeNo store with ⟨_ | _,after⟩
    · rwa [topUpStep,called,TopUpCall.apply_error_state called]
    · rw [topUpStep,called]
      rcases TopUpCall.apply_effect found called with rfl | ⟨pending,status,rfl⟩ |
        ⟨pending,amount,-,-,⟨done,terms,-,saved⟩,-⟩
      · exact stored
      · exact kept _ pending rfl
      · rw [saved]
        exact kept done pending terms.tradeNo

/-- Once an order is not pending any more, no sequence of calls for any orders changes it. -/
theorem ended_order_final (calls : List (String × TopUpCall)) :
    (run (topUpStep quotaPerUnit) store calls).orders.find? order.tradeNo = some order :=
  run_invariant (fun store : TopUpStore => store.orders.find? order.tradeNo = some order)
    (fun _ call stored _ => topUpStep_ended stored ended call.1 call.2) stored
    (guarded_true _ calls)

end

theorem ended_order_final_creemOrder :
    let order := creemOrder.completed 5
    let store := { creemStore with orders := creemStore.orders.save order }
    (run (topUpStep 1) store [(order.tradeNo, ⟨.manualCompleteTopUp, .succeeds, 6⟩)]).orders.find?
      order.tradeNo = some order :=
  ended_order_final rfl (by decide) _

end NewApi
