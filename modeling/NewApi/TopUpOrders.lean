import NewApi.Errors
import NewApi.KeyedTable
import NewApi.QuotaMath
import NewApi.Transactions

/-! # Completing top-up orders -/

namespace NewApi

open Transactions

inductive TopUpStatus where
  | pending
  | success
  | failed
  | expired
deriving DecidableEq, Repr

/-- The `PaymentProvider` constants and the column default. -/
inductive PaymentProvider where
  | unset
  | epay
  | stripe
  | creem
  | waffo
  | waffoPancake
  | balance
deriving DecidableEq, Repr

/-- `TopUp`. `money` is the decimal that the stored float prints as. -/
structure TopUp where
  userId : Int
  amount : Int
  money : Rat
  tradeNo : String
  paymentMethod : String
  paymentProvider : PaymentProvider
  completeTime : Int
  status : TopUpStatus
deriving DecidableEq

/-- The columns of a user that a completed order may change. -/
structure UserAccount where
  quota : Int
  email : String
  stripeCustomer : String
deriving DecidableEq

structure TopUpStore where
  orders : KeyedTable TopUp.tradeNo
  users : Int → Option UserAccount

/-- Errors of the statements of one transaction. -/
structure TopUpFaults where
  beginTx : Option GoError
  lock : Option GoError
  save : Option GoError
  findUser : Option GoError
  updateUser : Option GoError
  commit : Option GoError

namespace TopUpFaults

def succeeds : TopUpFaults where
  beginTx := none
  lock := none
  save := none
  findUser := none
  updateUser := none
  commit := none

end TopUpFaults

def errPaymentMethodMismatch : GoError := .message "payment method mismatch"
def errTopUpNotFound : GoError := .message "topup not found"
def errTopUpStatusInvalid : GoError := .message "topup status invalid"

def lockTopUp (fault : Option GoError) (notFound : GoError) (tradeNo : String)
    (store : TopUpStore) : Except GoError TopUp :=
  match fault, store.orders.find? tradeNo with
  | none, some topUp => .ok topUp
  | _, _ => .error notFound

def saveTopUp (fault : Option GoError) (topUp : TopUp) (store : TopUpStore) :
    Except GoError TopUpStore :=
  attempt fault { store with orders := store.orders.save topUp }

def updateUser (fault : Option GoError) (userId : Int) (change : UserAccount → UserAccount)
    (store : TopUpStore) : Except GoError (Nat × TopUpStore) :=
  attempt fault
    (match store.users userId with
    | none => (0, store)
    | some user =>
      (1, { store with users := Function.update store.users userId (some (change user)) }))

def UserAccount.credited (quota : Int) (user : UserAccount) : UserAccount :=
  { user with quota := user.quota + quota }

def TopUp.completed (topUp : TopUp) (now : Int) : TopUp :=
  { topUp with completeTime := now, status := .success }

def TopUp.paidBy (topUp : TopUp) (actualPaymentMethod : String) : TopUp :=
  if actualPaymentMethod ≠ "" ∧ topUp.paymentMethod ≠ actualPaymentMethod then
    { topUp with paymentMethod := actualPaymentMethod }
  else topUp

/-- What a manual completion takes as the number of units: the money of a Stripe
order, the amount of every other one. -/
def TopUp.manualUnits (topUp : TopUp) : Rat :=
  if topUp.paymentProvider = .stripe then topUp.money else topUp.amount

/-- A strict conversion whose result has to be positive. -/
def creditQuota (value : Rat) : Except GoError Int :=
  match quotaFromDecimalStrict value with
  | .error _ => .error (.message "无效的充值额度")
  | .ok quota => if quota ≤ 0 then .error (.message "无效的充值额度") else .ok quota

def hideError {α : Type} (outcome : Except GoError α × TopUpStore) :
    Except GoError α × TopUpStore :=
  match outcome with
  | (.error _, store) => (.error (.message "充值失败，请稍后重试"), store)
  | (.ok value, store) => (.ok value, store)

section

variable (quotaPerUnit : Rat) (faults : TopUpFaults) (now : Int) (tradeNo : String)

def updatePendingTopUpStatus (expectedPaymentProvider : Option PaymentProvider)
    (targetStatus : TopUpStatus) (store : TopUpStore) : Except GoError Unit × TopUpStore :=
  if tradeNo = "" then (.error (.message "未提供支付单号"), store)
  else
    transaction faults.beginTx faults.commit (fun store => do
      let topUp ← lockTopUp faults.lock errTopUpNotFound tradeNo store
      if expectedPaymentProvider ≠ none ∧ some topUp.paymentProvider ≠ expectedPaymentProvider then
        .error errPaymentMethodMismatch
      else if topUp.status ≠ .pending then .error errTopUpStatusInvalid
      else do
        let store ← saveTopUp faults.save { topUp with status := targetStatus } store
        .ok ((), store)) store

/-- `RechargeEpay`; the answer says whether the order was already done. -/
def rechargeEpay (actualPaymentMethod : String) (store : TopUpStore) :
    Except GoError Bool × TopUpStore :=
  if tradeNo = "" then (.error (.message "未提供支付单号"), store)
  else
    transaction faults.beginTx faults.commit (fun store => do
      let topUp ← lockTopUp faults.lock errTopUpNotFound tradeNo store
      if topUp.paymentProvider ≠ .epay then .error errPaymentMethodMismatch
      else if topUp.status = .success then .ok (true, store)
      else if topUp.status ≠ .pending then .error errTopUpStatusInvalid
      else do
        let topUp := topUp.paidBy actualPaymentMethod
        let quotaToAdd ← creditQuota (topUp.amount * quotaPerUnit)
        let store ← saveTopUp faults.save (topUp.completed now) store
        let (rowsAffected, store) ←
          updateUser faults.updateUser topUp.userId (·.credited quotaToAdd) store
        if rowsAffected ≠ 1 then .error .recordNotFound else .ok (false, store)) store

/-- `Recharge`, the callback of Stripe. The order is saved before its quota is
computed; a quota that is refused rolls the order back. -/
def recharge (customerId : String) (store : TopUpStore) : Except GoError Unit × TopUpStore :=
  if tradeNo = "" then (.error (.message "未提供支付单号"), store)
  else
    hideError (transaction faults.beginTx faults.commit (fun store => do
      let topUp ← lockTopUp faults.lock (.message "充值订单不存在") tradeNo store
      if topUp.paymentProvider ≠ .stripe then .error errPaymentMethodMismatch
      else if topUp.status ≠ .pending then .error (.message "充值订单状态错误")
      else do
        let store ← saveTopUp faults.save (topUp.completed now) store
        let quota ← creditQuota (topUp.money * quotaPerUnit)
        let (_, store) ← updateUser faults.updateUser topUp.userId
          (fun user => { user.credited quota with stripeCustomer := customerId }) store
        .ok ((), store)) store)

/-- The email that `RechargeCreem` stores: the customer's, where the user has
none. Looking the user up may fail. -/
def creemEmail (customerEmail : String) (userId : Int) (store : TopUpStore) :
    Except GoError (UserAccount → String) :=
  if customerEmail = "" then .ok UserAccount.email
  else
    match faults.findUser, store.users userId with
    | some error, _ => .error error
    | none, none => .error .recordNotFound
    | none, some user =>
      .ok fun stored => if user.email = "" then customerEmail else stored.email

/-- `RechargeCreem`: the amount of the order is the quota itself. -/
def rechargeCreem (customerEmail : String) (store : TopUpStore) :
    Except GoError Unit × TopUpStore :=
  if tradeNo = "" then (.error (.message "未提供支付单号"), store)
  else
    hideError (transaction faults.beginTx faults.commit (fun store => do
      let topUp ← lockTopUp faults.lock (.message "充值订单不存在") tradeNo store
      if topUp.paymentProvider ≠ .creem then .error errPaymentMethodMismatch
      else if topUp.status ≠ .pending then .error (.message "充值订单状态错误")
      else do
        let store ← saveTopUp faults.save (topUp.completed now) store
        let quota ← creditQuota topUp.amount
        let email ← creemEmail faults customerEmail topUp.userId store
        let (_, store) ← updateUser faults.updateUser topUp.userId
          (fun user => { user.credited quota with email := email user }) store
        .ok ((), store)) store)

/-- The two Waffo callbacks differ in their provider only. -/
def rechargeByAmount (provider : PaymentProvider) (store : TopUpStore) :
    Except GoError Unit × TopUpStore :=
  if tradeNo = "" then (.error (.message "未提供支付单号"), store)
  else
    hideError (transaction faults.beginTx faults.commit (fun store => do
      let topUp ← lockTopUp faults.lock (.message "充值订单不存在") tradeNo store
      if topUp.paymentProvider ≠ provider then .error errPaymentMethodMismatch
      else if topUp.status = .success then .ok ((), store)
      else if topUp.status ≠ .pending then .error (.message "充值订单状态错误")
      else do
        let quotaToAdd ← creditQuota (topUp.amount * quotaPerUnit)
        let store ← saveTopUp faults.save (topUp.completed now) store
        let (_, store) ← updateUser faults.updateUser topUp.userId (·.credited quotaToAdd) store
        .ok ((), store)) store)

def rechargeWaffo (store : TopUpStore) : Except GoError Unit × TopUpStore :=
  rechargeByAmount quotaPerUnit faults now tradeNo .waffo store

def rechargeWaffoPancake (store : TopUpStore) : Except GoError Unit × TopUpStore :=
  rechargeByAmount quotaPerUnit faults now tradeNo .waffoPancake store

def manualCompleteTopUp (store : TopUpStore) : Except GoError Unit × TopUpStore :=
  if tradeNo = "" then (.error (.message "未提供订单号"), store)
  else
    transaction faults.beginTx faults.commit (fun store => do
      let topUp ← lockTopUp faults.lock (.message "充值订单不存在") tradeNo store
      if topUp.status = .success then .ok ((), store)
      else if topUp.status ≠ .pending then .error (.message "订单状态不是待支付，无法补单")
      else do
        let quotaToAdd ← creditQuota (topUp.manualUnits * quotaPerUnit)
        let store ← saveTopUp faults.save (topUp.completed now) store
        let (_, store) ← updateUser faults.updateUser topUp.userId (·.credited quotaToAdd) store
        .ok ((), store)) store

end

end NewApi
