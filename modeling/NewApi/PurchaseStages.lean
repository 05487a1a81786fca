import NewApi.Interleaving
import NewApi.SubscriptionGroups
import NewApi.TopUpOrders

/-!
# Three ways to a subscription, statement by statement

A locking read sees what is committed. The other reads of a transaction see the snapshot that the
first of them took. The writes of a transaction appear with its commit.
-/

namespace NewApi

open Transactions GoStrings

structure OfferedPlan where
  plan : SubscriptionPlan
  enabled : Bool
  priceAmount : Rat
  allowBalancePay : Option Bool

/-- A row of `subscription_orders`, stored under its unique `trade_no`. -/
structure SubscriptionOrder where
  userId : Int
  planId : Int
  money : Rat
  paymentMethod : String
  paymentProvider : PaymentProvider
  status : TopUpStatus
  createTime : Int
  completeTime : Int
  providerPayload : String

/-- The tables, and the row locks with the number of the process that holds them. -/
structure PurchaseStore where
  groups : GroupStore
  plans : KeyedTable fun offer : OfferedPlan => offer.plan.id
  quotas : Int → Option Int
  orders : String → Option SubscriptionOrder
  userLock : Int → Option Nat
  orderLock : String → Option Nat
  /-- How many subscriptions the completions of an order have made so far; no code reads it. -/
  produced : String → Nat

def PurchaseStore.release (store : PurchaseStore) (process : Nat) : PurchaseStore :=
  { store with
    userLock := fun userId =>
      if store.userLock userId = some process then none else store.userLock userId
    orderLock := fun tradeNo =>
      if store.orderLock tradeNo = some process then none else store.orderLock tradeNo }

inductive PurchaseCall where
  | completeOrder (tradeNo providerPayload : String)
      (expectedPaymentProvider : Option PaymentProvider) (actualPaymentMethod : String)
  | adminBind (userId planId : Int)
  | withBalance (userId planId : Int)

def PurchaseCall.providerPayload : PurchaseCall → String
  | completeOrder _ providerPayload _ _ => providerPayload
  | _ => ""

def PurchaseCall.actualPaymentMethod : PurchaseCall → String
  | completeOrder _ _ _ actualPaymentMethod => actualPaymentMethod
  | _ => ""

/-- What a transaction knows once it has read the plan. -/
structure Purchase where
  userId : Int
  offer : OfferedPlan
  order : Option (String × SubscriptionOrder)
  requiredQuota : Int
  snapshot : Option GroupStore

inductive PurchaseStage where
  | begun
  | orderLocked (tradeNo : String) (order : SubscriptionOrder)
  | planRead (purchase : Purchase)
  | userLocked (purchase : Purchase)
  | counted (purchase : Purchase)
  | finished (result : Except GoError Unit)

structure PurchaseProcess where
  call : PurchaseCall
  stage : PurchaseStage

/-- What the next step of a call meets: the error of its statement, if any, the plan cache, the
clock, and the numbers that the database and the generator hand out. -/
structure PurchaseAnswers where
  fault : Option GoError
  planCached : Bool
  quotaPerUnit : Rat
  groupFaults : GroupTxFaults
  calendar : Calendar
  now : Int
  id : Int
  tradeNo : String

inductive PurchaseChoice where
  | call (call : PurchaseCall)
  | advance (answers : PurchaseAnswers)

/-- The user is raised as in `raiseUserGroup`, but the group is read from a snapshot. -/
def raiseUserGroupSeen (faults : GroupTxFaults) (userId : Int) (upgradeGroup : String)
    (seen store : GroupStore) : Except GoError (String × GroupStore) :=
  if upgradeGroup = "" then .ok ("", store)
  else do
    let currentGroup ← getUserGroupById faults.readGroup userId seen
    if currentGroup = upgradeGroup then .ok ("", store)
    else do
      let store ← updateUserGroup faults.updateGroup userId upgradeGroup store
      .ok (currentGroup, store)

def createCounted (faults : GroupTxFaults) (calendar : Calendar) (now id userId : Int)
    (plan : SubscriptionPlan) (seen store : GroupStore) : Except GoError GroupStore := do
  let endUnix ← calcPlanEndTime calendar now plan
  let (prevGroup, store) ←
    raiseUserGroupSeen faults userId (trimSpace plan.upgradeGroup) seen store
  createSubscription faults.write id
    (fun idPos => newSubscription calendar now endUnix id userId idPos plan prevGroup)
    (newSubscription_id calendar now endUnix id userId plan prevGroup) store

theorem createUserSubscriptionFromPlan_eq (faults : GroupTxFaults) (calendar : Calendar)
    (now id userId : Int) (plan : SubscriptionPlan) (store : GroupStore) :
    createUserSubscriptionFromPlan faults calendar now id userId plan store =
      if plan.id = 0 then .error (.message "invalid plan")
      else if userId ≤ 0 then .error (.message "invalid user id")
      else
        checkPurchaseLimit faults.count userId plan store >>= fun _ =>
          createCounted faults calendar now id userId plan store store :=
  rfl

section

variable (process : Nat) (answers : PurchaseAnswers) (store : PurchaseStore)

def endWith (result : Except GoError Unit) : PurchaseStore × PurchaseStage :=
  (store.release process, .finished result)

def errSubscriptionOrderNotFound : GoError := .message "subscription order not found"
def errSubscriptionOrderStatusInvalid : GoError := .message "subscription order status invalid"

/-- The first statement of `CompleteSubscriptionOrder`; it waits for the lock. -/
def lockOrder (tradeNo : String) (expectedPaymentProvider : Option PaymentProvider) :
    PurchaseStore × PurchaseStage :=
  if tradeNo = "" then endWith process store (.error (.message "tradeNo is empty"))
  else if store.orderLock tradeNo ≠ none then (store, .begun)
  else
    match answers.fault, store.orders tradeNo with
    | none, some order =>
      if expectedPaymentProvider ≠ none ∧ some order.paymentProvider ≠ expectedPaymentProvider then
        endWith process store (.error errPaymentMethodMismatch)
      else if order.status = .success then endWith process store (.ok ())
      else if order.status ≠ .pending then
        endWith process store (.error errSubscriptionOrderStatusInvalid)
      else
        ({ store with orderLock := Function.update store.orderLock tradeNo (some process) },
          .orderLocked tradeNo order)
    | _, _ => endWith process store (.error errSubscriptionOrderNotFound)

def readOffer (planId : Int) : Except GoError OfferedPlan :=
  if planId ≤ 0 then .error (.message "invalid plan id")
  else
    match answers.planCached, answers.fault, store.plans.find? planId with
    | true, _, some offer => .ok offer
    | _, some error, _ => .error error
    | _, none, none => .error .recordNotFound
    | _, none, some offer => .ok offer

def calcSubscriptionBalanceQuota (quotaPerUnit priceAmount : Rat) : Except GoError Int :=
  if priceAmount ≤ 0 then .ok 0
  else if quotaPerUnit ≤ 0 then .error (.message "额度单位配置错误")
  else
    match quotaFromDecimalStrict (priceAmount * quotaPerUnit).ceil with
    | .error _ => .error (.message "quota out of range")
    | .ok quota => .ok quota

def checkOffer (offer : OfferedPlan) : Except GoError Int :=
  if !offer.enabled then .error (.message "套餐未启用")
  else if offer.priceAmount < 0 then .error (.message "套餐价格不能为负数")
  else if offer.allowBalancePay = some false then .error (.message "该套餐不允许使用余额兑换")
  else calcSubscriptionBalanceQuota answers.quotaPerUnit offer.priceAmount

/-- The plan that `AdminBindSubscription` reads before its transaction begins. -/
def prepareBind (userId planId : Int) : PurchaseStore × PurchaseStage :=
  if userId ≤ 0 ∨ planId ≤ 0 then
    endWith process store (.error (.message "invalid userId or planId"))
  else
    match readOffer answers store planId with
    | .error error => endWith process store (.error error)
    | .ok offer =>
      (store, .planRead
        { userId := userId, offer := offer, order := none, requiredQuota := 0, snapshot := none })

/-- The plan that `PurchaseSubscriptionWithBalance` reads inside its transaction: unless the cache
has it, that read takes the snapshot. -/
def prepareBalance (userId planId : Int) : PurchaseStore × PurchaseStage :=
  if userId ≤ 0 ∨ planId ≤ 0 then
    endWith process store (.error (.message "invalid userId or planId"))
  else
    match (do
      let offer ← readOffer answers store planId
      let requiredQuota ← checkOffer answers offer
      .ok (offer, requiredQuota) : Except GoError (OfferedPlan × Int)) with
    | .error error => endWith process store (.error error)
    | .ok (offer, requiredQuota) =>
      (store, .planRead
        { userId := userId
          offer := offer
          order := none
          requiredQuota := requiredQuota
          snapshot := if answers.planCached then none else some store.groups })

def prepareOrder (tradeNo : String) (order : SubscriptionOrder) : PurchaseStore × PurchaseStage :=
  match readOffer answers store order.planId with
  | .error error => endWith process store (.error error)
  | .ok offer =>
    (store, .planRead
      { userId := order.userId
        offer := offer
        order := some (tradeNo, order)
        requiredQuota := 0
        snapshot := none })

def lockUser (purchase : Purchase) : PurchaseStore × PurchaseStage :=
  if store.userLock purchase.userId ≠ none then (store, .planRead purchase)
  else
    match answers.fault, store.quotas purchase.userId with
    | some error, _ => endWith process store (.error error)
    | none, none => endWith process store (.error .recordNotFound)
    | none, some quota =>
      if 0 < purchase.requiredQuota ∧ quota < purchase.requiredQuota then
        endWith process store (.error (.message "余额不足"))
      else
        ({ store with userLock := Function.update store.userLock purchase.userId (some process) },
          .userLocked purchase)

/-- The count of `CreateUserSubscriptionFromPlanTx`. Where nothing was read before, it takes the
snapshot. -/
def countPurchases (purchase : Purchase) : PurchaseStore × PurchaseStage :=
  let plan := purchase.offer.plan
  let seen := purchase.snapshot.getD store.groups
  if plan.id = 0 then endWith process store (.error (.message "invalid plan"))
  else if purchase.userId ≤ 0 then endWith process store (.error (.message "invalid user id"))
  else
    match checkPurchaseLimit answers.groupFaults.count purchase.userId plan seen with
    | .error error => endWith process store (.error error)
    | .ok _ =>
      (store, .counted
        { purchase with
          snapshot := if 0 < plan.maxPurchasePerUser then some seen else purchase.snapshot })

def completedOrder (call : PurchaseCall) (order : SubscriptionOrder) : SubscriptionOrder :=
  { order with
    status := .success
    completeTime := answers.now
    providerPayload :=
      if call.providerPayload = "" then order.providerPayload else call.providerPayload
    paymentMethod :=
      if call.actualPaymentMethod = "" then order.paymentMethod else call.actualPaymentMethod }

def balanceOrder (purchase : Purchase) : SubscriptionOrder where
  userId := purchase.userId
  planId := purchase.offer.plan.id
  money := purchase.offer.priceAmount
  paymentMethod := "balance"
  paymentProvider := .balance
  status := .success
  createTime := answers.now
  completeTime := answers.now
  providerPayload := s!"charged_quota={purchase.requiredQuota}"

/-- The orders after a call: it saves the one it completes or, with the balance, creates one under
a trade number that has to be free. -/
def ordersAfter (call : PurchaseCall) (purchase : Purchase) :
    Except GoError (String → Option SubscriptionOrder) :=
  match purchase.order, call with
  | some (tradeNo, order), _ =>
    .ok (Function.update store.orders tradeNo (some (completedOrder answers call order)))
  | none, .withBalance _ _ =>
    match store.orders answers.tradeNo with
    | some _ => .error (.message "duplicated key not allowed")
    | none => .ok (Function.update store.orders answers.tradeNo (some (balanceOrder answers purchase)))
  | none, _ => .ok store.orders

def written (purchase : Purchase) (groups : GroupStore)
    (orders : String → Option SubscriptionOrder) : PurchaseStore :=
  { store with
    groups := groups
    quotas :=
      if 0 < purchase.requiredQuota then
        Function.update store.quotas purchase.userId
          ((store.quotas purchase.userId).map fun quota => quota - purchase.requiredQuota)
      else store.quotas
    orders := orders
    produced :=
      match purchase.order with
      | some (tradeNo, _) => Function.update store.produced tradeNo (store.produced tradeNo + 1)
      | none => store.produced }

def commitPurchase (call : PurchaseCall) (purchase : Purchase) : PurchaseStore × PurchaseStage :=
  let seen := purchase.snapshot.getD store.groups
  match (do
    let groups ← createCounted answers.groupFaults answers.calendar answers.now answers.id
      purchase.userId purchase.offer.plan seen store.groups
    let orders ← ordersAfter answers store call purchase
    attempt answers.fault (written store purchase groups orders)
      : Except GoError PurchaseStore) with
  | .error error => endWith process store (.error error)
  | .ok committed => endWith process committed (.ok ())

end

def advancePurchase (process : Nat) (store : PurchaseStore) (state : PurchaseProcess)
    (answers : PurchaseAnswers) : PurchaseStore × PurchaseStage :=
  match state.stage with
  | .begun =>
    match state.call with
    | .completeOrder tradeNo _ expectedPaymentProvider _ =>
      lockOrder process answers store tradeNo expectedPaymentProvider
    | .adminBind userId planId => prepareBind process answers store userId planId
    | .withBalance userId planId => prepareBalance process answers store userId planId
  | .orderLocked tradeNo order => prepareOrder process answers store tradeNo order
  | .planRead purchase => lockUser process answers store purchase
  | .userLocked purchase => countPurchases process answers store purchase
  | .counted purchase => commitPurchase process answers store state.call purchase
  | .finished result => (store, .finished result)

def purchaseAct (process : Nat) (store : PurchaseStore) (state : PurchaseProcess) :
    PurchaseChoice → PurchaseStore × PurchaseProcess
  | .call call =>
    match state.stage with
    | .finished _ => (store, { call := call, stage := .begun })
    | _ => (store, state)
  | .advance answers =>
    let outcome := advancePurchase process store state answers
    (outcome.1, { state with stage := outcome.2 })

end NewApi
