import NewApi.SubscriptionQuota

/-! # User groups over the life of a subscription -/

namespace NewApi

open Transactions GoStrings

structure GroupStore where
  subscriptions : KeyedTable UserSubscription.id
  userGroups : Int → Option String

/-- Errors of the statements of the transactions below. -/
structure GroupTxFaults where
  beginTx : Option GoError
  count : Option GoError
  lock : Option GoError
  write : Option GoError
  readGroup : Option GoError
  activeQueryFails : Bool
  expiredQueryFails : Bool
  updateGroup : Option GoError
  commit : Option GoError

namespace GroupTxFaults

def succeeds : GroupTxFaults where
  beginTx := none
  count := none
  lock := none
  write := none
  readGroup := none
  activeQueryFails := false
  expiredQueryFails := false
  updateGroup := none
  commit := none

end GroupTxFaults

/-- `getUserGroupByIdTx`; a user that does not exist reads as the empty group. -/
def getUserGroupById (fault : Option GoError) (userId : Int) (store : GroupStore) :
    Except GoError String :=
  if userId ≤ 0 then .error (.message "invalid userId")
  else attempt fault ((store.userGroups userId).getD "")

def updateUserGroup (fault : Option GoError) (userId : Int) (target : String)
    (store : GroupStore) : Except GoError GroupStore :=
  attempt fault
    (match store.userGroups userId with
    | none => store
    | some _ =>
      { store with userGroups := Function.update store.userGroups userId (some target) })

def calcPlanEndTime (calendar : Calendar) (start : Int) (plan : SubscriptionPlan) :
    Except GoError Int :=
  if plan.durationValue ≤ 0 ∧ plan.durationUnit ≠ .custom then
    .error (.message "duration_value must be > 0")
  else
    match plan.durationUnit with
    | .year => .ok (calendar.addDate plan.durationValue 0 start)
    | .month => .ok (calendar.addDate 0 plan.durationValue start)
    | .day => .ok (addDuration start plan.durationValue 86400)
    | .hour => .ok (addDuration start plan.durationValue 3600)
    | .custom =>
      if plan.customSeconds ≤ 0 then .error (.message "custom_seconds must be > 0")
      else .ok (addDuration start plan.customSeconds 1)
    | .other text => .error (.message s!"invalid duration_unit: {text}")

def checkPurchaseLimit (fault : Option GoError) (userId : Int) (plan : SubscriptionPlan)
    (store : GroupStore) : Except GoError Unit :=
  if 0 < plan.maxPurchasePerUser then do
    let count ← attempt fault (store.subscriptions.rows.countP fun sub =>
      sub.userId = userId ∧ sub.planId = plan.id)
    if plan.maxPurchasePerUser ≤ count then .error (.message "已达到该套餐购买上限") else .ok ()
  else .ok ()

/-- The group held before the purchase, kept only when the purchase changes it, and
the store with the user raised. -/
def raiseUserGroup (faults : GroupTxFaults) (userId : Int) (upgradeGroup : String)
    (store : GroupStore) : Except GoError (String × GroupStore) :=
  if upgradeGroup = "" then .ok ("", store)
  else do
    let currentGroup ← getUserGroupById faults.readGroup userId store
    if currentGroup = upgradeGroup then .ok ("", store)
    else do
      let store ← updateUserGroup faults.updateGroup userId upgradeGroup store
      .ok (currentGroup, store)

def newSubscription (calendar : Calendar) (now endUnix id userId : Int) (idPos : 0 < id)
    (plan : SubscriptionPlan) (prevGroup : String) : UserSubscription where
  id := id
  userId := userId
  planId := plan.id
  amountTotal := plan.totalAmount
  amountUsed := 0
  startTime := now
  endTime := endUnix
  status := .active
  lastResetTime := if 0 < calcNextResetTime calendar now plan endUnix then now else 0
  nextResetTime := calcNextResetTime calendar now plan endUnix
  upgradeGroup := trimSpace plan.upgradeGroup
  prevUserGroup := prevGroup
  downgradeGroup := trimSpace plan.downgradeGroup
  allowWalletOverflow := plan.allowWalletOverflow.getD true
  idPos := idPos
  usedNonneg := nothing_used

theorem newSubscription_id (calendar : Calendar) (now endUnix id userId : Int)
    (plan : SubscriptionPlan) (prevGroup : String) (idPos : 0 < id) :
    (newSubscription calendar now endUnix id userId idPos plan prevGroup).id = id :=
  rfl

/-- `tx.Create(sub)`: the database assigns a free positive id. -/
def createSubscription (fault : Option GoError) (id : Int)
    (build : (idPos : 0 < id) → UserSubscription) (sameId : ∀ idPos, (build idPos).id = id)
    (store : GroupStore) : Except GoError GroupStore :=
  if valid : 0 < id ∧ store.subscriptions.find? id = none then
    attempt fault
      { store with
        subscriptions := store.subscriptions.insert (build valid.1)
          (by rw [sameId]; exact valid.2) }
  else .error (.message "duplicated key not allowed")

def createUserSubscriptionFromPlan (faults : GroupTxFaults) (calendar : Calendar) (now id : Int)
    (userId : Int) (plan : SubscriptionPlan) (store : GroupStore) : Except GoError GroupStore :=
  if plan.id = 0 then .error (.message "invalid plan")
  else if userId ≤ 0 then .error (.message "invalid user id")
  else do
    checkPurchaseLimit faults.count userId plan store
    let endUnix ← calcPlanEndTime calendar now plan
    let (prevGroup, store) ← raiseUserGroup faults userId (trimSpace plan.upgradeGroup) store
    createSubscription faults.write id
      (fun idPos => newSubscription calendar now endUnix id userId idPos plan prevGroup)
      (newSubscription_id calendar now endUnix id userId plan prevGroup) store

def purchaseSubscription (faults : GroupTxFaults) (calendar : Calendar) (now id userId : Int)
    (plan : SubscriptionPlan) (store : GroupStore) : Except GoError Unit × GroupStore :=
  transaction faults.beginTx faults.commit (fun store => do
    let store ← createUserSubscriptionFromPlan faults calendar now id userId plan store
    .ok ((), store)) store

def hasActiveUpgrade (store : GroupStore) (userId now : Int) (except : Option Int) : Bool :=
  store.subscriptions.rows.any fun sub =>
    sub.userId = userId ∧ sub.status = .active ∧ now < sub.endTime ∧ some sub.id ≠ except ∧
      sub.upgradeGroup ≠ ""

def downgradeTarget (sub : UserSubscription) (currentGroup : String) : Option String :=
  let explicit := trimSpace sub.downgradeGroup
  let target :=
    if explicit ≠ "" then explicit
    else if currentGroup ≠ trimSpace sub.upgradeGroup then ""
    else trimSpace sub.prevUserGroup
  if target = "" ∨ target = currentGroup then none else some target

def moveUser (fault : Option GoError) (userId : Int) (target : Option String)
    (store : GroupStore) : Except GoError GroupStore :=
  match target with
  | none => .ok store
  | some group => updateUserGroup fault userId group store

def downgradeUserGroupForSubscription (faults : GroupTxFaults) (sub : UserSubscription)
    (now : Int) (store : GroupStore) : Except GoError (Option String × GroupStore) :=
  if trimSpace sub.downgradeGroup = "" ∧ trimSpace sub.upgradeGroup = "" then .ok (none, store)
  else do
    let currentGroup ← getUserGroupById faults.readGroup sub.userId store
    if !faults.activeQueryFails && hasActiveUpgrade store sub.userId now (some sub.id) then
      .ok (none, store)
    else do
      let target := downgradeTarget sub currentGroup
      let store ← moveUser faults.updateGroup sub.userId target store
      .ok (target, store)

def downgradeMessage : Option String → String
  | none => ""
  | some group => s!"用户分组将回退到 {group}"

def firstUserSubscription (fault : Option GoError) (id : Int) (store : GroupStore) :
    Except GoError UserSubscription :=
  match fault, store.subscriptions.find? id with
  | some error, _ => .error error
  | none, none => .error .recordNotFound
  | none, some sub => .ok sub

def adminInvalidateUserSubscription (faults : GroupTxFaults) (now id : Int) (store : GroupStore) :
    Except GoError String × GroupStore :=
  if id ≤ 0 then (.error (.message "invalid userSubscriptionId"), store)
  else
    transaction faults.beginTx faults.commit (fun store => do
      let sub ← firstUserSubscription faults.lock id store
      let store ← attempt faults.write
        { store with
          subscriptions := store.subscriptions.save
            { sub with status := .cancelled, endTime := now } }
      let (target, store) ← downgradeUserGroupForSubscription faults sub now store
      .ok (downgradeMessage target, store)) store

def adminDeleteUserSubscription (faults : GroupTxFaults) (now id : Int) (store : GroupStore) :
    Except GoError String × GroupStore :=
  if id ≤ 0 then (.error (.message "invalid userSubscriptionId"), store)
  else
    transaction faults.beginTx faults.commit (fun store => do
      let sub ← firstUserSubscription faults.lock id store
      let (target, store) ← downgradeUserGroupForSubscription faults sub now store
      let store ← attempt faults.write
        { store with subscriptions := store.subscriptions.deleteWhere (·.id = id) }
      .ok (downgradeMessage target, store)) store

/-- `Order("end_time desc, id desc").Limit(1)`. -/
def latest : List UserSubscription → Option UserSubscription
  | [] => none
  | sub :: rest =>
    match latest rest with
    | none => some sub
    | some best => if endsNoLater sub best then some best else some sub

def lastExpired (store : GroupStore) (userId : Int) : Option UserSubscription :=
  latest (store.subscriptions.rows.filter fun sub =>
    sub.userId = userId ∧ sub.status = .expired ∧
      (sub.downgradeGroup ≠ "" ∨ sub.upgradeGroup ≠ ""))

def expiryTarget (sub : UserSubscription) (currentGroup : String) : Option String :=
  let explicit := trimSpace sub.downgradeGroup
  let upgradeGroup := trimSpace sub.upgradeGroup
  let prevGroup := trimSpace sub.prevUserGroup
  let target :=
    if explicit ≠ "" then explicit
    else if upgradeGroup = "" ∨ prevGroup = "" ∨ currentGroup ≠ upgradeGroup then ""
    else prevGroup
  if target = "" ∨ target = currentGroup then none else some target

def isDue (now : Int) (sub : UserSubscription) : Bool :=
  sub.status = .active ∧ 0 < sub.endTime ∧ sub.endTime ≤ now

def expireRow (now userId : Int) (sub : UserSubscription) : UserSubscription :=
  if sub.userId = userId ∧ isDue now sub then { sub with status := .expired } else sub

theorem expireRow_id (now userId : Int) (sub : UserSubscription) :
    (expireRow now userId sub).id = sub.id := by
  unfold expireRow
  split <;> rfl

def expireUser (faults : GroupTxFaults) (now userId : Int) (store : GroupStore) :
    Except GoError Unit × GroupStore :=
  transaction faults.beginTx faults.commit (fun store => do
    let store ← attempt faults.write
      { store with
        subscriptions := store.subscriptions.updateAll (expireRow now userId)
          (expireRow_id now userId) }
    if !faults.activeQueryFails && hasActiveUpgrade store userId now none then .ok ((), store)
    else if faults.expiredQueryFails then .ok ((), store)
    else
      match lastExpired store userId with
      | none => .ok ((), store)
      | some sub => do
        let currentGroup ← getUserGroupById faults.readGroup userId store
        let store ← moveUser faults.updateGroup userId (expiryTarget sub currentGroup) store
        .ok ((), store)) store

/-- The rows that the transaction for a user reports as affected, also when it is
rolled back later. -/
def expiredRows (faults : GroupTxFaults) (now userId : Int) (store : GroupStore) : Nat :=
  if faults.beginTx = none ∧ faults.write = none then
    store.subscriptions.rows.countP fun sub => sub.userId = userId ∧ isDue now sub
  else 0

/-- The loop of a sweep; it stops at the first transaction that fails. -/
def expireUsers (faults : Int → GroupTxFaults) (now : Int) :
    List Int → Nat → GroupStore → (Nat × Option GoError) × GroupStore
  | [], expiredCount, store => ((expiredCount, none), store)
  | userId :: rest, expiredCount, store =>
    let expiredCount := expiredCount + expiredRows (faults userId) now userId store
    match expireUser (faults userId) now userId store with
    | (.error error, store) => ((expiredCount, some error), store)
    | (.ok (), store) => expireUsers faults now rest expiredCount store

/-- `ExpireDueSubscriptions`. `order` is the order in which Go ranges over the set
of users. -/
def expireDueSubscriptions (findFault : Option GoError) (faults : Int → GroupTxFaults)
    (order : List Int → List Int) (now limit : Int) (store : GroupStore) :
    (Nat × Option GoError) × GroupStore :=
  let limit := if limit ≤ 0 then 200 else limit
  match findFault with
  | some error => ((0, some error), store)
  | none =>
    let subs := ((store.subscriptions.rows.filter (isDue now)).insertionSort endsNoLater).take
      limit.toNat
    let userIds := ((subs.map UserSubscription.userId).filter (0 < ·)).eraseDups
    expireUsers faults now (order userIds) 0 store

end NewApi
