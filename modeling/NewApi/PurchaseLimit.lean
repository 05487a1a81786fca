import NewApi.PurchaseStages

/-!
# The purchase limit and the orders under interleaved purchases

A count is stale when it was made in a snapshot from before the lock of the user.
-/

namespace NewApi

open GuardedRuns Interleaving Transactions GoStrings Function List

section

def countOf (groups : GroupStore) (userId planId : Int) : Nat :=
  groups.subscriptions.rows.countP fun sub => sub.userId = userId ∧ sub.planId = planId

inductive PurchaseMove (process : Nat) (store : PurchaseStore) :
    PurchaseStage → PurchaseStore → PurchaseStage → Prop
  | waits (stage : PurchaseStage) : PurchaseMove process store stage store stage
  | ends (stage : PurchaseStage) (result : Except GoError Unit) :
      PurchaseMove process store stage (store.release process) (.finished result)
  | locksOrder (tradeNo : String) (order : SubscriptionOrder)
      (free : store.orderLock tradeNo = none) (found : store.orders tradeNo = some order)
      (pending : order.status = .pending) :
      PurchaseMove process store .begun
        { store with orderLock := Function.update store.orderLock tradeNo (some process) }
        (.orderLocked tradeNo order)
  | prepares (purchase : Purchase) (noOrder : purchase.order = none)
      (offered : purchase.offer ∈ store.plans.rows) :
      PurchaseMove process store .begun store (.planRead purchase)
  | preparesOrder (tradeNo : String) (order : SubscriptionOrder) (purchase : Purchase)
      (sameOrder : purchase.order = some (tradeNo, order))
      (offered : purchase.offer ∈ store.plans.rows) :
      PurchaseMove process store (.orderLocked tradeNo order) store (.planRead purchase)
  | locksUser (purchase : Purchase) (free : store.userLock purchase.userId = none) :
      PurchaseMove process store (.planRead purchase)
        { store with userLock := Function.update store.userLock purchase.userId (some process) }
        (.userLocked purchase)
  | counts (purchase : Purchase) (snapshot : Option GroupStore)
      (room : 0 < purchase.offer.plan.maxPurchasePerUser →
        (countOf (purchase.snapshot.getD store.groups) purchase.userId purchase.offer.plan.id : Int) <
          purchase.offer.plan.maxPurchasePerUser) :
      PurchaseMove process store (.userLocked purchase) store
        (.counted { purchase with snapshot := snapshot })
  | commits (answers : PurchaseAnswers) (call : PurchaseCall) (purchase : Purchase)
      (groups : GroupStore) (orders : String → Option SubscriptionOrder)
      (created : createCounted answers.groupFaults answers.calendar answers.now answers.id
        purchase.userId purchase.offer.plan (purchase.snapshot.getD store.groups) store.groups =
          .ok groups)
      (saved : ordersAfter answers store call purchase = .ok orders) :
      PurchaseMove process store (.counted purchase)
        ((written store purchase groups orders).release process) (.finished (.ok ()))

abbrev Moves (process : Nat) (store : PurchaseStore) (stage : PurchaseStage)
    (outcome : PurchaseStore × PurchaseStage) : Prop :=
  PurchaseMove process store stage outcome.1 outcome.2

variable {process : Nat} {store : PurchaseStore} {answers : PurchaseAnswers}
  {plan : SubscriptionPlan}

theorem mem_plans_of_readOffer {planId : Int} {offer : OfferedPlan}
    (read : readOffer answers store planId = .ok offer) : offer ∈ store.plans.rows := by
  unfold readOffer at read
  split at read
  · cases read
  · split at read
    · rename_i found
      cases read
      exact (store.plans.find?_eq_some_iff.mp found).1
    · cases read
    · cases read
    · rename_i found _
      cases read
      exact (store.plans.find?_eq_some_iff.mp found).1

theorem room_of_checkPurchaseLimit {fault : Option GoError} {userId : Int} {seen : GroupStore}
    {value : Unit} (checked : checkPurchaseLimit fault userId plan seen = .ok value)
    (limited : 0 < plan.maxPurchasePerUser) :
    (countOf seen userId plan.id : Int) < plan.maxPurchasePerUser := by
  rw [checkPurchaseLimit,if_pos limited] at checked
  obtain ⟨count,isCount,rest⟩ := bind_succeeds_iff.mp checked
  obtain ⟨-,rfl⟩ := attempt_eq_ok.mp isCount
  split at rest
  · cases rest
  · rename_i below
    exact not_le.mp below

theorem lockOrder_moves (tradeNo : String) (expected : Option PaymentProvider) :
    Moves process store .begun (lockOrder process answers store tradeNo expected) := by
  unfold lockOrder
  split_ifs with unnamed locked
  · exact .ends _ _
  · exact .waits _
  · split
    · rename_i order fault found
      split_ifs with mismatch completed notPending
      · exact .ends _ _
      · exact .ends _ _
      · exact .ends _ _
      · exact .locksOrder tradeNo order (not_not.mp locked) found (not_not.mp notPending)
    · exact .ends _ _

theorem prepareBind_moves (userId planId : Int) :
    Moves process store .begun (prepareBind process answers store userId planId) := by
  unfold prepareBind
  split_ifs
  · exact .ends _ _
  · split
    · exact .ends _ _
    · rename_i offer read
      exact .prepares _ rfl (mem_plans_of_readOffer read)

theorem prepareBalance_moves (userId planId : Int) :
    Moves process store .begun (prepareBalance process answers store userId planId) := by
  unfold prepareBalance
  iterate 2
    split
    · exact .ends _ _
  rename_i offer requiredQuota prepared
  simp only [bind_succeeds_iff] at prepared
  obtain ⟨read,isRead,quota,-,same⟩ := prepared
  obtain ⟨rfl,rfl⟩ := same
  exact .prepares _ rfl (mem_plans_of_readOffer isRead)

theorem prepareOrder_moves (tradeNo : String) (order : SubscriptionOrder) :
    Moves process store (.orderLocked tradeNo order)
      (prepareOrder process answers store tradeNo order) := by
  unfold prepareOrder
  split
  · exact .ends _ _
  · rename_i offer read
    exact .preparesOrder tradeNo order _ rfl (mem_plans_of_readOffer read)

theorem lockUser_moves (purchase : Purchase) :
    Moves process store (.planRead purchase) (lockUser process answers store purchase) := by
  unfold lockUser
  split_ifs with locked
  · exact .waits _
  · split
    · exact .ends _ _
    · exact .ends _ _
    · split_ifs
      · exact .ends _ _
      · exact .locksUser purchase (not_not.mp locked)

theorem countPurchases_moves (purchase : Purchase) :
    Moves process store (.userLocked purchase) (countPurchases process answers store purchase) := by
  unfold countPurchases
  dsimp only
  iterate 3
    split
    · exact .ends _ _
  rename_i checked
  exact .counts purchase _ (room_of_checkPurchaseLimit checked)

theorem commitPurchase_moves (call : PurchaseCall) (purchase : Purchase) :
    Moves process store (.counted purchase)
      (commitPurchase process answers store call purchase) := by
  unfold commitPurchase
  dsimp only
  split
  · exact .ends _ _
  · rename_i committed body
    simp only [bind_succeeds_iff] at body
    obtain ⟨groups,created,orders,saved,last⟩ := body
    obtain ⟨-,rfl⟩ := attempt_eq_ok.mp last
    exact .commits answers call purchase groups orders created saved

theorem advancePurchase_moves (state : PurchaseProcess) :
    Moves process store state.stage (advancePurchase process store state answers) := by
  obtain ⟨call,stage⟩ := state
  cases stage with
  | begun =>
    cases call with
    | completeOrder => exact lockOrder_moves _ _
    | adminBind => exact prepareBind_moves _ _
    | withBalance => exact prepareBalance_moves _ _
  | orderLocked tradeNo order => exact prepareOrder_moves tradeNo order
  | planRead purchase => exact lockUser_moves purchase
  | userLocked purchase => exact countPurchases_moves purchase
  | counted purchase => exact commitPurchase_moves call purchase
  | finished => exact .waits _

theorem PurchaseMove.quotas {stage after : PurchaseStage} {next : PurchaseStore}
    (move : PurchaseMove process store stage next after) :
    next.quotas = store.quotas ∨ after = .finished (.ok ()) := by
  cases move with
  | commits => exact .inr rfl
  | _ => exact .inl rfl

/-- An order has made no subscription yet, or one, and then it is completed. -/
def OrdersOnce (store : PurchaseStore) : Prop :=
  ∀ tradeNo, store.produced tradeNo = 0 ∨
    (store.produced tradeNo = 1 ∧
      ∃ order, store.orders tradeNo = some order ∧ order.status = .success)

def PurchaseStage.order : PurchaseStage → Option (String × SubscriptionOrder)
  | .orderLocked tradeNo order => some (tradeNo, order)
  | .planRead purchase => purchase.order
  | .userLocked purchase => purchase.order
  | .counted purchase => purchase.order
  | _ => none

/-- A call that works on an order holds its lock, and the order is as it was read. -/
def HoldsOrder (process : Nat) (store : PurchaseStore) (state : PurchaseProcess) : Prop :=
  ∀ tradeNo order, state.stage.order = some (tradeNo, order) →
    store.orderLock tradeNo = some process ∧ store.orders tradeNo = some order ∧
      order.status = .pending

def KeepsLockedOrders (process : Nat) (before after : PurchaseStore) : Prop :=
  ∀ tradeNo order, before.orderLock tradeNo = some process →
    before.orders tradeNo = some order →
    after.orderLock tradeNo = some process ∧ after.orders tradeNo = some order

theorem holdsOrder_stable (process : Nat) {before after : PurchaseStore} {state : PurchaseProcess}
    (keeps : KeepsLockedOrders process before after) (holds : HoldsOrder process before state) :
    HoldsOrder process after state := by
  intro tradeNo order isOrder
  obtain ⟨locked,found,pending⟩ := holds tradeNo order isOrder
  obtain ⟨lockedAfter,foundAfter⟩ := keeps tradeNo order locked found
  exact ⟨lockedAfter,foundAfter,pending⟩

variable {purchase : Purchase} {call : PurchaseCall}

theorem release_locks (store : PurchaseStore) {other : Nat} (different : other ≠ process) :
    (∀ tradeNo, store.orderLock tradeNo = some other →
      (store.release process).orderLock tradeNo = some other) ∧
      ∀ userId, store.userLock userId = some other →
        (store.release process).userLock userId = some other := by
  have others : some other ≠ some process := fun same => different (Option.some.inj same)
  constructor <;> intro key locked <;> simp [PurchaseStore.release,locked,others]

theorem ordersAfter_cases {orders : String → Option SubscriptionOrder}
    (saved : ordersAfter answers store call purchase = .ok orders) :
    (∃ tradeNo order, purchase.order = some (tradeNo, order) ∧
        orders = Function.update store.orders tradeNo
          (some (completedOrder answers call order))) ∨
      (purchase.order = none ∧
        ∀ tradeNo order, store.orders tradeNo = some order → orders tradeNo = some order) := by
  unfold ordersAfter at saved
  split at saved
  · rename_i tradeNo order isOrder
    cases saved
    exact .inl ⟨tradeNo,order,isOrder,rfl⟩
  · rename_i noOrder
    split at saved
    · cases saved
    · rename_i free
      cases saved
      refine .inr ⟨noOrder,?_⟩
      intro tradeNo order found
      have different : tradeNo ≠ answers.tradeNo := by
        rintro rfl
        rw [free] at found
        cases found
      rw [update_of_ne different,found]
  · rename_i noOrder _
    cases saved
    exact .inr ⟨noOrder,fun _ _ found => found⟩

variable {next : PurchaseStore} {state : PurchaseProcess} {after : PurchaseStage}

theorem ordersOnce_written (groups : GroupStore) {orders : String → Option SubscriptionOrder}
    (saved : ordersAfter answers store call purchase = .ok orders) (once : OrdersOnce store)
    (pending : ∀ tradeNo order, purchase.order = some (tradeNo, order) → store.orders tradeNo =
      some order ∧ order.status = .pending) :
    OrdersOnce (written store purchase groups orders) := by
  intro tradeNo
  rcases ordersAfter_cases saved with ⟨completed,order,isOrder,rfl⟩ | ⟨noOrder,kept⟩
  · simp only [written,isOrder]
    by_cases same : tradeNo = completed
    · subst same
      obtain ⟨found,isPending⟩ := pending tradeNo order isOrder
      rcases once tradeNo with none_ | ⟨-,stored,isStored,success⟩
      · refine .inr ⟨by simp [none_],_,update_self _ _ _,rfl⟩
      · rw [found] at isStored
        cases isStored
        rw [isPending] at success
        cases success
    · simpa only [update_of_ne same] using once tradeNo
  · simp only [written,noOrder]
    rcases once tradeNo with none_ | ⟨one,stored,isStored,success⟩
    · exact .inl none_
    · exact .inr ⟨one,stored,kept tradeNo stored isStored,success⟩

theorem PurchaseMove.orders (move : PurchaseMove process store state.stage next after)
    (once : OrdersOnce store) (holds : HoldsOrder process store state) :
    OrdersOnce next ∧ HoldsOrder process next { state with stage := after } ∧
      ∀ other, other ≠ process → KeepsLockedOrders other store next := by
  obtain ⟨call,stage⟩ := state
  cases move with
  | waits | locksUser purchase free | counts purchase snapshot room =>
    exact ⟨once,holds,fun _ _ _ _ locked found => ⟨locked,found⟩⟩
  | ends =>
    exact ⟨once,fun _ _ => nofun,fun _ different tradeNo _ locked found =>
      ⟨(release_locks store different).1 tradeNo locked,found⟩⟩
  | locksOrder tradeNo order free found pending =>
    refine ⟨once,?_,?_⟩
    · intro _ _ isOrder
      cases isOrder
      exact ⟨update_self _ _ _,found,pending⟩
    · intro other _ otherNo otherOrder locked otherFound
      have different : otherNo ≠ tradeNo := by
        rintro rfl
        rw [free] at locked
        cases locked
      exact ⟨(update_of_ne different _ _).trans locked,otherFound⟩
  | prepares purchase noOrder _ =>
    refine ⟨once,?_,fun _ _ _ _ locked found => ⟨locked,found⟩⟩
    intro _ _ isOrder
    exact absurd (noOrder.symm.trans isOrder) nofun
  | preparesOrder tradeNo order purchase sameOrder _ =>
    refine ⟨once,?_,fun _ _ _ _ locked found => ⟨locked,found⟩⟩
    intro _ _ isOrder
    exact holds _ _ (sameOrder.symm.trans isOrder)
  | commits answers call purchase groups orders created saved =>
    refine ⟨?_,fun _ _ => nofun,?_⟩
    · exact ordersOnce_written groups saved once fun tradeNo order isOrder =>
        (holds tradeNo order isOrder).2
    · intro other different tradeNo order locked found
      refine ⟨(release_locks (written store purchase groups orders) different).1 tradeNo locked,?_⟩
      rcases ordersAfter_cases saved with ⟨completed,own,isOrder,rfl⟩ | ⟨-,kept⟩
      · -- The completed order is locked by this process.
        have elsewhere : tradeNo ≠ completed := by
          rintro rfl
          have ownLock := (holds tradeNo own isOrder).1
          rw [locked] at ownLock
          exact different (Option.some.inj ownLock)
        exact (update_of_ne elsewhere _ _).trans found
      · exact kept tradeNo order found

/-- No user has more subscriptions of a plan than the plan allows. -/
def WithinLimit (store : PurchaseStore) : Prop :=
  ∀ offer ∈ store.plans.rows, 0 < offer.plan.maxPurchasePerUser → ∀ userId,
    (countOf store.groups userId offer.plan.id : Int) ≤ offer.plan.maxPurchasePerUser

/-- What a call knows about the subscriptions of its user: under the lock its snapshot, if it has
one, counts them as they are, and after the count there is room for one more. -/
def KnowsCount (process : Nat) (store : PurchaseStore) (state : PurchaseProcess) : Prop :=
  match state.stage with
  | .planRead purchase => purchase.offer ∈ store.plans.rows
  | .userLocked purchase =>
    purchase.offer ∈ store.plans.rows ∧ store.userLock purchase.userId = some process ∧
      ∀ seen, purchase.snapshot = some seen →
        countOf seen purchase.userId purchase.offer.plan.id =
          countOf store.groups purchase.userId purchase.offer.plan.id
  | .counted purchase =>
    purchase.offer ∈ store.plans.rows ∧ store.userLock purchase.userId = some process ∧
      (0 < purchase.offer.plan.maxPurchasePerUser →
        (countOf store.groups purchase.userId purchase.offer.plan.id : Int) <
          purchase.offer.plan.maxPurchasePerUser)
  | _ => True

def KeepsLockedUsers (process : Nat) (before after : PurchaseStore) : Prop :=
  after.plans = before.plans ∧ ∀ userId, before.userLock userId = some process →
    after.userLock userId = some process ∧
      ∀ planId, countOf after.groups userId planId = countOf before.groups userId planId

theorem knowsCount_stable (process : Nat) {before after : PurchaseStore} {state : PurchaseProcess}
    (keeps : KeepsLockedUsers process before after) (knows : KnowsCount process before state) :
    KnowsCount process after state := by
  obtain ⟨samePlans,kept⟩ := keeps
  obtain ⟨call,stage⟩ := state
  cases stage with
  | planRead purchase =>
    change purchase.offer ∈ after.plans.rows
    rwa [samePlans]
  | userLocked purchase =>
    obtain ⟨offered,locked,current⟩ := knows
    obtain ⟨lockedAfter,sameCount⟩ := kept purchase.userId locked
    refine ⟨samePlans ▸ offered,lockedAfter,?_⟩
    intro seen isSnapshot
    rw [sameCount,current seen isSnapshot]
  | counted purchase =>
    obtain ⟨offered,locked,room⟩ := knows
    obtain ⟨lockedAfter,sameCount⟩ := kept purchase.userId locked
    refine ⟨samePlans ▸ offered,lockedAfter,?_⟩
    rwa [sameCount]
  | _ => trivial

variable {faults : GroupTxFaults} {userId : Int} {groups : GroupStore}

theorem raiseUserGroupSeen_subscriptions {upgradeGroup : String} {seen store : GroupStore}
    {result : String × GroupStore}
    (raised : raiseUserGroupSeen faults userId upgradeGroup seen store = .ok result) :
    result.2.subscriptions = store.subscriptions := by
  unfold raiseUserGroupSeen at raised
  split at raised
  · cases raised
    rfl
  · obtain ⟨currentGroup,-,rest⟩ := bind_succeeds_iff.mp raised
    split at rest
    · cases rest
      rfl
    · obtain ⟨updated,isUpdated,same⟩ := bind_succeeds_iff.mp rest
      cases same
      obtain ⟨-,rfl⟩ := attempt_eq_ok.mp isUpdated
      split <;> rfl

theorem countOf_createCounted {calendar : Calendar} {now id : Int} {seen store : GroupStore}
    (created : createCounted faults calendar now id userId plan seen store = .ok groups)
    (otherUser otherPlan : Int) :
    countOf groups otherUser otherPlan = countOf store otherUser otherPlan +
      if userId = otherUser ∧ plan.id = otherPlan then 1 else 0 := by
  obtain ⟨endUnix,-,rest⟩ := bind_succeeds_iff.mp created
  obtain ⟨⟨prevGroup,raisedStore⟩,raised,inserted⟩ := bind_succeeds_iff.mp rest
  have sameRows := raiseUserGroupSeen_subscriptions raised
  dsimp only at sameRows inserted
  unfold createSubscription at inserted
  split at inserted
  · obtain ⟨-,rfl⟩ := attempt_eq_ok.mp inserted
    simp only [countOf,KeyedTable.insert,sameRows]
    simp [newSubscription]
  · cases inserted

theorem keepsLockedUsers_refl (other : Nat) (store : PurchaseStore) :
    KeepsLockedUsers other store store :=
  ⟨rfl,fun _ locked => ⟨locked,fun _ => rfl⟩⟩

/-- The condition at the step that locks the row of a user: a snapshot that the call has taken
before shows as many subscriptions of the user from the plan as there are. -/
def SnapshotCurrent (store : PurchaseStore) : PurchaseStage → Prop
  | .planRead purchase =>
    store.userLock purchase.userId = none → ∀ seen, purchase.snapshot = some seen →
      countOf seen purchase.userId purchase.offer.plan.id =
        countOf store.groups purchase.userId purchase.offer.plan.id
  | _ => True

theorem PurchaseMove.limit (move : PurchaseMove process store state.stage next after)
    (current : SnapshotCurrent store state.stage) (within : WithinLimit store)
    (knows : KnowsCount process store state) :
    WithinLimit next ∧ KnowsCount process next { state with stage := after } ∧
      ∀ other, other ≠ process → KeepsLockedUsers other store next := by
  obtain ⟨call,stage⟩ := state
  cases move with
  | waits => exact ⟨within,knows,fun other _ => keepsLockedUsers_refl other store⟩
  | ends =>
    exact ⟨within,trivial,fun other different =>
      ⟨rfl,fun userId locked => ⟨(release_locks store different).2 userId locked,fun _ => rfl⟩⟩⟩
  | locksOrder =>
    exact ⟨within,trivial,fun other _ => ⟨rfl,fun _ locked => ⟨locked,fun _ => rfl⟩⟩⟩
  | prepares purchase _ offered | preparesOrder tradeNo order purchase _ offered =>
    exact ⟨within,offered,fun other _ => keepsLockedUsers_refl other store⟩
  | locksUser purchase free =>
    refine ⟨within,⟨knows,update_self _ _ _,current free⟩,?_⟩
    intro other _
    refine ⟨rfl,fun userId locked => ⟨?_,fun _ => rfl⟩⟩
    have different : userId ≠ purchase.userId := by
      rintro rfl
      rw [free] at locked
      cases locked
    exact (update_of_ne different _ _).trans locked
  | counts purchase snapshot room =>
    obtain ⟨offered,locked,sameCount⟩ := knows
    refine ⟨within,⟨offered,locked,?_⟩,fun other _ => keepsLockedUsers_refl other store⟩
    intro limited
    have counted := room limited
    cases isSnapshot : purchase.snapshot with
    | none => simpa [isSnapshot] using counted
    | some seen =>
      rw [isSnapshot,Option.getD_some,sameCount seen isSnapshot] at counted
      exact counted
  | commits answers call purchase groups orders created =>
    obtain ⟨offered,locked,room⟩ := knows
    refine ⟨fun offer isOffered limited userId => ?_,trivial,?_⟩
    · have before := within offer isOffered limited userId
      change (countOf groups userId offer.plan.id : Int) ≤ _
      rw [countOf_createCounted created]
      split
      · rename_i same
        obtain ⟨rfl,samePlan⟩ := same
        obtain rfl := KeyedTable.eq_of_key_eq offered isOffered samePlan
        omega
      · omega
    intro other different
    refine ⟨rfl,fun userId otherLocked =>
      ⟨(release_locks (written store purchase groups orders) different).2 userId otherLocked,?_⟩⟩
    intro planId
    have elsewhere : purchase.userId ≠ userId := by
      rintro rfl
      rw [locked] at otherLocked
      exact different (Option.some.inj otherLocked).symm
    change countOf groups userId planId = _
    rw [countOf_createCounted created,if_neg fun same => elsewhere same.1,Nat.add_zero]

end

section

abbrev PurchaseSystem := System PurchaseStore PurchaseProcess

/-- Any process takes its next step; nothing else changes the tables. -/
def purchaseStep : PurchaseSystem → Event PurchaseChoice Empty → PurchaseSystem :=
  step purchaseAct fun store _ => store

def lockGuard (system : PurchaseSystem) : Event PurchaseChoice Empty → Prop
  | .act process (.advance _) =>
    SnapshotCurrent system.shared (system.locals process).stage
  | _ => True

variable (process : Nat)

theorem purchaseAct_call (store : PurchaseStore) (state : PurchaseProcess) (call : PurchaseCall) :
    purchaseAct process store state (.call call) = (store, state) ∨
      purchaseAct process store state (.call call) = (store, { call := call, stage := .begun }) := by
  obtain ⟨running,stage⟩ := state
  cases stage with
  | finished => exact .inr rfl
  | _ => exact .inl rfl

variable {start : PurchaseSystem}

theorem ordersOnce_run (events : List (Event PurchaseChoice Empty))
    (initially : Sound OrdersOnce HoldsOrder start) :
    Always purchaseStep (fun system => OrdersOnce system.shared) start events := by
  refine always_of_guarded (Sound OrdersOnce HoldsOrder)
    (fun _ sound => sound.shared) ?_ initially (guarded_true start events)
  refine sound_step (fun _ _ => True) KeepsLockedOrders holdsOrder_stable ?_ nofun
  intro system process choice sound _
  cases choice with
  | call call =>
    rcases purchaseAct_call process system.shared (system.locals process) call with same | begun
    · rw [same]
      exact ⟨sound.shared,sound.locals process,fun _ _ _ _ locked found => ⟨locked,found⟩⟩
    · rw [begun]
      exact ⟨sound.shared,fun _ _ => nofun,fun _ _ _ _ locked found => ⟨locked,found⟩⟩
  | advance =>
    exact (advancePurchase_moves _).orders sound.shared (sound.locals process)

theorem withinLimit_run {events : List (Event PurchaseChoice Empty)}
    (initially : Sound WithinLimit KnowsCount start)
    (guarded : Guarded purchaseStep lockGuard start events) :
    Always purchaseStep (fun system => WithinLimit system.shared) start events := by
  refine always_of_guarded (Sound WithinLimit KnowsCount)
    (fun _ sound => sound.shared) ?_ initially guarded
  refine sound_step lockGuard KeepsLockedUsers knowsCount_stable ?_ nofun
  intro system process choice sound current
  cases choice with
  | call call =>
    rcases purchaseAct_call process system.shared (system.locals process) call with same | begun
    · rw [same]
      exact ⟨sound.shared,sound.locals process,fun other _ => keepsLockedUsers_refl other _⟩
    · rw [begun]
      exact ⟨sound.shared,trivial,fun other _ => keepsLockedUsers_refl other _⟩
  | advance =>
    exact (advancePurchase_moves _).limit current sound.shared (sound.locals process)

/-- No call is running and no order has made a subscription yet. -/
structure QuietStart (start : PurchaseSystem) : Prop where
  finished : ∀ process, ∃ result, (start.locals process).stage = .finished result
  unproduced : ∀ tradeNo, start.shared.produced tradeNo = 0

theorem QuietStart.holdsOrder (quiet : QuietStart start) :
    HoldsOrder process start.shared (start.locals process) := by
  obtain ⟨result,finished⟩ := quiet.finished process
  intro tradeNo order isOrder
  rw [finished] at isOrder
  cases isOrder

theorem QuietStart.knowsCount (quiet : QuietStart start) :
    KnowsCount process start.shared (start.locals process) := by
  obtain ⟨result,finished⟩ := quiet.finished process
  unfold KnowsCount
  rw [finished]
  trivial

/-- Whatever the interleaving, an order makes at most one subscription, and the quota of a user
changes only in the step in which a purchase succeeds. When at every lock of a user the snapshot of
the call, if it has one, counts the subscriptions as they are, no user ever has more subscriptions
of a plan than the plan allows. -/
theorem purchases_exact_and_limited (start : PurchaseSystem) (quiet : QuietStart start)
    (within : WithinLimit start.shared) (events : List (Event PurchaseChoice Empty)) :
    Always purchaseStep (fun system => ∀ tradeNo, system.shared.produced tradeNo ≤ 1) start events ∧
      (∀ (system : PurchaseSystem) (event : Event PurchaseChoice Empty),
        (purchaseStep system event).shared.quotas = system.shared.quotas ∨
          ∃ process answers, event = .act process (.advance answers) ∧
            ((purchaseStep system event).locals process).stage = .finished (.ok ())) ∧
      (Guarded purchaseStep lockGuard start events →
        Always purchaseStep (fun system => WithinLimit system.shared) start events) := by
  refine ⟨?_,?_,?_⟩
  · intro seen isPrefix tradeNo
    have once := ordersOnce_run events ⟨fun _ => .inl (quiet.unproduced _),quiet.holdsOrder⟩
      seen isPrefix tradeNo
    rcases once with none_ | ⟨one,-⟩ <;> omega
  · intro system event
    match event with
    | .act process (.call call) =>
      left
      rcases purchaseAct_call process system.shared (system.locals process) call with same | begun
      · simp only [purchaseStep,step,same]
      · simp only [purchaseStep,step,begun]
    | .act process (.advance answers) =>
      have move : PurchaseMove process system.shared (system.locals process).stage
          (advancePurchase process system.shared (system.locals process) answers).1
          (advancePurchase process system.shared (system.locals process) answers).2 :=
        advancePurchase_moves _
      rcases move.quotas with same | succeeded
      · exact .inl same
      · refine .inr ⟨process,answers,rfl,?_⟩
        simp only [purchaseStep,step,update_self]
        exact succeeded
  · exact withinLimit_run ⟨within,quiet.knowsCount⟩

def oncePlanStore : PurchaseStore where
  groups :=
    { subscriptions := { rows := [], keysNodup := nodup_nil }
      userGroups := fun _ => some "default" }
  plans :=
    { rows :=
        [{ plan :=
             { id := 1, title := "once", durationUnit := .hour, durationValue := 1
               customSeconds := 0, allowWalletOverflow := none, maxPurchasePerUser := 1
               upgradeGroup := "", downgradeGroup := "", totalAmount := 100
               quotaResetPeriod := "never", quotaResetCustomSeconds := 0 }
           enabled := true, priceAmount := 0, allowBalancePay := none }]
      keysNodup := nodup_singleton _ }
  quotas := Function.update (fun _ => none) 1 (some 100)
  orders := fun _ => none
  userLock := fun _ => none
  orderLock := fun _ => none
  produced := fun _ => 0

def idlePurchases : PurchaseSystem where
  shared := oncePlanStore
  locals := fun _ => { call := .adminBind 1 1, stage := .finished (.ok ()) }

theorem idlePurchases_quiet : QuietStart idlePurchases where
  finished _ := ⟨.ok (), rfl⟩
  unproduced _ := rfl

theorem oncePlanStore_withinLimit : WithinLimit oncePlanStore := by
  intro offer isOffered limited userId
  exact limited.le

def purchaseAnswers (planCached : Bool) (id : Int) (tradeNo : String) : PurchaseAnswers where
  fault := none
  planCached := planCached
  quotaPerUnit := 500000
  groupFaults := .succeeds
  calendar :=
    { nextMidnight := fun instant => instant, nextMonday := fun instant => instant
      nextMonth := fun instant => instant, addDate := fun _ _ instant => instant }
  now := 1000
  id := id
  tradeNo := tradeNo

def bindAlone : List (Event PurchaseChoice Empty) :=
  .act 0 (.call (.adminBind 1 1)) :: replicate 4 (.act 0 (.advance (purchaseAnswers true 1 "a")))

theorem bindAlone_withinLimit :
    WithinLimit (run purchaseStep idlePurchases bindAlone).shared ∧
      countOf (run purchaseStep idlePurchases bindAlone).shared.groups 1 1 = 1 := by
  obtain ⟨-,-,limited⟩ := purchases_exact_and_limited idlePurchases idlePurchases_quiet
    oncePlanStore_withinLimit bindAlone
  refine ⟨limited ?_ bindAlone (prefix_refl _),by rfl⟩
  exact ⟨trivial,trivial,nofun,trivial,trivial,trivial⟩

/-- Two purchases with the balance read the plan from the database before either locks the user. -/
def balanceRace : List (Event PurchaseChoice Empty) :=
  let first := Event.act 0 (.advance (purchaseAnswers false 1 "a"))
  let second := Event.act 1 (.advance (purchaseAnswers false 2 "b"))
  [.act 0 (.call (.withBalance 1 1)), .act 1 (.call (.withBalance 1 1)), first, second,
    first, first, first, second, second, second]

/-- Both count no subscription, and the user ends with two of a plan that may be bought once. -/
theorem balanceRace_exceeds_limit :
    countOf (run purchaseStep idlePurchases balanceRace).shared.groups 1 1 = 2 ∧
      ¬ WithinLimit (run purchaseStep idlePurchases balanceRace).shared := by
  have two : countOf (run purchaseStep idlePurchases balanceRace).shared.groups 1 1 = 2 := by rfl
  refine ⟨two,?_⟩
  intro within
  have one := within _ (mem_singleton_self _) (by decide) 1
  exact absurd one (by decide)

end

end NewApi
