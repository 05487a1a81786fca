import NewApi.SubscriptionGroupLifecycle

/-!
# Sweeps and runs

The sweep expires what is due, user by user, and lets the latest expired row
decide where the user goes. With one upgrade at a time that row is the right one.
-/

namespace NewApi

open Transactions GuardedRuns GoStrings List

section

variable {subs : List UserSubscription}

theorem latest_eq_none : latest subs = none ↔ subs = [] := by
  cases subs with
  | nil => simp [latest]
  | cons =>
    unfold latest
    split
    · simp
    · split_ifs <;> simp

theorem latest_eq_some {best : UserSubscription} (found : latest subs = some best) :
    best ∈ subs ∧ ∀ sub ∈ subs, sub.endTime ≤ best.endTime := by
  fun_induction latest subs generalizing best with
  | case1 => cases found
  | case2 sub rest missing =>
    cases found
    rw [latest_eq_none.mp missing]
    simp
  | case3 sub rest other later order ih =>
    cases found
    obtain ⟨member,bound⟩ := ih later
    refine ⟨mem_cons_of_mem _ member,forall_mem_cons.mpr ⟨?_,bound⟩⟩
    unfold endsNoLater at order
    omega
  | case4 sub rest other later order ih =>
    cases found
    refine ⟨mem_cons_self,forall_mem_cons.mpr ⟨le_rfl,fun row member => ?_⟩⟩
    have := (ih later).2 row member
    unfold endsNoLater at order
    omega

end

section

variable {userId : Int} {oldGroup : String} {faults : GroupTxFaults} {before after store : GroupStore}
  {clock now : Int} {user : Int} {row : UserSubscription}

theorem mem_expired :
    row ∈ (before.subscriptions.updateAll (expireRow now user) (expireRow_id now user)).rows ↔
      ∃ old ∈ before.subscriptions.rows, expireRow now user old = row := by
  simp [KeyedTable.updateAll]

theorem expireRow_cases (now user : Int) (sub : UserSubscription) :
    expireRow now user sub = sub ∨
      (sub.userId = user ∧ sub.status = .active ∧ sub.endTime ≤ now ∧
        expireRow now user sub = { sub with status := .expired }) := by
  unfold expireRow
  split_ifs with due
  · simp only [isDue,decide_eq_true_eq] at due
    exact .inr ⟨due.1,due.2.1,due.2.2.2,rfl⟩
  · exact .inl rfl

/-- The user stays because of a running upgrade or for lack of an expired one, or
follows the latest expired row. -/
theorem expireUser_effect (called : expireUser faults now user before = (.ok (), after)) :
    (∀ row, row ∈ after.subscriptions.rows ↔
      ∃ old ∈ before.subscriptions.rows, expireRow now user old = row) ∧
    (∀ other, other ≠ user → after.userGroups other = before.userGroups other) ∧
    (faults.expiredQueryFails = false → ∀ group, before.userGroups user = some group →
      (after.userGroups user = some group ∧
        ((∃ row ∈ after.subscriptions.rows, ActiveUpgrade user row) ∨
          lastExpired after user = none)) ∨
        ∃ sub, lastExpired after user = some sub ∧
          after.userGroups user = some ((expiryTarget sub group).getD group)) := by
  obtain ⟨-,-,body⟩ := transaction_ok_iff.mp called
  obtain ⟨written,writes,body⟩ := bind_succeeds_iff.mp body
  obtain ⟨-,rfl⟩ := attempt_eq_ok.mp writes
  split_ifs at body with running failed
  · cases body
    refine ⟨fun row => mem_expired,fun _ _ => rfl,fun _ group found => .inl ⟨found,.inl ?_⟩⟩
    rw [Bool.and_eq_true,hasActiveUpgrade,any_eq_true] at running
    obtain ⟨-,row,member,conditions⟩ := running
    simp only [decide_eq_true_eq] at conditions
    exact ⟨row,member,conditions.1,conditions.2.1,conditions.2.2.2.2⟩
  · cases body
    refine ⟨fun row => mem_expired,fun _ _ => rfl,fun complete => ?_⟩
    rw [complete] at failed
    cases failed
  · split at body
    · rename_i noneExpired
      cases body
      exact ⟨fun row => mem_expired,fun _ _ => rfl,fun _ group found =>
        .inl ⟨found,.inr noneExpired⟩⟩
    · rename_i sub last
      simp only [bind_succeeds_iff] at body
      obtain ⟨current,reads,moved,moves,done⟩ := body
      cases done
      obtain ⟨sameRows,otherGroups,groups⟩ := moveUser_effect current moves
      refine ⟨fun row => by rw [sameRows]; exact mem_expired,otherGroups,fun _ group found => ?_⟩
      have sameGroup : current = group := getUserGroupById_eq_ok found reads
      subst sameGroup
      refine .inr ⟨sub,?_,groups found⟩
      rw [← last]
      unfold lastExpired
      rw [sameRows]

theorem mem_lastExpired {sub : UserSubscription} (last : lastExpired store user = some sub) :
    sub ∈ store.subscriptions.rows ∧ sub.userId = user ∧ sub.status = .expired ∧
      (sub.downgradeGroup ≠ "" ∨ sub.upgradeGroup ≠ "") ∧
      ∀ row ∈ store.subscriptions.rows, ExpiredUpgrade user row → row.endTime ≤ sub.endTime := by
  obtain ⟨member,bound⟩ := latest_eq_some last
  simp only [mem_filter,decide_eq_true_eq] at member bound
  refine ⟨member.1,member.2.1,member.2.2.1,member.2.2.2,fun row inRows expired => ?_⟩
  exact bound row ⟨inRows,expired.1,expired.2.1,.inr expired.2.2⟩

theorem lastExpired_ne_none (member : row ∈ store.subscriptions.rows)
    (expired : ExpiredUpgrade user row) :
    lastExpired store user ≠ none := by
  intro missing
  have empty := latest_eq_none.mp missing
  rw [filter_eq_nil_iff] at empty
  exact empty row member (by simpa using ⟨expired.1,expired.2.1,.inr expired.2.2⟩)

theorem expired_row_cases (rows : ∀ row, row ∈ after.subscriptions.rows ↔
      ∃ old ∈ before.subscriptions.rows, expireRow now user old = row)
    (member : row ∈ after.subscriptions.rows) :
    row ∈ before.subscriptions.rows ∨
      ∃ old ∈ before.subscriptions.rows, old.userId = user ∧ old.status = .active ∧
        old.endTime ≤ now ∧ row = { old with status := .expired } := by
  obtain ⟨old,inBefore,rfl⟩ := (rows row).mp member
  rcases expireRow_cases now user old with same | ⟨owned,active,ended,expired⟩
  · exact .inl (same.symm ▸ inBefore)
  · exact .inr ⟨old,inBefore,owned,active,ended,expired⟩

theorem expireUser_keeps_other (different : user ≠ userId)
    (invariant : GroupInvariant userId oldGroup ⟨before, clock⟩) (forward : clock ≤ now)
    (called : expireUser faults now user before = (.ok (), after)) :
    GroupInvariant userId oldGroup ⟨after, now⟩ := by
  obtain ⟨rows,otherGroups,-⟩ := expireUser_effect called
  refine invariant.frame ⟨fun row owned => ?_,otherGroups userId (Ne.symm different)⟩ forward
  constructor
  · intro inAfter
    rcases expired_row_cases rows inAfter with inBefore | ⟨old,-,oldOwned,-,-,rfl⟩
    · exact inBefore
    · exact absurd (oldOwned.symm.trans owned) different
  · intro inBefore
    refine (rows row).mpr ⟨row,inBefore,?_⟩
    rcases expireRow_cases now user row with same | ⟨rowOwned,-⟩
    · exact same
    · exact absurd (rowOwned.symm.trans owned) different

section

variable (invariant : GroupInvariant userId oldGroup ⟨before, clock⟩)
  (rows : ∀ row, row ∈ after.subscriptions.rows ↔
    ∃ old ∈ before.subscriptions.rows, expireRow now userId old = row)

include rows

variable {row active : UserSubscription}

theorem active_kept (member : row ∈ after.subscriptions.rows) (active : ActiveUpgrade userId row) :
    row ∈ before.subscriptions.rows := by
  rcases expired_row_cases rows member with inBefore | ⟨old,-,-,-,-,rfl⟩
  · exact inBefore
  · exact absurd active.2.1 (by simp)

theorem active_or_expired (member : active ∈ before.subscriptions.rows) :
    active ∈ after.subscriptions.rows ∨
      { active with status := .expired } ∈ after.subscriptions.rows := by
  have image := (rows _).mpr ⟨active,member,rfl⟩
  rcases expireRow_cases now userId active with same | ⟨-,-,-,expired⟩
  · exact .inl (same ▸ image)
  · exact .inr (expired ▸ image)

include invariant

theorem GroupInvariant.restorable_expired (member : row ∈ after.subscriptions.rows)
    (owned : row.userId = userId) : Restorable oldGroup row := by
  rcases expired_row_cases rows member with inBefore | ⟨old,inBefore,oldOwned,-,-,rfl⟩
  · exact invariant.restorable row inBefore owned
  · have restorable := invariant.restorable old inBefore oldOwned
    exact { restorable with }

theorem GroupInvariant.lastExpired_upgrade {sub : UserSubscription}
    (member : active ∈ before.subscriptions.rows) (isActive : ActiveUpgrade userId active)
    (expired : { active with status := .expired } ∈ after.subscriptions.rows)
    (last : lastExpired after userId = some sub) : sub.upgradeGroup = active.upgradeGroup := by
  obtain ⟨subMember,owned,status,names,bound⟩ := mem_lastExpired last
  have atLeast : active.endTime ≤ sub.endTime :=
    bound { active with status := .expired } expired ⟨isActive.1,rfl,isActive.2.2⟩
  have restorable := invariant.restorable_expired rows subMember owned
  have upgraded : sub.upgradeGroup ≠ "" :=
    names.resolve_left fun downgrade => downgrade restorable.noDowngrade
  rcases expired_row_cases rows subMember with inBefore | ⟨old,inBefore,oldOwned,oldActive,-,rfl⟩
  · have earlier : sub.endTime < active.endTime :=
      invariant.later active member sub inBefore isActive ⟨owned,status,upgraded⟩
    omega
  · rw [invariant.single old inBefore active member ⟨oldOwned,oldActive,upgraded⟩ isActive]

theorem GroupInvariant.group_of_expired {group next : String}
    (oldTrimmed : trimSpace oldGroup = oldGroup) (oldNamed : oldGroup ≠ "")
    (found : before.userGroups userId = some group) (outcome : (next = group ∧
      ((∃ row ∈ after.subscriptions.rows, ActiveUpgrade userId row) ∨
        lastExpired after userId = none)) ∨
      ∃ sub, lastExpired after userId = some sub ∧ next = (expiryTarget sub group).getD group) :
    GroupHeld userId oldGroup after next := by
  obtain ⟨group',found',running,back⟩ := invariant.group
  obtain rfl : group = group' := Option.some.inj (found.symm.trans found')
  have followed : ∀ sub, lastExpired after userId = some sub →
      LeadsBack oldGroup group sub ((expiryTarget sub group).getD group) := by
    intro sub last
    obtain ⟨member,owned,-,names,-⟩ := mem_lastExpired last
    have restorable := invariant.restorable_expired rows member owned
    have upgraded : sub.upgradeGroup ≠ "" :=
      names.resolve_left fun downgrade => downgrade restorable.noDowngrade
    rw [expiryTarget_eq (by rwa [restorable.trimmed])]
    exact downgradeTarget_leadsBack restorable upgraded oldTrimmed oldNamed
  constructor
  · intro row member active
    have before_ := running row (active_kept rows member active) active
    rcases outcome with ⟨rfl,-⟩ | ⟨sub,last,rfl⟩
    · exact before_
    · rcases followed sub last with isOld | ⟨same,-⟩
      · exact .inr isOld
      · rwa [same]
  · intro noUpgrade
    -- An upgrade that was active has expired, so the latest expired row is its.
    have expired : ∀ active ∈ before.subscriptions.rows, ActiveUpgrade userId active →
        { active with status := .expired } ∈ after.subscriptions.rows := by
      intro active member isActive
      exact (active_or_expired rows member).resolve_left
        fun inAfter => noUpgrade active inAfter isActive
    rcases outcome with ⟨rfl,⟨row,member,active⟩ | missing⟩ | ⟨sub,last,rfl⟩
    · exact absurd active (noUpgrade row member)
    · apply back
      intro active member isActive
      exact lastExpired_ne_none (expired active member isActive)
        ⟨isActive.1,rfl,isActive.2.2⟩ missing
    · rcases followed sub last with isOld | ⟨same,elsewhere⟩
      · exact isOld
      · rw [same]
        by_cases wasActive : ∃ active ∈ before.subscriptions.rows, ActiveUpgrade userId active
        · obtain ⟨active,member,isActive⟩ := wasActive
          refine (running active member isActive).resolve_left ?_
          rw [← invariant.lastExpired_upgrade rows member isActive (expired active member isActive)
            last]
          exact elsewhere
        · apply back
          intro active member isActive
          exact wasActive ⟨active,member,isActive⟩

end

theorem expireUser_keeps_own (oldTrimmed : trimSpace oldGroup = oldGroup) (oldNamed : oldGroup ≠ "")
    (invariant : GroupInvariant userId oldGroup ⟨before, clock⟩) (forward : clock ≤ now)
    (complete : faults.expiredQueryFails = false)
    (called : expireUser faults now userId before = (.ok (), after)) :
    GroupInvariant userId oldGroup ⟨after, now⟩ := by
  obtain ⟨rows,-,moves⟩ := expireUser_effect called
  obtain ⟨group,found,-⟩ := invariant.group
  refine ⟨?_,fun row => invariant.restorable_expired rows,?_,?_,?_,?_⟩
  · rcases moves complete group found with ⟨same,stays⟩ | ⟨sub,last,moved⟩
    · exact ⟨group,same,invariant.group_of_expired rows oldTrimmed oldNamed found
        (.inl ⟨rfl,stays⟩)⟩
    · exact ⟨_,moved,invariant.group_of_expired rows oldTrimmed oldNamed found
        (.inr ⟨sub,last,rfl⟩)⟩
  · intro first firstMember second secondMember firstActive secondActive
    exact invariant.single first (active_kept rows firstMember firstActive) second
      (active_kept rows secondMember secondActive) firstActive secondActive
  · intro active activeMember expired expiredMember isActive isExpired
    have inBefore := active_kept rows activeMember isActive
    rcases expired_row_cases rows expiredMember with
      expiredBefore | ⟨old,oldBefore,oldOwned,oldActive,-,rfl⟩
    · exact invariant.later active inBefore expired expiredBefore isActive isExpired
    · have same := invariant.single old oldBefore active inBefore
        ⟨oldOwned,oldActive,isExpired.2.2⟩ isActive
      subst same
      -- The row would be stored both as active and as expired.
      have clash := KeyedTable.eq_of_key_eq activeMember expiredMember rfl
      exact absurd (congrArg UserSubscription.status clash) (by simp [oldActive])
  · intro expired member isExpired
    rcases expired_row_cases rows member with inBefore | ⟨old,-,-,-,ended,rfl⟩
    · exact (invariant.past expired inBefore isExpired).trans forward
    · exact ended
  · intro active member isActive
    exact invariant.ends active (active_kept rows member isActive) isActive

theorem expireUsers_keeps {faults : Int → GroupTxFaults} {users : List Int} {expiredCount : Nat}
    (oldTrimmed : trimSpace oldGroup = oldGroup) (oldNamed : oldGroup ≠ "")
    (invariant : GroupInvariant userId oldGroup ⟨before, clock⟩) (forward : clock ≤ now)
    (complete : (faults userId).expiredQueryFails = false) :
    GroupInvariant userId oldGroup ⟨(expireUsers faults now users expiredCount before).2, now⟩ := by
  induction users generalizing before clock expiredCount with
  | nil => exact invariant.frame ⟨fun _ _ => Iff.rfl,rfl⟩ forward
  | cons user rest ih =>
    unfold expireUsers
    rcases called : expireUser (faults user) now user before with ⟨result,after⟩
    cases result with
    | error =>
      have rolledBack : after = before := transaction_error_state called
      subst rolledBack
      exact invariant.frame ⟨fun _ _ => Iff.rfl,rfl⟩ forward
    | ok =>
      refine ih ?_ le_rfl
      by_cases own : user = userId
      · subst own
        exact expireUser_keeps_own oldTrimmed oldNamed invariant forward complete called
      · exact expireUser_keeps_other own invariant forward called

end

inductive GroupOperation where
  | purchase (faults : GroupTxFaults) (calendar : Calendar) (id userId : Int)
      (plan : SubscriptionPlan)
  | invalidate (faults : GroupTxFaults) (id : Int)
  | delete (faults : GroupTxFaults) (id : Int)
  | sweep (findFault : Option GoError) (faults : Int → GroupTxFaults)
      (order : List Int → List Int) (limit : Int)

structure TimedOperation where
  now : Int
  operation : GroupOperation

namespace GroupState

def step (state : GroupState) (timed : TimedOperation) : GroupState where
  clock := timed.now
  store :=
    match timed.operation with
    | .purchase faults calendar id userId plan =>
      (purchaseSubscription faults calendar timed.now id userId plan state.store).2
    | .invalidate faults id => (adminInvalidateUserSubscription faults timed.now id state.store).2
    | .delete faults id => (adminDeleteUserSubscription faults timed.now id state.store).2
    | .sweep findFault faults order limit =>
      (expireDueSubscriptions findFault faults order timed.now limit state.store).2

/-- Times do not go back, and the plans the user buys have no downgrade group. -/
def Considered (userId : Int) (state : GroupState) (timed : TimedOperation) : Prop :=
  state.clock ≤ timed.now ∧
    match timed.operation with
    | .purchase _ _ _ buyer plan => buyer = userId → trimSpace plan.downgradeGroup = ""
    | _ => True

/-- The user buys an upgrade only while no subscription with an upgrade group is in
status active, and the upgrade ends after it starts. A sweep finds the user's latest
expired subscription. -/
def OneAtATime (userId : Int) (state : GroupState) (timed : TimedOperation) : Prop :=
  match timed.operation with
  | .purchase _ calendar _ buyer plan =>
    buyer = userId → trimSpace plan.upgradeGroup ≠ "" →
      (∀ sub ∈ state.store.subscriptions.rows, ¬ ActiveUpgrade userId sub) ∧
        ∀ endUnix, calcPlanEndTime calendar timed.now plan = .ok endUnix →
          timed.now < endUnix ∧ 0 < endUnix
  | .sweep _ faults _ _ => (faults userId).expiredQueryFails = false
  | _ => True

end GroupState

open GroupState in
theorem groupInvariant_step {userId : Int} {oldGroup : String} {state : GroupState}
    {timed : TimedOperation} (oldTrimmed : trimSpace oldGroup = oldGroup)
    (oldNamed : oldGroup ≠ "") (invariant : GroupInvariant userId oldGroup state)
    (considered : Considered userId state timed) (oneAtATime : OneAtATime userId state timed) :
    GroupInvariant userId oldGroup (step state timed) := by
  obtain ⟨store,clock⟩ := state
  obtain ⟨now,operation⟩ := timed
  obtain ⟨forward,noDowngrade⟩ := considered
  have unchanged : GroupInvariant userId oldGroup ⟨store,now⟩ :=
    invariant.frame ⟨fun _ _ => Iff.rfl,rfl⟩ forward
  cases operation with
  | purchase faults calendar id buyer plan =>
    rcases called : purchaseSubscription faults calendar now id buyer plan store with
      ⟨result,after⟩
    simp only [step,called]
    cases result with
    | error => exact transaction_error_state called ▸ unchanged
    | ok =>
      exact purchase_keeps invariant forward noDowngrade
        (fun own upgraded => (oneAtATime own upgraded).1)
        (fun own upgraded => (oneAtATime own upgraded).2) called
  | invalidate faults id =>
    rcases called : adminInvalidateUserSubscription faults now id store with ⟨result,after⟩
    simp only [step,called]
    cases result with
    | error =>
      unfold adminInvalidateUserSubscription at called
      split_ifs at called
      · cases called
        exact unchanged
      · exact transaction_error_state called ▸ unchanged
    | ok =>
      obtain ⟨sub,retires⟩ := invalidate_retires oldTrimmed oldNamed called
      exact retires.keeps invariant forward
  | delete faults id =>
    rcases called : adminDeleteUserSubscription faults now id store with ⟨result,after⟩
    simp only [step,called]
    cases result with
    | error =>
      unfold adminDeleteUserSubscription at called
      split_ifs at called
      · cases called
        exact unchanged
      · exact transaction_error_state called ▸ unchanged
    | ok =>
      obtain ⟨sub,retires⟩ := delete_retires oldTrimmed oldNamed called
      exact retires.keeps invariant forward
  | sweep findFault =>
    simp only [step,expireDueSubscriptions]
    cases findFault with
    | some => exact unchanged
    | none => exact expireUsers_keeps oldTrimmed oldNamed invariant forward oneAtATime

open GroupState in
/-- Along every run in which the user holds one upgrade at a time, the user is back
in the old group whenever no upgrade is active. -/
theorem subscription_group_restored (userId : Int) (oldGroup : String) (store : GroupStore)
    (clock : Int) (operations : List TimedOperation) (oldTrimmed : trimSpace oldGroup = oldGroup)
    (oldNamed : oldGroup ≠ "") (inOldGroup : store.userGroups userId = some oldGroup)
    (noSubscription : ∀ sub ∈ store.subscriptions.rows, sub.userId ≠ userId)
    (guarded : Guarded step (fun state timed =>
      Considered userId state timed ∧ OneAtATime userId state timed) ⟨store, clock⟩ operations) :
    Always step (GroupRestored userId oldGroup) ⟨store, clock⟩ operations := by
  have initially : GroupInvariant userId oldGroup ⟨store,clock⟩ := by
    refine ⟨⟨oldGroup,inOldGroup,fun _ _ _ => .inr rfl,fun _ => rfl⟩,?_,?_,?_,?_,?_⟩
    · exact fun sub member owned => absurd owned (noSubscription sub member)
    · exact fun sub member _ _ active => absurd active.1 (noSubscription sub member)
    · exact fun sub member _ _ active => absurd active.1 (noSubscription sub member)
    · exact fun sub member expired => absurd expired.1 (noSubscription sub member)
    · exact fun sub member active => absurd active.1 (noSubscription sub member)
  refine always_of_guarded (GroupInvariant userId oldGroup) (fun _ => GroupInvariant.restored)
    ?_ initially guarded
  intro state timed invariant allowed
  exact groupInvariant_step oldTrimmed oldNamed invariant allowed.1 allowed.2

def vipPlan : SubscriptionPlan where
  id := 1
  title := "vip"
  durationUnit := .custom
  durationValue := 1
  customSeconds := 10
  allowWalletOverflow := none
  maxPurchasePerUser := 0
  upgradeGroup := "vip"
  downgradeGroup := ""
  totalAmount := 0
  quotaResetPeriod := "never"
  quotaResetCustomSeconds := 0

def defaultUser : GroupStore where
  subscriptions := ⟨[], nodup_nil⟩
  userGroups := fun userId => if userId = 1 then some "default" else none

def vipPurchase (now subscriptionId : Int) : TimedOperation :=
  ⟨now, .purchase .succeeds ⟨id, id, id, fun _ _ => id⟩ subscriptionId 1 vipPlan⟩

def plainSweep (now : Int) : TimedOperation :=
  ⟨now, .sweep none (fun _ => .succeeds) id 0⟩

theorem subscription_group_restored_once :
    Guarded GroupState.step (fun state timed =>
      GroupState.Considered 1 state timed ∧ GroupState.OneAtATime 1 state timed)
      ⟨defaultUser, 0⟩ [vipPurchase 100 1, plainSweep 110] ∧
    Always GroupState.step (GroupRestored 1 "default") ⟨defaultUser, 0⟩
      [vipPurchase 100 1, plainSweep 110] := by
  have guarded : Guarded GroupState.step (fun state timed =>
      GroupState.Considered 1 state timed ∧ GroupState.OneAtATime 1 state timed)
      ⟨defaultUser,0⟩ [vipPurchase 100 1, plainSweep 110] := by
    refine ⟨⟨⟨by decide,fun _ => by decide⟩,fun _ _ => ⟨by simp [defaultUser],?_⟩⟩,
      ⟨⟨by decide,trivial⟩,rfl⟩,trivial⟩
    intro endUnix ends
    cases ends
    decide
  exact ⟨guarded,subscription_group_restored 1 "default" defaultUser 0
    [vipPurchase 100 1, plainSweep 110] (by decide) (by decide) rfl (by simp [defaultUser]) guarded⟩

/-- A renewal remembers no group, and it is the last to expire: the user stays in
group vip. -/
theorem renewal_keeps_group :
    Guarded GroupState.step (GroupState.Considered 1) ⟨defaultUser, 0⟩
      [vipPurchase 100 1, vipPurchase 105 2, plainSweep 112, plainSweep 120] ∧
    ¬ Always GroupState.step (GroupRestored 1 "default") ⟨defaultUser, 0⟩
      [vipPurchase 100 1, vipPurchase 105 2, plainSweep 112, plainSweep 120] := by
  constructor
  · exact ⟨⟨by decide,fun _ => by decide⟩,⟨by decide,fun _ => by decide⟩,
      ⟨by decide,trivial⟩,⟨by decide,trivial⟩,trivial⟩
  · intro always
    have restored := always _ prefix_rfl
    have processed : ∀ sub ∈ (run GroupState.step ⟨defaultUser,0⟩
        [vipPurchase 100 1, vipPurchase 105 2, plainSweep 112,
          plainSweep 120]).store.subscriptions.rows, sub.status ≠ .active := by decide +kernel
    have back := restored fun sub member active => absurd active.2.1 (processed sub member)
    exact absurd back (by decide)

end NewApi
