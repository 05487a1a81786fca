import NewApi.GuardedRuns
import NewApi.SubscriptionGroups

/-!
# A user returns to the group held before the subscriptions

One upgraded subscription at a time is safe: no other row with an upgrade group ends later.
-/

namespace NewApi

open Transactions GuardedRuns GoStrings KeyedTable

section

variable {oldGroup currentGroup : String} {sub : UserSubscription}

structure Restorable (oldGroup : String) (sub : UserSubscription) : Prop where
  noDowngrade : sub.downgradeGroup = ""
  trimmed : trimSpace sub.upgradeGroup = sub.upgradeGroup
  remembers : sub.upgradeGroup ≠ "" →
    sub.prevUserGroup = oldGroup ∨ (sub.upgradeGroup = oldGroup ∧ sub.prevUserGroup = "")

/-- The group is the old one, or it was left alone because it is not the group of
this subscription. -/
def LeadsBack (oldGroup currentGroup : String) (sub : UserSubscription) (group : String) : Prop :=
  group = oldGroup ∨ (group = currentGroup ∧ currentGroup ≠ sub.upgradeGroup)

theorem trimSpace_empty : trimSpace "" = "" := by decide

theorem downgradeTarget_leadsBack (restorable : Restorable oldGroup sub)
    (upgraded : sub.upgradeGroup ≠ "") (oldTrimmed : trimSpace oldGroup = oldGroup)
    (oldNamed : oldGroup ≠ "") :
    LeadsBack oldGroup currentGroup sub ((downgradeTarget sub currentGroup).getD currentGroup) := by
  unfold downgradeTarget LeadsBack
  rw [restorable.noDowngrade,restorable.trimmed,trimSpace_empty]
  by_cases same : currentGroup = sub.upgradeGroup
  · subst same
    rcases restorable.remembers upgraded with remembered | ⟨isOld,forgotten⟩
    · by_cases alreadyBack : oldGroup = sub.upgradeGroup
      · simp [remembered,alreadyBack,restorable.trimmed]
      · simp [remembered,oldTrimmed,alreadyBack,oldNamed]
    · simp [forgotten,trimSpace_empty,isOld]
  · simp [same]

/-- For a subscription with an upgrade group the two routines agree. -/
theorem expiryTarget_eq (upgraded : trimSpace sub.upgradeGroup ≠ "") :
    expiryTarget sub currentGroup = downgradeTarget sub currentGroup := by
  unfold expiryTarget downgradeTarget
  by_cases forgotten : trimSpace sub.prevUserGroup = "" <;> simp [upgraded,forgotten]

end

def ActiveUpgrade (userId : Int) (sub : UserSubscription) : Prop :=
  sub.userId = userId ∧ sub.status = .active ∧ sub.upgradeGroup ≠ ""

def ExpiredUpgrade (userId : Int) (sub : UserSubscription) : Prop :=
  sub.userId = userId ∧ sub.status = .expired ∧ sub.upgradeGroup ≠ ""

structure GroupState where
  store : GroupStore
  clock : Int

/-- With one upgraded subscription at a time, the user is in its group or in the old
one, and in the old one when there is none. -/
structure GroupInvariant (userId : Int) (oldGroup : String) (state : GroupState) : Prop where
  group : ∃ group, state.store.userGroups userId = some group ∧
    (∀ sub ∈ state.store.subscriptions.rows, ActiveUpgrade userId sub →
      group = sub.upgradeGroup ∨ group = oldGroup) ∧
    ((∀ sub ∈ state.store.subscriptions.rows, ¬ ActiveUpgrade userId sub) → group = oldGroup)
  restorable : ∀ sub ∈ state.store.subscriptions.rows, sub.userId = userId →
    Restorable oldGroup sub
  single : ∀ first ∈ state.store.subscriptions.rows, ∀ second ∈ state.store.subscriptions.rows,
    ActiveUpgrade userId first → ActiveUpgrade userId second → first = second
  later : ∀ active ∈ state.store.subscriptions.rows, ∀ expired ∈ state.store.subscriptions.rows,
    ActiveUpgrade userId active → ExpiredUpgrade userId expired → expired.endTime < active.endTime
  past : ∀ expired ∈ state.store.subscriptions.rows, ExpiredUpgrade userId expired →
    expired.endTime ≤ state.clock
  ends : ∀ active ∈ state.store.subscriptions.rows, ActiveUpgrade userId active →
    0 < active.endTime

/-- Once no upgrade of the user is still running and none is left for a sweep, the
user is in the old group. -/
def GroupRestored (userId : Int) (oldGroup : String) (state : GroupState) : Prop :=
  (∀ sub ∈ state.store.subscriptions.rows, ActiveUpgrade userId sub →
    ¬ state.clock < sub.endTime ∧ ¬ isDue state.clock sub) →
    state.store.userGroups userId = some oldGroup

/-- What the invariant says of the group. -/
def GroupHeld (userId : Int) (oldGroup : String) (store : GroupStore) (group : String) : Prop :=
  (∀ sub ∈ store.subscriptions.rows, ActiveUpgrade userId sub →
    group = sub.upgradeGroup ∨ group = oldGroup) ∧
    ((∀ sub ∈ store.subscriptions.rows, ¬ ActiveUpgrade userId sub) → group = oldGroup)

theorem GroupInvariant.restored {userId : Int} {oldGroup : String} {state : GroupState}
    (invariant : GroupInvariant userId oldGroup state) : GroupRestored userId oldGroup state := by
  intro processed
  obtain ⟨group,found,-,back⟩ := invariant.group
  rw [found,back]
  intro sub member active
  obtain ⟨ended,notDue⟩ := processed sub member active
  apply notDue
  simpa [isDue] using ⟨active.2.1,invariant.ends sub member active,not_lt.mp ended⟩

section

variable {userId : Int} {oldGroup : String} {before after : GroupStore} {clock now : Int}

structure SameUser (userId : Int) (before after : GroupStore) : Prop where
  rows : ∀ sub, sub.userId = userId →
    (sub ∈ after.subscriptions.rows ↔ sub ∈ before.subscriptions.rows)
  group : after.userGroups userId = before.userGroups userId

variable (invariant : GroupInvariant userId oldGroup ⟨before, clock⟩)

include invariant

theorem GroupInvariant.retire (forward : clock ≤ now)
    (rows : ∀ sub ∈ after.subscriptions.rows, sub.userId = userId →
      sub ∈ before.subscriptions.rows ∨
        (Restorable oldGroup sub ∧ ¬ ActiveUpgrade userId sub ∧ ¬ ExpiredUpgrade userId sub))
    (group : ∃ group, after.userGroups userId = some group ∧
      GroupHeld userId oldGroup after group) :
    GroupInvariant userId oldGroup ⟨after, now⟩ := by
  have activeKept : ∀ sub ∈ after.subscriptions.rows, ActiveUpgrade userId sub →
      sub ∈ before.subscriptions.rows := by
    intro sub member active
    exact (rows sub member active.1).resolve_right fun changed => changed.2.1 active
  have expiredKept : ∀ sub ∈ after.subscriptions.rows, ExpiredUpgrade userId sub →
      sub ∈ before.subscriptions.rows := by
    intro sub member expired
    exact (rows sub member expired.1).resolve_right fun changed => changed.2.2 expired
  refine ⟨group,?_,?_,?_,?_,?_⟩
  · intro sub member owned
    rcases rows sub member owned with kept | changed
    · exact invariant.restorable sub kept owned
    · exact changed.1
  · intro first firstMember second secondMember firstActive secondActive
    exact invariant.single first (activeKept first firstMember firstActive) second
      (activeKept second secondMember secondActive) firstActive secondActive
  · intro active activeMember expired expiredMember isActive isExpired
    exact invariant.later active (activeKept active activeMember isActive) expired
      (expiredKept expired expiredMember isExpired) isActive isExpired
  · intro expired member isExpired
    exact (invariant.past expired (expiredKept expired member isExpired) isExpired).trans forward
  · intro active member isActive
    exact invariant.ends active (activeKept active member isActive) isActive

theorem GroupInvariant.frame (same : SameUser userId before after) (forward : clock ≤ now) :
    GroupInvariant userId oldGroup ⟨after, now⟩ := by
  obtain ⟨group,found,running,back⟩ := invariant.group
  refine invariant.retire forward (fun sub member owned => .inl ((same.rows sub owned).mp member))
    ⟨group,same.group.trans found,?_,?_⟩
  · intro sub member active
    exact running sub ((same.rows sub active.1).mp member) active
  · intro noUpgrade
    apply back
    intro sub member active
    exact noUpgrade sub ((same.rows sub active.1).mpr member) active

theorem GroupInvariant.group_of_retired {sub : UserSubscription} {group next : String}
    (member : sub ∈ before.subscriptions.rows) (found : before.userGroups userId = some group)
    (others : ∀ row, ActiveUpgrade userId row →
      (row ∈ after.subscriptions.rows ↔ row ∈ before.subscriptions.rows ∧ row.id ≠ sub.id))
    (moved : LeadsBack oldGroup group sub next ∨
      (next = group ∧ (sub.upgradeGroup = "" ∨
        ∃ row ∈ after.subscriptions.rows, ActiveUpgrade userId row))) :
    GroupHeld userId oldGroup after next := by
  obtain ⟨group',found',running,back⟩ := invariant.group
  obtain rfl : group = group' := Option.some.inj (found.symm.trans found')
  constructor
  · intro row inAfter active
    rcases moved with (isOld | ⟨same,-⟩) | ⟨same,-⟩
    · exact .inr isOld
    · exact same ▸ running row ((others row active).mp inAfter).1 active
    · exact same ▸ running row ((others row active).mp inAfter).1 active
  · intro noUpgrade
    -- Every upgraded subscription that was active is the retired one.
    have onlyRetired : ∀ row ∈ before.subscriptions.rows, ActiveUpgrade userId row →
        row = sub := by
      intro row inBefore active
      have sameId : row.id = sub.id := by
        by_contra different
        exact noUpgrade row ((others row active).mpr ⟨inBefore,different⟩) active
      exact eq_of_key_eq inBefore member sameId
    have oldUnlessRetired : ¬ ActiveUpgrade userId sub → group = oldGroup := by
      intro notActive
      apply back
      intro row inBefore active
      exact notActive (onlyRetired row inBefore active ▸ active)
    rcases moved with (isOld | ⟨same,elsewhere⟩) | ⟨same,plain | ⟨row,inAfter,active⟩⟩
    · exact isOld
    · by_cases active : ActiveUpgrade userId sub
      · exact same ▸ (running sub member active).resolve_left elsewhere
      · exact same ▸ oldUnlessRetired active
    · exact same ▸ oldUnlessRetired fun active => active.2.2 plain
    · exact absurd active (noUpgrade row inAfter)

end

section

variable {faults : GroupTxFaults} {store after : GroupStore} {now : Int} {sub : UserSubscription}
  {fault : Option GoError} {userId : Int} {target : Option String}

theorem updateUserGroup_effect (group : String) {target : String}
    (called : updateUserGroup fault userId target store = .ok after) :
    after.subscriptions = store.subscriptions ∧
      (∀ other, other ≠ userId → after.userGroups other = store.userGroups other) ∧
      (store.userGroups userId = some group → after.userGroups userId = some target) := by
  obtain ⟨-,rfl⟩ := attempt_eq_ok.mp called
  cases known : store.userGroups userId with
  | none => exact ⟨rfl,fun _ _ => rfl,nofun⟩
  | some =>
    refine ⟨rfl,fun other different => ?_,fun _ => ?_⟩
    · simp [different]
    · simp

theorem moveUser_effect (group : String) (called : moveUser fault userId target store = .ok after) :
    after.subscriptions = store.subscriptions ∧
      (∀ other, other ≠ userId → after.userGroups other = store.userGroups other) ∧
      (store.userGroups userId = some group → after.userGroups userId = some (target.getD group)) := by
  cases target with
  | none =>
    cases called
    exact ⟨rfl,fun _ _ => rfl,fun found => found⟩
  | some => exact updateUserGroup_effect group called

theorem getUserGroupById_eq_ok {group current : String}
    (found : store.userGroups userId = some group)
    (called : getUserGroupById fault userId store = .ok current) : current = group := by
  unfold getUserGroupById at called
  split_ifs at called
  obtain ⟨-,rfl⟩ := attempt_eq_ok.mp called
  simp [found]

/-- Another active subscription keeps the user where they are; otherwise the row
leads back. -/
theorem downgrade_effect
    (called : downgradeUserGroupForSubscription faults sub now store = .ok (target, after)) :
    after.subscriptions = store.subscriptions ∧
      (∀ other, other ≠ sub.userId → after.userGroups other = store.userGroups other) ∧
      ∀ oldGroup group, Restorable oldGroup sub → trimSpace oldGroup = oldGroup → oldGroup ≠ "" →
        store.userGroups sub.userId = some group →
        ∃ next, after.userGroups sub.userId = some next ∧
          (LeadsBack oldGroup group sub next ∨
            (next = group ∧ (sub.upgradeGroup = "" ∨
              ∃ row ∈ store.subscriptions.rows, row.id ≠ sub.id ∧
                ActiveUpgrade sub.userId row))) := by
  unfold downgradeUserGroupForSubscription at called
  split_ifs at called with plain running
  · cases called
    refine ⟨rfl,fun _ _ => rfl,fun oldGroup group restorable _ _ found => ?_⟩
    exact ⟨group,found,.inr ⟨rfl,.inl (restorable.trimmed ▸ plain.2)⟩⟩
  · obtain ⟨current,-,kept⟩ := bind_succeeds_iff.mp called
    cases kept
    refine ⟨rfl,fun _ _ => rfl,fun oldGroup group _ _ _ found => ⟨group,found,.inr ⟨rfl,.inr ?_⟩⟩⟩
    rw [Bool.and_eq_true,hasActiveUpgrade,List.any_eq_true] at running
    obtain ⟨-,row,member,conditions⟩ := running
    simp only [decide_eq_true_eq] at conditions
    obtain ⟨owned,active,-,different,rowUpgraded⟩ := conditions
    exact ⟨row,member,fun same => different (congrArg some same),owned,active,rowUpgraded⟩
  · obtain ⟨current,reads,rest⟩ := bind_succeeds_iff.mp called
    obtain ⟨moved,moves,done⟩ := bind_succeeds_iff.mp rest
    cases done
    obtain ⟨sameRows,otherGroups,groups⟩ := moveUser_effect current moves
    refine ⟨sameRows,otherGroups,fun oldGroup group restorable oldTrimmed oldNamed found => ?_⟩
    obtain rfl := getUserGroupById_eq_ok found reads
    refine ⟨_,groups found,.inl (downgradeTarget_leadsBack restorable ?_ oldTrimmed oldNamed)⟩
    intro empty
    rw [restorable.noDowngrade,empty] at plain
    exact plain ⟨rfl,rfl⟩

variable {oldGroup : String} {before : GroupStore} {clock id : Int} {message : String}

structure Retires (oldGroup : String) (before after : GroupStore) (sub : UserSubscription) :
    Prop where
  member : sub ∈ before.subscriptions.rows
  kept : ∀ row, row.id ≠ sub.id →
    (row ∈ after.subscriptions.rows ↔ row ∈ before.subscriptions.rows)
  cancelled : ∀ row ∈ after.subscriptions.rows, row.id = sub.id →
    ∃ endTime, row = { sub with status := .cancelled, endTime := endTime }
  otherGroups : ∀ other, other ≠ sub.userId → after.userGroups other = before.userGroups other
  moved : Restorable oldGroup sub → ∀ group, before.userGroups sub.userId = some group →
    ∃ next, after.userGroups sub.userId = some next ∧
      (LeadsBack oldGroup group sub next ∨
        (next = group ∧ (sub.upgradeGroup = "" ∨
          ∃ row ∈ after.subscriptions.rows, ActiveUpgrade sub.userId row)))

theorem Retires.keeps (retires : Retires oldGroup before after sub)
    (invariant : GroupInvariant userId oldGroup ⟨before, clock⟩) (forward : clock ≤ now) :
    GroupInvariant userId oldGroup ⟨after, now⟩ := by
  by_cases owned : sub.userId = userId
  · subst owned
    obtain ⟨group,found,-⟩ := invariant.group
    have restorable := invariant.restorable sub retires.member rfl
    obtain ⟨next,foundNext,moved⟩ := retires.moved restorable group found
    refine invariant.retire forward ?_ ⟨next,foundNext,?_⟩
    · intro row inAfter rowOwned
      by_cases same : row.id = sub.id
      · obtain ⟨endTime,rfl⟩ := retires.cancelled row inAfter same
        exact .inr ⟨{ restorable with },by simp [ActiveUpgrade],by simp [ExpiredUpgrade]⟩
      · exact .inl ((retires.kept row same).mp inAfter)
    · refine invariant.group_of_retired retires.member found ?_ moved
      intro row active
      by_cases same : row.id = sub.id
      · refine ⟨fun inAfter => ?_,fun both => absurd same both.2⟩
        obtain ⟨endTime,rfl⟩ := retires.cancelled row inAfter same
        simp [ActiveUpgrade] at active
      · rw [retires.kept row same]
        exact ⟨fun inBefore => ⟨inBefore,same⟩,And.left⟩
  · refine invariant.frame ⟨fun row rowOwned => ?_,retires.otherGroups userId (Ne.symm owned)⟩ forward
    by_cases same : row.id = sub.id
    · constructor
      · intro inAfter
        obtain ⟨endTime,rfl⟩ := retires.cancelled row inAfter same
        exact absurd rowOwned owned
      · intro inBefore
        exact absurd (eq_of_key_eq inBefore retires.member same ▸ rowOwned) owned
    · exact retires.kept row same

theorem firstUserSubscription_eq_ok (called : firstUserSubscription fault id before = .ok sub) :
    sub ∈ before.subscriptions.rows ∧ sub.id = id := by
  unfold firstUserSubscription at called
  split at called
  · cases called
  · cases called
  · rename_i found
    cases called
    exact before.subscriptions.find?_eq_some_iff.mp found

theorem invalidate_retires (oldTrimmed : trimSpace oldGroup = oldGroup) (oldNamed : oldGroup ≠ "")
    (called : adminInvalidateUserSubscription faults now id before = (.ok message, after)) :
    ∃ sub, Retires oldGroup before after sub := by
  unfold adminInvalidateUserSubscription at called
  split_ifs at called
  · cases called
  obtain ⟨-,-,body⟩ := transaction_ok_iff.mp called
  simp only [bind_succeeds_iff] at body
  obtain ⟨sub,finds,written,writes,⟨target,moved⟩,downgrades,done⟩ := body
  cases done
  obtain ⟨-,rfl⟩ := attempt_eq_ok.mp writes
  obtain ⟨member,rfl⟩ := firstUserSubscription_eq_ok finds
  obtain ⟨sameRows,otherGroups,leadsBack⟩ := downgrade_effect downgrades
  have kept : ∀ row, row.id ≠ sub.id →
      (row ∈ moved.subscriptions.rows ↔ row ∈ before.subscriptions.rows) := by
    intro row different
    rw [sameRows,mem_save]
    constructor
    · rintro (⟨inBefore,-⟩ | ⟨rfl,-⟩)
      · exact inBefore
      · exact absurd rfl different
    · exact fun inBefore => .inl ⟨inBefore,different⟩
  refine ⟨sub,member,kept,?_,otherGroups,?_⟩
  · intro row inAfter same
    rw [sameRows,mem_save] at inAfter
    rcases inAfter with ⟨-,different⟩ | ⟨rfl,-⟩
    · exact absurd same different
    · exact ⟨now,rfl⟩
  · intro restorable group found
    obtain ⟨next,foundNext,outcome⟩ := leadsBack _ group restorable oldTrimmed oldNamed found
    refine ⟨next,foundNext,outcome.imp_right (And.imp_right (Or.imp_right ?_))⟩
    rintro ⟨row,inWritten,-,active⟩
    exact ⟨row,sameRows ▸ inWritten,active⟩

theorem delete_retires (oldTrimmed : trimSpace oldGroup = oldGroup) (oldNamed : oldGroup ≠ "")
    (called : adminDeleteUserSubscription faults now id before = (.ok message, after)) :
    ∃ sub, Retires oldGroup before after sub := by
  unfold adminDeleteUserSubscription at called
  split_ifs at called
  · cases called
  obtain ⟨-,-,body⟩ := transaction_ok_iff.mp called
  simp only [bind_succeeds_iff] at body
  obtain ⟨sub,finds,⟨target,moved⟩,downgrades,written,writes,done⟩ := body
  cases done
  obtain ⟨-,rfl⟩ := attempt_eq_ok.mp writes
  obtain ⟨member,rfl⟩ := firstUserSubscription_eq_ok finds
  obtain ⟨sameRows,otherGroups,leadsBack⟩ := downgrade_effect downgrades
  have kept : ∀ row, row.id ≠ sub.id → (row ∈ (moved.subscriptions.deleteWhere
      (·.id = sub.id)).rows ↔ row ∈ before.subscriptions.rows) := by
    intro row different
    rw [mem_deleteWhere,sameRows]
    simp [different]
  refine ⟨sub,member,kept,?_,otherGroups,?_⟩
  · intro row inAfter same
    simp [mem_deleteWhere,same] at inAfter
  · intro restorable group found
    obtain ⟨next,foundNext,outcome⟩ := leadsBack _ group restorable oldTrimmed oldNamed found
    refine ⟨next,foundNext,outcome.imp_right (And.imp_right (Or.imp_right ?_))⟩
    rintro ⟨row,inBefore,different,active⟩
    exact ⟨row,(kept row different).mpr inBefore,active⟩

variable {calendar : Calendar} {buyer : Int} {plan : SubscriptionPlan}

/-- What a purchase with this upgrade group does to the groups. -/
structure Raises (buyer : Int) (upgradeGroup prevGroup : String) (before after : GroupStore) :
    Prop where
  otherGroups : ∀ other, other ≠ buyer → after.userGroups other = before.userGroups other
  group : ∀ group, before.userGroups buyer = some group →
    (upgradeGroup = "" ∧ after.userGroups buyer = some group) ∨
      (upgradeGroup ≠ "" ∧ after.userGroups buyer = some upgradeGroup ∧
        (prevGroup = group ∨ (upgradeGroup = group ∧ prevGroup = "")))

theorem raiseUserGroup_effect {upgradeGroup prevGroup : String}
    (called : raiseUserGroup faults buyer upgradeGroup before = .ok (prevGroup, after)) :
    after.subscriptions = before.subscriptions ∧
      Raises buyer upgradeGroup prevGroup before after := by
  unfold raiseUserGroup at called
  split_ifs at called with plain
  · cases called
    exact ⟨rfl,fun _ _ => rfl,fun group found => .inl ⟨plain,found⟩⟩
  · obtain ⟨current,reads,rest⟩ := bind_succeeds_iff.mp called
    split_ifs at rest with same
    · cases rest
      refine ⟨rfl,fun _ _ => rfl,fun group found => .inr ?_⟩
      obtain rfl := getUserGroupById_eq_ok found reads
      exact ⟨plain,same ▸ found,.inr ⟨same.symm,rfl⟩⟩
    · obtain ⟨moved,moves,done⟩ := bind_succeeds_iff.mp rest
      cases done
      have effect := updateUserGroup_effect prevGroup moves
      refine ⟨effect.1,effect.2.1,fun group found => .inr ?_⟩
      obtain rfl := getUserGroupById_eq_ok found reads
      exact ⟨plain,effect.2.2 found,.inl rfl⟩

theorem purchase_effect
    (called : purchaseSubscription faults calendar now id buyer plan before = (.ok (), after)) :
    ∃ endUnix idPos prevGroup, calcPlanEndTime calendar now plan = .ok endUnix ∧
      (∀ row, row ∈ after.subscriptions.rows ↔ row ∈ before.subscriptions.rows ∨
        row = newSubscription calendar now endUnix id buyer idPos plan prevGroup) ∧
      Raises buyer (trimSpace plan.upgradeGroup) prevGroup before after := by
  obtain ⟨-,-,body⟩ := transaction_ok_iff.mp called
  obtain ⟨created,creates,done⟩ := bind_succeeds_iff.mp body
  cases done
  unfold createUserSubscriptionFromPlan at creates
  split_ifs at creates
  simp only [bind_succeeds_iff] at creates
  obtain ⟨-,-,endUnix,ends,⟨prevGroup,raised⟩,raises,inserts⟩ := creates
  obtain ⟨sameRows,raises⟩ := raiseUserGroup_effect raises
  unfold createSubscription at inserts
  split_ifs at inserts with valid
  obtain ⟨-,rfl⟩ := attempt_eq_ok.mp inserts
  refine ⟨endUnix,valid.1,prevGroup,ends,fun row => ?_,raises.otherGroups,raises.group⟩
  simp [KeyedTable.insert,sameRows]

theorem purchase_keeps (invariant : GroupInvariant userId oldGroup ⟨before, clock⟩)
    (forward : clock ≤ now) (noDowngrade : buyer = userId → trimSpace plan.downgradeGroup = "")
    (alone : buyer = userId → trimSpace plan.upgradeGroup ≠ "" →
      ∀ sub ∈ before.subscriptions.rows, ¬ ActiveUpgrade userId sub)
    (lasts : buyer = userId → trimSpace plan.upgradeGroup ≠ "" →
      ∀ endUnix, calcPlanEndTime calendar now plan = .ok endUnix → now < endUnix ∧ 0 < endUnix)
    (called : purchaseSubscription faults calendar now id buyer plan before = (.ok (), after)) :
    GroupInvariant userId oldGroup ⟨after, now⟩ := by
  obtain ⟨endUnix,idPos,prevGroup,ends,rows,otherGroups,groups⟩ := purchase_effect called
  obtain ⟨group,found,running,back⟩ := invariant.group
  by_cases owned : buyer = userId
  · subst owned
    rcases groups group found with ⟨plain,same⟩ | ⟨upgraded,raised,remembered⟩
    · refine invariant.retire forward ?_ ⟨group,same,?_,?_⟩
      · intro row inAfter rowOwned
        rcases (rows row).mp inAfter with inBefore | rfl
        · exact .inl inBefore
        · refine .inr ⟨⟨noDowngrade rfl,?_,?_⟩,?_,?_⟩
          · simp [newSubscription,trimSpace_idem]
          · simp [newSubscription,plain]
          · simp [ActiveUpgrade,newSubscription,plain]
          · simp [ExpiredUpgrade,newSubscription]
      · intro row inAfter active
        rcases (rows row).mp inAfter with inBefore | rfl
        · exact running row inBefore active
        · exact absurd plain active.2.2
      · intro noUpgrade
        apply back
        intro row inBefore active
        exact noUpgrade row ((rows row).mpr (.inl inBefore)) active
    · have noneActive := alone rfl upgraded
      have isOld : group = oldGroup := back noneActive
      obtain ⟨running,positive⟩ := lasts rfl upgraded endUnix ends
      have onlyNew : ∀ row ∈ after.subscriptions.rows, ActiveUpgrade buyer row →
          row = newSubscription calendar now endUnix id buyer idPos plan prevGroup := by
        intro row inAfter active
        exact ((rows row).mp inAfter).resolve_left fun inBefore => noneActive row inBefore active
      have expiredOld : ∀ row ∈ after.subscriptions.rows, ExpiredUpgrade buyer row →
          row ∈ before.subscriptions.rows := by
        intro row inAfter expired
        refine ((rows row).mp inAfter).resolve_right ?_
        rintro rfl
        simp [ExpiredUpgrade,newSubscription] at expired
      refine ⟨⟨trimSpace plan.upgradeGroup,raised,?_,?_⟩,?_,?_,?_,?_,?_⟩
      · intro row inAfter active
        rw [onlyNew row inAfter active]
        exact .inl rfl
      · intro noUpgrade
        refine absurd ?_ (noUpgrade _ ((rows _).mpr (.inr rfl)))
        exact ⟨rfl,rfl,upgraded⟩
      · intro row inAfter rowOwned
        rcases (rows row).mp inAfter with inBefore | rfl
        · exact invariant.restorable row inBefore rowOwned
        · refine ⟨noDowngrade rfl,by simp [newSubscription,trimSpace_idem],fun _ => ?_⟩
          exact isOld ▸ remembered
      · intro first firstMember second secondMember firstActive secondActive
        rw [onlyNew first firstMember firstActive,onlyNew second secondMember secondActive]
      · intro active activeMember expired expiredMember isActive isExpired
        have ended := invariant.past expired (expiredOld expired expiredMember isExpired) isExpired
        rw [onlyNew active activeMember isActive]
        exact lt_of_le_of_lt (ended.trans forward) running
      · intro expired member isExpired
        exact (invariant.past expired (expiredOld expired member isExpired) isExpired).trans forward
      · intro active member isActive
        rwa [onlyNew active member isActive]
  · refine invariant.frame ⟨fun row rowOwned => ?_,otherGroups userId (Ne.symm owned)⟩ forward
    rw [rows]
    constructor
    · rintro (inBefore | rfl)
      · exact inBefore
      · exact absurd rowOwned owned
    · exact Or.inl

end

end NewApi
