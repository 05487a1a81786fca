import NewApi.ReviewTasks

/-!
# What a statement does to the active slot

At most one task occupies a user, and the slot points at it. Three kinds of
statement can break this rule: releasing the slot, claiming a task and clearing
the marker of a parked task.
-/

namespace NewApi

open ReviewStore

/-- A statement on the tasks or the grace row; a transaction counts as one. -/
inductive ReviewStatement where
  | createParked (id : Nat)
  | createSkipped (reason : String)
  | delete (id : Nat)
  | claimSlot (id : Nat)
  | releaseSlot (id : Nat)
  | clearMarker (id : Nat)
  | claim (id : Nat) (now : Int)
  | markRetry (id : Nat)
  | release (id : Nat)
  | recoverStale (cutoff : Int)
  | writeVerdict (id : Nat) (verdict : ReviewVerdict)
  | finish (id : Nat) (ending : ReviewEnding)
  | supersedePending (reason : String)
  | retry (id : Nat) (ready : Bool)
  | enqueueForWindow (window : ReviewWindow)
deriving DecidableEq, Repr

def ReviewStatement.exec (store : ReviewStore) : ReviewStatement → ReviewStore
  | .createParked id => (store.create (.parked id)).getD store
  | .createSkipped reason => (store.create (.skippedWith reason)).getD store
  | .delete id => store.delete id
  | .claimSlot id => store.claimActiveReviewSlot id
  | .releaseSlot id => store.releaseActiveReviewSlot id
  | .clearMarker id => store.clearMarker id
  | .claim id now => store.claimTask id now
  | .markRetry id => store.markRetry id
  | .release id => store.releaseTask id
  | .recoverStale cutoff => store.recoverStale cutoff
  | .writeVerdict id verdict => store.writeVerdict id verdict
  | .finish id ending => store.endTask id ending
  | .supersedePending reason => store.supersedePending reason
  | .retry id ready => (store.retryTask id ready).getD store
  | .enqueueForWindow window =>
    match store.enqueueForWindow window with
    | .ok after => after
    | .error _ => store

namespace ReviewStore

def SlotHeld (store : ReviewStore) : Prop :=
  ∀ task ∈ store.tasks.rows, task.occupies = true → store.activeTaskId = task.id

def SingleActive (store : ReviewStore) : Prop :=
  (∀ first ∈ store.tasks.rows, ∀ second ∈ store.tasks.rows,
    first.occupies = true → second.occupies = true → first = second) ∧ store.SlotHeld

instance (store : ReviewStore) : Decidable store.SlotHeld :=
  inferInstanceAs (Decidable (∀ task ∈ store.tasks.rows, _ → _))

instance (store : ReviewStore) : Decidable store.SingleActive :=
  inferInstanceAs (Decidable ((∀ first ∈ store.tasks.rows, ∀ second ∈ store.tasks.rows, _) ∧ _))

theorem singleActive_iff {store : ReviewStore} : store.SingleActive ↔ store.SlotHeld := by
  constructor
  · exact And.right
  · intro held
    refine ⟨fun first firstMember second secondMember firstOccupies secondOccupies => ?_,held⟩
    have firstSlot := held first firstMember firstOccupies
    have secondSlot := held second secondMember secondOccupies
    exact KeyedTable.eq_of_key_eq firstMember secondMember (firstSlot.symm.trans secondSlot)

/-- Ids are never 0, the value of a free slot. -/
structure Numbered (store : ReviewStore) : Prop where
  tasks : ∀ task ∈ store.tasks.rows, 0 < task.id
  next : 0 < store.nextId

structure Consistent (store : ReviewStore) : Prop extends store.Numbered where
  held : store.SlotHeld

theorem consistent_empty : empty.Consistent where
  tasks := by simp [empty]
  next := by simp [empty]
  held := by simp [SlotHeld,empty]

section

variable {store after : ReviewStore}
  {wanted : ReviewTask → Bool} {change : ReviewTask → ReviewTask} {task : ReviewTask}
  {id : Nat}

theorem forall_mem_updateWhere {sameId : ∀ task, (change task).id = task.id}
    {Holds : ReviewTask → Prop} :
    (∀ task ∈ (store.updateWhere wanted change sameId).tasks.rows, Holds task) ↔
      ∀ stored ∈ store.tasks.rows, Holds (if wanted stored then change stored else stored) := by
  simp [updateWhere,KeyedTable.updateAll]

theorem Numbered.updateWhere (numbered : store.Numbered)
    (sameId : ∀ task, (change task).id = task.id) :
    (store.updateWhere wanted change sameId).Numbered where
  tasks := by
    rw [forall_mem_updateWhere]
    intro stored member
    split
    · rw [sameId]
      exact numbered.tasks stored member
    · exact numbered.tasks stored member
  next := numbered.next

/-- An update keeps the slot held exactly when the slot points at the changed tasks that
occupy the user afterwards. -/
theorem slotHeld_updateWhere (held : store.SlotHeld) {sameId : ∀ task, (change task).id = task.id} :
    (store.updateWhere wanted change sameId).SlotHeld ↔
      ∀ stored ∈ store.tasks.rows, wanted stored = true → (change stored).occupies = true →
        store.activeTaskId = stored.id := by
  rw [SlotHeld,forall_mem_updateWhere]
  refine forall₂_congr fun stored member => ?_
  by_cases hit : wanted stored
  · simp [hit,sameId,updateWhere]
  · simpa [hit,updateWhere] using held stored member

theorem Consistent.updateWhere (consistent : store.Consistent)
    (sameId : ∀ task, (change task).id = task.id)
    (pointed : ∀ stored ∈ store.tasks.rows, wanted stored = true →
      (change stored).occupies = true → store.activeTaskId = stored.id) :
    (store.updateWhere wanted change sameId).Consistent where
  toNumbered := consistent.toNumbered.updateWhere sameId
  held := (slotHeld_updateWhere consistent.held).mpr pointed

/-- No task starts to occupy the user. -/
theorem Consistent.updateWhere_of_shrinks (consistent : store.Consistent)
    (sameId : ∀ task, (change task).id = task.id)
    (shrinks : ∀ stored, wanted stored = true → (change stored).occupies = true →
      stored.occupies = true) :
    (store.updateWhere wanted change sameId).Consistent :=
  consistent.updateWhere sameId fun stored member hit occupies =>
    consistent.held stored member (shrinks stored hit occupies)

theorem newId_pos (numbered : store.Numbered) (given : Nat) : 0 < store.newId given := by
  have := numbered.next
  unfold newId
  split <;> omega

theorem create_effect (created : store.create task = some after) :
    after.activeTaskId = store.activeTaskId ∧ store.nextId ≤ after.nextId ∧
      ∀ row ∈ after.tasks.rows,
        row ∈ store.tasks.rows ∨ row = { task with id := store.newId task.id } := by
  simp only [create,Option.dite_none_right_eq_some,Option.some.injEq] at created
  obtain ⟨free,rfl⟩ := created
  refine ⟨rfl,le_max_left _ _,fun row member => ?_⟩
  simpa [KeyedTable.insert] using member

theorem Consistent.create (consistent : store.Consistent) (idle : task.occupies = false)
    (created : store.create task = some after) : after.Consistent := by
  obtain ⟨slot,next,rows⟩ := create_effect created
  refine ⟨⟨fun row member => ?_,lt_of_lt_of_le consistent.next next⟩,fun row member occupies => ?_⟩
  · rcases rows row member with old | rfl
    · exact consistent.tasks row old
    · exact newId_pos consistent.toNumbered task.id
  · rcases rows row member with old | rfl
    · rw [slot]
      exact consistent.held row old occupies
    · have := idle.symm.trans (occupies : task.occupies = true)
      contradiction

theorem Consistent.delete (consistent : store.Consistent) (id : Nat) :
    (store.delete id).Consistent where
  tasks task member := consistent.tasks task (store.tasks.mem_deleteWhere.mp member).1
  next := consistent.next
  held task member := consistent.held task (store.tasks.mem_deleteWhere.mp member).1

theorem Consistent.withSlot (consistent : store.Consistent)
    (only : ∀ task ∈ store.tasks.rows, task.occupies = true → id = task.id) :
    (store.withSlot id).Consistent where
  tasks := consistent.tasks
  next := consistent.next
  held := only

theorem Numbered.releaseActiveReviewSlot (numbered : store.Numbered) (id : Nat) :
    (store.releaseActiveReviewSlot id).Numbered := by
  unfold ReviewStore.releaseActiveReviewSlot
  split
  · exact ⟨numbered.tasks,numbered.next⟩
  · exact numbered

section

variable (consistent : store.Consistent)

include consistent

theorem Consistent.withWindowTask (id : Nat) :
    (store.withWindowTask id).Consistent :=
  ⟨⟨consistent.tasks,consistent.next⟩,consistent.held⟩

theorem Consistent.withSlot_of_free
    (free : store.activeTaskId = 0) (id : Nat) : (store.withSlot id).Consistent := by
  apply consistent.withSlot
  intro task member occupies
  have slot := consistent.held task member occupies
  have positive := consistent.tasks task member
  omega

theorem Consistent.claimActiveReviewSlot (id : Nat) :
    (store.claimActiveReviewSlot id).Consistent := by
  unfold ReviewStore.claimActiveReviewSlot
  split
  case isTrue free => exact consistent.withSlot_of_free free id
  case isFalse => exact consistent

theorem Consistent.getActiveTask_eq
    (member : task ∈ store.tasks.rows) (occupies : task.occupies = true) :
    store.getActiveTask = some task := by
  have slot := consistent.held task member occupies
  have positive := consistent.tasks task member
  have found := KeyedTable.find?_of_mem member
  have active := ReviewTask.active_of_occupies occupies
  simp [getActiveTask,pointsAtActive,found,active,slot,positive]

end

theorem clearStaleActiveReviewSlot_eq (cleared : store.clearStaleActiveReviewSlot = some after) :
    after = store.withSlot 0 := by
  unfold clearStaleActiveReviewSlot at cleared
  split at cleared
  case isTrue free =>
    obtain rfl := Option.some.inj cleared
    simp [withSlot,← free]
  case isFalse =>
    split at cleared
    · cases cleared
    · exact (Option.some.inj cleared).symm

theorem rebindSlot_eq (bound : store.rebindSlot id = some after) :
    after = store.withSlot id := by
  unfold rebindSlot at bound
  split at bound
  case isTrue same =>
    obtain rfl := Option.some.inj bound
    simp [withSlot,← same]
  case isFalse =>
    obtain ⟨cleared,clears,rfl⟩ := Option.map_eq_some_iff.mp bound
    obtain rfl := clearStaleActiveReviewSlot_eq clears
    simp [claimActiveReviewSlot,withSlot]

theorem retryTask_effect {ready : Bool} (retried : store.retryTask id ready = some after) :
    store.getActiveTask.any (·.id ≠ id) = false ∧ ∃ change sameId,
      after = (store.withSlot id).updateWhere (·.id = id) change sameId := by
  revert retried
  fun_cases ReviewStore.retryTask store id ready with
  | case4 task found retryable alone =>
    intro retried
    obtain ⟨bound,binds,rfl⟩ := Option.map_eq_some_iff.mp retried
    obtain rfl := rebindSlot_eq binds
    exact ⟨Bool.eq_false_iff.mpr alone,_,_,rfl⟩
  | _ => nofun

theorem Consistent.retryTask (consistent : store.Consistent) {ready : Bool}
    (retried : store.retryTask id ready = some after) : after.Consistent := by
  obtain ⟨alone,change,sameId,rfl⟩ := retryTask_effect retried
  -- Whatever occupies the user is the task that is retried.
  have only : ∀ other ∈ store.tasks.rows, other.occupies = true → id = other.id := by
    intro other member occupies
    rw [consistent.getActiveTask_eq member occupies] at alone
    simp only [Option.any_some,decide_eq_false_iff_not,not_not] at alone
    exact alone.symm
  refine (consistent.withSlot only).updateWhere sameId ?_
  intro stored _ hit _
  exact (of_decide_eq_true hit).symm

theorem Consistent.createForWindow (consistent : store.Consistent)
    (created : store.createForWindow = .ok after) : after.Consistent := by
  revert created
  fun_cases ReviewStore.createForWindow store with
  | case2 next creates _ free =>
    rintro ⟨⟩
    have parked := consistent.create (rfl : (ReviewTask.parked 0).occupies = false) creates
    have bound := parked.withSlot_of_free free (store.newId 0)
    refine (bound.withWindowTask (store.newId 0)).updateWhere (by intro; rfl) ?_
    intro stored _ hit _
    exact (of_decide_eq_true hit).symm
  | _ => nofun

theorem Consistent.enqueueForWindow (consistent : store.Consistent) {window : ReviewWindow}
    (enqueued : store.enqueueForWindow window = .ok after) : after.Consistent := by
  have selected : (store.withWindow window).Consistent :=
    ⟨⟨consistent.tasks,consistent.next⟩,consistent.held⟩
  revert enqueued
  fun_cases ReviewStore.enqueueForWindow store window with
  | case1 =>
    rintro ⟨⟩
    exact consistent
  | case3 _ _ _ created creates =>
    -- a skipped event
    rintro ⟨⟩
    exact (selected.create rfl creates).withWindowTask _
  | case5 _ _ _ task found bound binds =>
    -- an active task takes the event
    rintro ⟨⟩
    obtain rfl := rebindSlot_eq binds
    apply Consistent.withWindowTask
    apply selected.withSlot
    intro other member occupies
    rw [selected.getActiveTask_eq member occupies] at found
    rw [Option.some.inj found]
  | case7 _ _ _ nothing cleared clears =>
    -- no task is active, so a new one is made
    obtain rfl := clearStaleActiveReviewSlot_eq clears
    refine Consistent.createForWindow (selected.withSlot fun other member occupies => ?_)
    rw [selected.getActiveTask_eq member occupies] at nothing
    cases nothing
  | _ => nofun

end

end ReviewStore

namespace ReviewStatement

theorem getD_of_forall {Holds : ReviewStore → Prop} {store : ReviewStore}
    {result : Option ReviewStore} (before : Holds store)
    (accepted : ∀ after, result = some after → Holds after) : Holds (result.getD store) := by
  cases result with
  | none => exact before
  | some after => exact accepted after rfl

def KeepsSlot (store : ReviewStore) : ReviewStatement → Prop
  | .clearMarker id | .claim id _ =>
    -- A waiting task that is still parked has the slot.
    ∀ task ∈ store.tasks.rows, task.id = id → task.status = .pending → task.draft = true →
      store.activeTaskId = id
  | .releaseSlot id =>
    -- The slot is not taken from a task that occupies the user.
    id = 0 ∨ store.activeTaskId = id →
      ∀ task ∈ store.tasks.rows, task.id = store.activeTaskId → task.occupies = false
  | _ => True

variable {store : ReviewStore} (consistent : store.Consistent)

include consistent

variable (id : Nat) {statement : ReviewStatement}

theorem releaseSlot_held :
    (store.releaseActiveReviewSlot id).SlotHeld ↔ (releaseSlot id).KeepsSlot store := by
  unfold releaseActiveReviewSlot KeepsSlot
  split
  case isFalse kept => simp [kept,consistent.held]
  case isTrue cleared =>
    simp only [cleared,forall_const]
    refine forall₂_congr fun task member => ?_
    have positive := consistent.tasks task member
    have held := consistent.held task member
    cases occupies : task.occupies
    · simp
    · have slot := held occupies
      have taken : 0 ≠ task.id := by omega
      simp [withSlot,slot,taken]

theorem clearMarker_held : (store.clearMarker id).SlotHeld ↔ (clearMarker id).KeepsSlot store := by
  unfold ReviewStore.clearMarker KeepsSlot
  rw [ReviewStore.slotHeld_updateWhere consistent.held]
  refine forall₂_congr fun task member => ?_
  have held := consistent.held task member
  simp only [decide_eq_true_eq,ReviewTask.occupies] at held ⊢
  constructor
  · rintro pointed rfl pending -
    exact pointed rfl (by simp [pending])
  · rintro pointed rfl occupies
    cases marker : task.draft
    · exact held (by simpa [marker] using occupies)
    · by_cases reviewing : task.status = .reviewing
      · exact held (by simp [reviewing])
      · exact pointed rfl (by simpa [reviewing] using occupies) marker

theorem claim_held (now : Int) :
    (store.claimTask id now).SlotHeld ↔ (claim id now).KeepsSlot store := by
  unfold claimTask KeepsSlot
  rw [slotHeld_updateWhere consistent.held]
  refine forall₂_congr fun task member => ?_
  have held := consistent.held task member
  simp only [Bool.and_eq_true,decide_eq_true_eq,and_imp,ReviewTask.occupies] at held ⊢
  constructor
  · rintro pointed rfl pending -
    exact pointed rfl pending (by simp)
  · rintro pointed rfl pending -
    cases marker : task.draft
    · exact held (by simp [pending,marker])
    · exact pointed rfl pending marker

theorem exec_consistent (keeps : statement.KeepsSlot store) :
    (statement.exec store).Consistent := by
  cases statement with
  | createParked id | createSkipped reason =>
    exact getD_of_forall consistent fun _ => consistent.create rfl
  | delete id => exact consistent.delete id
  | claimSlot id => exact consistent.claimActiveReviewSlot id
  | releaseSlot id =>
    exact ⟨consistent.toNumbered.releaseActiveReviewSlot id,
      (releaseSlot_held consistent id).mpr keeps⟩
  | clearMarker id =>
    exact ⟨consistent.toNumbered.updateWhere (by intro; rfl),
      (clearMarker_held consistent id).mpr keeps⟩
  | claim id now =>
    exact ⟨consistent.toNumbered.updateWhere (by intro; rfl),
      (claim_held consistent id now).mpr keeps⟩
  | markRetry id | release id | recoverStale cutoff =>
    -- A task under review goes back to the queue.
    refine consistent.updateWhere_of_shrinks (by intro; rfl) ?_
    intro stored hit _
    simp only [Bool.and_eq_true] at hit
    simp [ReviewTask.occupies,hit]
  | writeVerdict id verdict =>
    refine consistent.updateWhere_of_shrinks (by intro; rfl) ?_
    intro stored _ occupies
    cases verdict <;> simp [ReviewTask.occupies,ReviewVerdict.status] at occupies
  | finish id ending =>
    refine consistent.updateWhere_of_shrinks (by intro; rfl) ?_
    intro stored _ occupies
    cases ending <;> simp [ReviewTask.occupies,ReviewEnding.status] at occupies
  | supersedePending =>
    refine consistent.updateWhere_of_shrinks (by intro; rfl) ?_
    intro stored _ occupies
    simp [ReviewTask.occupies] at occupies
  | retry => exact getD_of_forall consistent fun _ => consistent.retryTask
  | enqueueForWindow =>
    dsimp only [exec]
    split
    case h_1 after enqueued => exact consistent.enqueueForWindow enqueued
    case h_2 => exact consistent

theorem keepsSlot_of_held (held : (statement.exec store).SlotHeld) : statement.KeepsSlot store := by
  cases statement with
  | releaseSlot id => exact (releaseSlot_held consistent id).mp held
  | clearMarker id => exact (clearMarker_held consistent id).mp held
  | claim id now => exact (claim_held consistent id now).mp held
  | _ => trivial

end ReviewStatement

end NewApi
