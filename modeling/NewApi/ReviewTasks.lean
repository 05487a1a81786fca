import NewApi.KeyedTable
import Mathlib.Data.List.MinMax

/-!
# Review tasks and the active slot of a user

The grace row points at the active task and remembers the last window selected for review. A task
that waits for the slot is parked: its retry time is an hour ahead. Here that marker is the flag
`draft`, which any later write of the retry time clears.
-/

namespace NewApi

inductive ReviewStatus where
  | pending
  | reviewing
  | compliant
  | violation
  | uncertain
  | skipped
  | failed
  | superseded
deriving DecidableEq, Repr

/-- The statuses that the worker completes a task with. -/
inductive ReviewVerdict where
  | compliant
  | violation
  | uncertain
  | superseded
deriving DecidableEq, Repr

def ReviewVerdict.status : ReviewVerdict → ReviewStatus
  | .compliant => .compliant
  | .violation => .violation
  | .uncertain => .uncertain
  | .superseded => .superseded

/-- How a task ends without a verdict, with the reason that is written to it. -/
inductive ReviewEnding where
  | failed
  | superseded (reason : String)
  | skipped (reason : String)
deriving DecidableEq, Repr

namespace ReviewEnding

def status : ReviewEnding → ReviewStatus
  | .failed => .failed
  | .superseded _ => .superseded
  | .skipped _ => .skipped

/-- A failure leaves the skip reason of the task as it is. -/
def skipReason (old : String) : ReviewEnding → String
  | .failed => old
  | .superseded reason => reason
  | .skipped reason => reason

end ReviewEnding

def skipReasonReviewDisabled : String := "review_disabled"

def skipReasonReviewUnavailable : String := "review_unavailable"

def isRecoverableSkipReason (reason : String) : Bool :=
  reason = skipReasonReviewUnavailable || reason = skipReasonReviewDisabled

structure ReviewTask where
  id : Nat
  status : ReviewStatus
  draft : Bool
  startedAt : Int
  skipReason : String
deriving DecidableEq, Repr

namespace ReviewTask

def active (task : ReviewTask) : Bool :=
  task.status = .pending || task.status = .reviewing

/-- The task occupies its user: it is under review, or waits for it without the marker. -/
def occupies (task : ReviewTask) : Bool :=
  task.status = .reviewing || (task.status = .pending && !task.draft)

theorem active_of_occupies {task : ReviewTask} (occupies : task.occupies = true) :
    task.active = true := by
  simp only [ReviewTask.occupies,active,Bool.or_eq_true,Bool.and_eq_true] at occupies ⊢
  tauto

/-- A new task, parked until the slot is bound to it. -/
def parked (id : Nat) : ReviewTask where
  id := id
  status := .pending
  draft := true
  startedAt := 0
  skipReason := ""

/-- A new task for the record only. -/
def skippedWith (reason : String) : ReviewTask where
  id := 0
  status := .skipped
  draft := false
  startedAt := 0
  skipReason := reason

/-- The statuses from which `RetryLLMReviewTask` starts over, before it looks at the
configuration. -/
def retryable (task : ReviewTask) : Bool :=
  task.status = .failed || task.status = .uncertain ||
    (task.status = .skipped && isRecoverableSkipReason task.skipReason)

end ReviewTask

structure ReviewWindow where
  startAt : Int
  endAt : Int
  now : Int
  skipReason : String
deriving DecidableEq, Repr

def ReviewWindow.valid (window : ReviewWindow) : Bool :=
  0 < window.startAt && window.startAt < window.endAt && 0 < window.now

inductive WindowError where
  /-- `ErrLLMReviewTaskNoLongerActive`: the transaction is tried once more. -/
  | noLongerActive
  | failed
deriving DecidableEq, Repr

/-- The tasks of a user and the columns of the grace row. -/
structure ReviewStore where
  tasks : KeyedTable ReviewTask.id
  activeTaskId : Nat
  windowStartAt : Int
  windowEndAt : Int
  windowTaskId : Nat
  nextId : Nat

namespace ReviewStore

def empty : ReviewStore where
  tasks := ⟨[], by simp⟩
  activeTaskId := 0
  windowStartAt := 0
  windowEndAt := 0
  windowTaskId := 0
  nextId := 1

variable (store : ReviewStore)

def updateWhere (wanted : ReviewTask → Bool)
    (change : ReviewTask → ReviewTask) (sameId : ∀ task, (change task).id = task.id) :
    ReviewStore :=
  { store with
    tasks := store.tasks.updateAll (fun task => if wanted task then change task else task) fun task => by
      split
      · exact sameId task
      · rfl }

/-- The id that `DB.Create` gives to a task: its own, or the next automatic one. -/
def newId (given : Nat) : Nat :=
  if given = 0 then store.nextId else given

/-- `DB.Create`; a taken id is refused. -/
def create (task : ReviewTask) : Option ReviewStore :=
  let stored := { task with id := store.newId task.id }
  if free : store.tasks.find? stored.id = none then
    some { store with
      tasks := store.tasks.insert stored free
      nextId := max store.nextId (stored.id + 1) }
  else none

def delete (id : Nat) : ReviewStore :=
  { store with tasks := store.tasks.deleteWhere (·.id = id) }

def withSlot (id : Nat) : ReviewStore :=
  { store with activeTaskId := id }

def claimActiveReviewSlot (id : Nat) : ReviewStore :=
  if store.activeTaskId = 0 then store.withSlot id else store

/-- `ReleaseActiveReviewSlot`: the id 0 clears whatever the slot holds. -/
def releaseActiveReviewSlot (id : Nat) : ReviewStore :=
  if id = 0 ∨ store.activeTaskId = id then store.withSlot 0 else store

def clearMarker (id : Nat) : ReviewStore :=
  store.updateWhere (·.id = id) (fun task => { task with draft := false }) fun _ => rfl

def claimTask (id : Nat) (now : Int) : ReviewStore :=
  store.updateWhere (fun task => task.id = id && task.status = .pending)
    (fun task => { task with status := .reviewing, startedAt := now }) fun _ => rfl

def markRetry (id : Nat) : ReviewStore :=
  store.updateWhere (fun task => task.id = id && task.status = .reviewing)
    (fun task => { task with status := .pending, draft := false }) fun _ => rfl

def releaseTask (id : Nat) : ReviewStore :=
  store.updateWhere (fun task => task.id = id && task.status = .reviewing)
    (fun task => { task with status := .pending, startedAt := 0 }) fun _ => rfl

def recoverStale (cutoff : Int) : ReviewStore :=
  store.updateWhere
    (fun task => task.status = .reviewing && 0 < task.startedAt && task.startedAt < cutoff)
    (fun task => { task with status := .pending, startedAt := 0 }) fun _ => rfl

/-- The first statement of `CompleteLLMReviewTask`. -/
def writeVerdict (id : Nat) (verdict : ReviewVerdict) : ReviewStore :=
  store.updateWhere (fun task => task.id = id && task.status = .reviewing)
    (fun task => { task with status := verdict.status }) fun _ => rfl

/-- The last statement of `FailLLMReviewTask`, `MarkLLMReviewTaskSuperseded` and
`MarkLLMReviewTaskSkipped`, which looks at the id only. -/
def endTask (id : Nat) (ending : ReviewEnding) : ReviewStore :=
  store.updateWhere (·.id = id)
    (fun task => { task with
      status := ending.status
      skipReason := ending.skipReason task.skipReason }) fun _ => rfl

/-- The last statement of `CancelPendingLLMReviewTasks`. -/
def supersedePending (reason : String) : ReviewStore :=
  store.updateWhere (·.status = .pending)
    (fun task => { task with status := .superseded, skipReason := reason }) fun _ => rfl

def pointsAtActive : Bool :=
  (store.tasks.find? store.activeTaskId).any ReviewTask.active

def newestActive : Option ReviewTask :=
  (store.tasks.rows.filter ReviewTask.active).argmax ReviewTask.id

def getActiveTask : Option ReviewTask :=
  if 0 < store.activeTaskId && store.pointsAtActive then store.tasks.find? store.activeTaskId
  else store.newestActive

def clearStaleActiveReviewSlot : Option ReviewStore :=
  if store.activeTaskId = 0 then some store
  else if store.pointsAtActive then none
  else some (store.withSlot 0)

/-- The slot is moved to a task, unless it points at another active one. -/
def rebindSlot (id : Nat) : Option ReviewStore :=
  if store.activeTaskId = id then some store
  else store.clearStaleActiveReviewSlot.map (·.claimActiveReviewSlot id)

def bindRPMActiveReviewSlot (id : Nat) : Option ReviewStore :=
  store.rebindSlot id

def bindRetryActiveReviewSlot (id : Nat) : Option ReviewStore :=
  store.rebindSlot id

/-- The transaction of `RetryLLMReviewTask`; `ready` is what the configuration says. -/
def retryTask (id : Nat) (ready : Bool) : Option ReviewStore :=
  match store.tasks.find? id with
  | none => none
  | some task =>
    if !task.retryable || (task.status = .skipped && !ready) then none
    else if store.getActiveTask.any (·.id ≠ id) then none
    else (store.bindRetryActiveReviewSlot id).map fun bound =>
      bound.updateWhere (·.id = id)
        (fun stored => { stored with status := .pending, draft := false, startedAt := 0, skipReason := "" })
        fun _ => rfl

/-- The conditional `UPDATE` that selects a window finds it free and new. -/
def selectsWindow (window : ReviewWindow) : Bool :=
  (store.windowEndAt = 0 || store.windowEndAt ≤ window.now) &&
    (store.windowStartAt ≠ window.startAt || store.windowEndAt ≠ window.endAt)

def withWindow (window : ReviewWindow) : ReviewStore :=
  { store with windowStartAt := window.startAt, windowEndAt := window.endAt, windowTaskId := 0 }

/-- `bindRPMReviewWindowTask`, in the transaction that has just selected the window. -/
def withWindowTask (id : Nat) : ReviewStore :=
  { store with windowTaskId := id }

/-- A new task takes the free slot and the window, and is no longer parked. -/
def createForWindow : Except WindowError ReviewStore :=
  match store.create (.parked 0) with
  | none => .error .failed
  | some created =>
    let id := store.newId 0
    if created.activeTaskId = 0 then .ok (((created.withSlot id).withWindowTask id).clearMarker id)
    else .error .failed

def enqueueForWindow (window : ReviewWindow) :
    Except WindowError ReviewStore :=
  if !store.selectsWindow window then .ok store
  else
    let selected := store.withWindow window
    if window.skipReason ≠ "" then
      -- The skipped event leaves its record and does not look at the slot.
      match selected.create (.skippedWith window.skipReason) with
      | none => .error .failed
      | some created => .ok (created.withWindowTask (selected.newId 0))
    else
      match selected.getActiveTask with
      | some task =>
        match selected.bindRPMActiveReviewSlot task.id with
        | none => .error .noLongerActive
        | some bound => .ok (bound.withWindowTask task.id)
      | none =>
        match selected.clearStaleActiveReviewSlot with
        | none => .error .noLongerActive
        | some cleared => cleared.createForWindow

end ReviewStore

end NewApi
