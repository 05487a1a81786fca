import NewApi.Interleaving
import NewApi.ReviewSlot

/-! # The calls that move review tasks -/

namespace NewApi

open GuardedRuns Interleaving

/-- Where a call is between two of its statements. -/
inductive ReviewCall where
  | idle
  -- `enqueueLLMReviewTask`; `retry` says whether an inconsistent slot may be reset
  | creating (id : Nat) (retry : Bool)
  | binding (id : Nat) (retry : Bool)
  | clearing (id : Nat)
  | unbinding (id : Nat)
  | discarding (id : Nat)
  | dropping (id : Nat) (retry : Bool)
  | readingSlot (id : Nat) (retry : Bool)
  | readingTask (id : Nat) (retry : Bool) (slot : Nat)
  | scanning (id : Nat) (retry : Bool)
  | resetting (id : Nat)
  -- `EnqueueLLMReviewTaskForRPMWindow`, with the attempts that are left
  | selecting (window : ReviewWindow) (attempts : Nat)
  -- `CompleteLLMReviewTask`, after the verdict is written
  | completed (id : Nat)
  -- `FailLLMReviewTask`, `MarkLLMReviewTaskSuperseded`, `MarkLLMReviewTaskSkipped`
  | ending (id : Nat) (ending : ReviewEnding)
  | releasing (id : Nat) (ending : ReviewEnding)
  | released (id : Nat) (ending : ReviewEnding)
  -- `DeleteLLMReviewTask`
  | deleting (id : Nat)
  | unslotting (id : Nat)
  -- `CancelPendingLLMReviewTasks`
  | cancelling (reason : String)
  | cancelReleasing (id : Nat) (reason : String)
  | superseding (reason : String)
  -- `RetryLLMReviewTask`
  | retrying (id : Nat) (ready : Bool)
deriving DecidableEq, Repr

/-- A new call, the next statement of the call, or its failure. -/
inductive ReviewChoice where
  | enqueue
  | enqueueForWindow (window : ReviewWindow)
  | claim (id : Nat) (now : Int)
  | markRetry (id : Nat)
  | release (id : Nat)
  | recoverStale (cutoff : Int)
  | complete (id : Nat) (verdict : ReviewVerdict)
  | fail (id : Nat)
  | supersede (id : Nat) (reason : String)
  | skip (id : Nat) (reason : String)
  | cancelPending (reason : String)
  | delete (id : Nat)
  | retry (id : Nat) (ready : Bool)
  | next
  | error
deriving DecidableEq, Repr

namespace ReviewStore

def oldestPending (store : ReviewStore) : Option ReviewTask :=
  (store.tasks.rows.filter (·.status = .pending)).argmin ReviewTask.id

/-- After the search for an active task: its absence proves the slot inconsistent, which
is repaired once. -/
def afterScan (store : ReviewStore) (id : Nat) (retry : Bool) : ReviewCall :=
  if store.newestActive.isSome || !retry then .idle else .resetting id

/-- The transaction failed because its task was no longer active. -/
def losesWindow (store : ReviewStore) (window : ReviewWindow) : Bool :=
  match store.enqueueForWindow window with
  | .error .noLongerActive => true
  | _ => false

def act (store : ReviewStore) : ReviewCall → ReviewChoice → Option ReviewStatement × ReviewCall
  -- `enqueueLLMReviewTask`
  | .idle, .enqueue => (none, .creating 0 true)
  | .creating id retry, .next =>
    if (store.create (.parked id)).isSome then
      (some (.createParked id), .binding (store.newId id) retry)
    else (none, .idle)
  | .binding id retry, .next =>
    (some (.claimSlot id), if store.activeTaskId = 0 then .clearing id else .dropping id retry)
  | .binding id _, .error => (none, .discarding id)
  | .clearing id, .next => (some (.clearMarker id), .idle)
  | .clearing id, .error => (none, .unbinding id)
  | .unbinding id, .next => (some (.releaseSlot id), .discarding id)
  | .unbinding id, .error => (none, .discarding id)
  | .discarding id, .next => (some (.delete id), .idle)
  | .dropping id retry, .next => (some (.delete id), .readingSlot id retry)
  | .dropping id retry, .error => (none, .readingSlot id retry)
  | .readingSlot id retry, .next =>
    (none, if store.activeTaskId = 0 then .scanning id retry
      else .readingTask id retry store.activeTaskId)
  | .readingTask id retry slot, .next =>
    -- An active task takes the event.
    (none, if (store.tasks.find? slot).any ReviewTask.active then .idle else .scanning id retry)
  | .readingTask id retry _, .error => (none, .scanning id retry)
  | .scanning id retry, .next => (none, store.afterScan id retry)
  | .resetting id, .next => (some (.releaseSlot 0), .creating id false)
  | .resetting id, .error => (none, .creating id false)
  -- `EnqueueLLMReviewTaskForRPMWindow`
  | .idle, .enqueueForWindow window => (none, if window.valid then .selecting window 2 else .idle)
  | .selecting window (attempts + 1), .next =>
    (some (.enqueueForWindow window),
      if store.losesWindow window then .selecting window attempts else .idle)
  | .selecting _ 0, .next => (none, .idle)
  -- the worker
  | .idle, .claim id now => (some (.claim id now), .idle)
  | .idle, .markRetry id => (some (.markRetry id), .idle)
  | .idle, .release id => (some (.release id), .idle)
  | .idle, .recoverStale cutoff => (some (.recoverStale cutoff), .idle)
  -- `CompleteLLMReviewTask` does not look at the number of rows it has written.
  | .idle, .complete id verdict => (some (.writeVerdict id verdict), .completed id)
  | .completed id, .next => (some (.releaseSlot id), .idle)
  -- `FailLLMReviewTask` and `MarkLLMReviewTaskSuperseded` read the task first
  | .idle, .fail id => (none, .ending id .failed)
  | .idle, .supersede id reason => (none, .ending id (.superseded reason))
  | .ending id ending, .next =>
    (none, if (store.tasks.find? id).isSome then .releasing id ending else .idle)
  -- `MarkLLMReviewTaskSkipped` creates a task that was not saved before
  | .idle, .skip id reason =>
    if id = 0 then (some (.createSkipped reason), .idle) else (none, .releasing id (.skipped reason))
  -- The slot is released before the status is written, and a failure to do so is ignored.
  | .releasing id ending, .next => (some (.releaseSlot id), .released id ending)
  | .releasing id ending, .error => (none, .released id ending)
  | .released id ending, .next => (some (.finish id ending), .idle)
  -- `CancelPendingLLMReviewTasks`
  | .idle, .cancelPending reason => (none, .cancelling reason)
  | .cancelling reason, .next =>
    (none, match store.oldestPending with
      | some task => .cancelReleasing task.id reason
      | none => .superseding reason)
  | .cancelling reason, .error => (none, .superseding reason)
  | .cancelReleasing id reason, .next => (some (.releaseSlot id), .superseding reason)
  | .cancelReleasing _ reason, .error => (none, .superseding reason)
  | .superseding reason, .next => (some (.supersedePending reason), .idle)
  -- `DeleteLLMReviewTask`
  | .idle, .delete id => (none, .deleting id)
  | .deleting id, .next => (none, if (store.tasks.find? id).isSome then .unslotting id else .idle)
  | .unslotting id, .next => (some (.releaseSlot id), .discarding id)
  | .unslotting id, .error => (none, .discarding id)
  -- `RetryLLMReviewTask`
  | .idle, .retry id ready =>
    (none, if (store.tasks.find? id).any ReviewTask.retryable then .retrying id ready else .idle)
  | .retrying id ready, .next => (some (.retry id ready), .idle)
  -- Any other failure ends the call.
  | _, .error => (none, .idle)
  | call, _ => (none, call)

def perform (store : ReviewStore) (call : ReviewCall) (choice : ReviewChoice) : ReviewStore :=
  match (store.act call choice).1 with
  | some statement => statement.exec store
  | none => store

end ReviewStore

section

/-- An administrator who re-enables a user forgets the window (`RecordLLMReviewManualUnban`). -/
inductive ReviewChange where
  | manualUnban
deriving DecidableEq, Repr

def ReviewStore.change (store : ReviewStore) : ReviewChange → ReviewStore
  | .manualUnban => { store with windowStartAt := 0, windowEndAt := 0, windowTaskId := 0 }

abbrev ReviewSystem := System ReviewStore ReviewCall

abbrev ReviewEvent := Event ReviewChoice ReviewChange

def reviewStep : ReviewSystem → ReviewEvent → ReviewSystem :=
  step (fun _ store call choice => (store.perform call choice, (store.act call choice).2))
    ReviewStore.change

/-- A user that was never reviewed, and no call running. -/
def ReviewSystem.start : ReviewSystem where
  shared := .empty
  locals _ := .idle

def SlotSafe (system : ReviewSystem) : ReviewEvent → Prop
  | .act process choice =>
    ∀ statement ∈ (system.shared.act (system.locals process) choice).1,
      statement.KeepsSlot system.shared
  | .change _ => True

variable (system : ReviewSystem)

theorem reviewStep_consistent (event : ReviewEvent) (consistent : system.shared.Consistent)
    (safe : SlotSafe system event) : (reviewStep system event).shared.Consistent := by
  cases event with
  | change => exact ⟨⟨consistent.tasks,consistent.next⟩,consistent.held⟩
  | act =>
    change (system.shared.perform _ _).Consistent
    unfold ReviewStore.perform
    split
    case h_1 statement runs => exact ReviewStatement.exec_consistent consistent (safe statement runs)
    case h_2 => exact consistent

theorem slotSafe_of_singleActive (event : ReviewEvent) (consistent : system.shared.Consistent)
    (single : (reviewStep system event).shared.SingleActive) : SlotSafe system event := by
  cases event with
  | change => trivial
  | act process choice =>
    intro statement runs
    have after : (reviewStep system (.act process choice)).shared = statement.exec system.shared := by
      change system.shared.perform _ _ = _
      rw [ReviewStore.perform,Option.mem_def.mp runs]
    rw [after] at single
    exact ReviewStatement.keepsSlot_of_held consistent single.2

/-- Over every run of the calls, at most one task of the user is active and the slot
points at it exactly as long as no statement releases the slot of an active task,
claims a parked task without the slot, or clears the marker of one. -/
theorem single_active_task_iff (events : List ReviewEvent) :
    Always reviewStep (·.shared.SingleActive) ReviewSystem.start events ↔
      Guarded reviewStep SlotSafe ReviewSystem.start events := by
  apply always_iff_guarded
  · intro system (consistent : system.shared.Consistent)
    exact ReviewStore.singleActive_iff.mpr consistent.held
  · exact reviewStep_consistent
  · intro system event consistent unsafeStep single
    exact unsafeStep (slotSafe_of_singleActive system event consistent single)
  · exact ReviewStore.consistent_empty

/-- The worker gives up on a task and releases the slot while the task is still under
review; an event that comes in before the status is written makes a second task. -/
theorem failing_task_frees_slot :
    ¬ Always reviewStep (·.shared.SingleActive) ReviewSystem.start
      [.act 0 .enqueue, .act 0 .next, .act 0 .next, .act 0 .next, .act 0 (.claim 1 100),
        .act 0 (.fail 1), .act 0 .next, .act 0 .next,
        .act 1 .enqueue, .act 1 .next, .act 1 .next, .act 1 .next] := by
  intro always
  have single := always _ List.prefix_rfl
  exact absurd single.1 (by decide +kernel)

end

end NewApi
