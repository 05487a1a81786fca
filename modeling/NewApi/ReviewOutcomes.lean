import NewApi.ReviewCalls

/-!
# Windows that are selected again, and tasks that end again

The grace row remembers the last window only, so an older one that comes late is new to it. A task
is ended by its id, whatever its status has become meanwhile.
-/

namespace NewApi

open GuardedRuns KeyedTable

/-- The tables, and the windows that a call has selected so far. -/
structure WindowHistory where
  store : ReviewStore
  selected : List (Int × Int)

/-- One transaction of `EnqueueLLMReviewTaskForRPMWindow`. -/
def WindowHistory.enqueue (history : WindowHistory) (window : ReviewWindow) : WindowHistory :=
  if window.valid then
    match history.store.enqueueForWindow window with
    | .error _ => history
    | .ok after =>
      ⟨after, if history.store.selectsWindow window then
        (window.startAt, window.endAt) :: history.selected else history.selected⟩
  else history

/-- A window that was selected before comes while it is still the one remembered, while that one
has not ended, or in a transaction that fails. -/
def WindowHistory.InOrder (history : WindowHistory) (window : ReviewWindow) : Prop :=
  window.valid = true → (window.startAt, window.endAt) ∈ history.selected →
    (history.store.windowStartAt = window.startAt ∧ history.store.windowEndAt = window.endAt) ∨
      window.now < history.store.windowEndAt ∨
      (history.store.enqueueForWindow window).isOk = false

theorem WindowHistory.nodup_enqueue_iff {history : WindowHistory} (nodup : history.selected.Nodup)
    (window : ReviewWindow) :
    (history.enqueue window).selected.Nodup ↔ history.InOrder window := by
  unfold enqueue InOrder
  by_cases valid : window.valid = true
  · have positive : 0 < window.now := by
      simp only [ReviewWindow.valid,Bool.and_eq_true,decide_eq_true_eq] at valid
      exact valid.2
    have selects : history.store.selectsWindow window = true ↔
        ¬ ((history.store.windowStartAt = window.startAt ∧
          history.store.windowEndAt = window.endAt) ∨
          window.now < history.store.windowEndAt) := by
      simp only [ReviewStore.selectsWindow,Bool.and_eq_true,Bool.or_eq_true,decide_eq_true_eq]
      omega
    rw [if_pos valid]
    cases history.store.enqueueForWindow window with
    | error => simp [nodup,Except.toBool]
    | ok =>
      by_cases new : history.store.selectsWindow window = true
      · simp [valid,new,nodup,Except.toBool,selects.mp new]
      · simp [new,nodup,Except.toBool,not_not.mp (mt selects.mpr new)]
  · simp [valid,nodup]

/-- However the calls interleave, their transactions run one after another. -/
theorem window_selected_once_iff (store : ReviewStore) (windows : List ReviewWindow) :
    Always WindowHistory.enqueue (·.selected.Nodup) ⟨store, []⟩ windows ↔
      Guarded WindowHistory.enqueue WindowHistory.InOrder ⟨store, []⟩ windows := by
  apply always_iff_guarded (fun _ nodup => nodup)
  · exact fun history window nodup => (history.nodup_enqueue_iff nodup window).mpr
  · exact fun history window nodup late => mt (history.nodup_enqueue_iff nodup window).mp late
  · exact List.nodup_nil

/-- The first window comes again after the second one has ended. -/
theorem late_window_selected_twice :
    ¬ Always WindowHistory.enqueue (·.selected.Nodup) ⟨.empty, []⟩
      [⟨10, 20, 15, ""⟩, ⟨30, 40, 35, ""⟩, ⟨10, 20, 45, ""⟩] :=
  fun always => absurd (always _ List.prefix_rfl) (by decide +kernel)

/-- The tasks that had ended and are still there have the same status. -/
def ReviewStore.KeepsEnded (store after : ReviewStore) : Prop :=
  ∀ row ∈ after.tasks.rows, ∀ task ∈ store.tasks.rows, task.id = row.id → task.active = false →
    row.status = task.status

/-- The verdict columns are written by `CompleteLLMReviewTask`, to a task under review. -/
def ReviewStatement.writesVerdict (store : ReviewStore) (id : Nat) : ReviewStatement → Bool
  | .writeVerdict target _ => target = id && (store.tasks.find? id).any (·.status = .reviewing)
  | _ => false

/-- A task that has ended keeps its status and its verdict, unless it is retried. -/
def ReviewStatement.Absorbs (store : ReviewStore) (statement : ReviewStatement) : Prop :=
  ∀ task ∈ store.tasks.rows, task.active = false → (∀ ready, statement ≠ .retry task.id ready) →
    statement.writesVerdict store task.id = false ∧
      ∀ row ∈ (statement.exec store).tasks.rows, row.id = task.id → row.status = task.status

/-- A task is ended while it is open, or again in the same way. -/
def ReviewStatement.EndsOpen (store : ReviewStore) : ReviewStatement → Prop
  | .finish id ending => ∀ task ∈ store.tasks.rows, task.id = id → task.active = false →
      task.status = ending.status
  | _ => True

namespace ReviewStore

variable {store after : ReviewStore}

theorem KeepsEnded.of_subset (kept : ∀ row ∈ after.tasks.rows, row ∈ store.tasks.rows) :
    store.KeepsEnded after := by
  intro row member task taskMember sameId _
  rw [eq_of_key_eq taskMember (kept row member) sameId]

theorem keepsEnded_updateWhere_iff {wanted : ReviewTask → Bool} {change : ReviewTask → ReviewTask}
    (sameId : ∀ task, (change task).id = task.id) :
    store.KeepsEnded (store.updateWhere wanted change sameId) ↔
      ∀ task ∈ store.tasks.rows, wanted task = true → task.active = false →
        (change task).status = task.status := by
  unfold KeepsEnded
  rw [forall_mem_updateWhere]
  constructor
  · intro keeps task member hit ended
    simpa [hit] using keeps task member task member (by simp [hit,sameId]) ended
  · intro keeps stored member task taskMember same ended
    by_cases hit : wanted stored = true
    · rw [if_pos hit] at same ⊢
      obtain rfl := eq_of_key_eq taskMember member (same.trans (sameId stored))
      exact keeps task member hit ended
    · rw [if_neg hit] at same ⊢
      rw [eq_of_key_eq taskMember member same]

theorem KeepsEnded.create {task : ReviewTask} (created : store.create task = some after) :
    store.KeepsEnded after := by
  simp only [ReviewStore.create,Option.dite_none_right_eq_some,Option.some.injEq] at created
  obtain ⟨free,rfl⟩ := created
  intro row member old oldMember same _
  rcases List.mem_append.mp member with kept | new
  · rw [eq_of_key_eq oldMember kept same]
  · rw [List.mem_singleton.mp new] at same
    have found := KeyedTable.find?_of_mem oldMember
    rw [same,free] at found
    cases found

theorem KeepsEnded.enqueueForWindow {window : ReviewWindow}
    (enqueued : store.enqueueForWindow window = .ok after) : store.KeepsEnded after := by
  revert enqueued
  fun_cases ReviewStore.enqueueForWindow store window with
  | case1 =>
    rintro ⟨⟩
    exact .of_subset fun _ => id
  | case3 _ selected _ created creates =>
    rintro ⟨⟩
    have keeps : selected.KeepsEnded created := .create creates
    exact keeps
  | case5 _ _ _ task _ bound binds =>
    rintro ⟨⟩
    obtain rfl := rebindSlot_eq binds
    exact .of_subset fun _ => id
  | case7 _ _ _ _ cleared clears =>
    obtain rfl := clearStaleActiveReviewSlot_eq clears
    fun_cases ReviewStore.createForWindow with
    | case2 created creates =>
      rintro ⟨⟩
      have keeps := KeepsEnded.create creates
      unfold KeepsEnded
      rw [clearMarker,forall_mem_updateWhere]
      intro row member
      split <;> exact keeps row member
    | _ => rintro ⟨⟩
  | _ => rintro ⟨⟩

end ReviewStore

namespace ReviewStatement

variable {store : ReviewStore} {statement : ReviewStatement}

open ReviewStore

theorem absorbs_of_keepsEnded (keeps : store.KeepsEnded (statement.exec store)) :
    statement.Absorbs store := by
  intro task member ended _
  refine ⟨?_,fun row rowMember same => keeps row rowMember task member same.symm ended⟩
  cases statement with
  | writeVerdict =>
    simp only [ReviewTask.active,Bool.or_eq_false_iff] at ended
    simp [writesVerdict,KeyedTable.find?_of_mem member,ended.2]
  | _ => rfl

theorem absorbs_iff_endsOpen : statement.Absorbs store ↔ statement.EndsOpen store := by
  constructor
  · intro absorbs
    cases statement with
    | finish id ending =>
      intro task member same ended
      have keeps : store.KeepsEnded (store.endTask id ending) :=
        fun row rowMember task member same ended =>
          (absorbs task member ended (by simp)).2 row rowMember same.symm
      have := (keepsEnded_updateWhere_iff _).mp keeps task member (by simpa using same) ended
      exact this.symm
    | _ => trivial
  · intro endsOpen
    cases statement with
    | retry id ready =>
      intro task member _ notRetried
      refine ⟨rfl,?_⟩
      have other : task.id ≠ id := fun same => notRetried ready (same ▸ rfl)
      cases retried : store.retryTask id ready with
      | none =>
        simp only [exec,retried]
        intro row rowMember same
        rw [eq_of_key_eq rowMember member same]
      | some =>
        obtain ⟨-,change,sameId,rfl⟩ := retryTask_effect retried
        simp only [exec,retried,Option.getD_some]
        rw [forall_mem_updateWhere]
        intro stored storedMember
        split
        case isTrue hit =>
          exact fun same => absurd (same.symm.trans ((sameId _).trans (of_decide_eq_true hit))) other
        case isFalse =>
          intro same
          rw [eq_of_key_eq storedMember member same]
    | createParked id | createSkipped reason =>
      exact absorbs_of_keepsEnded (getD_of_forall (.of_subset fun _ member => member)
        fun _ => .create)
    | delete =>
      exact absorbs_of_keepsEnded
        (.of_subset fun row member => (store.tasks.mem_deleteWhere.mp member).1)
    | claimSlot id | releaseSlot id =>
      apply absorbs_of_keepsEnded
      simp only [exec,claimActiveReviewSlot,releaseActiveReviewSlot]
      split <;> exact .of_subset fun _ member => member
    | enqueueForWindow =>
      apply absorbs_of_keepsEnded
      dsimp only [exec]
      split
      case h_1 after enqueued => exact .enqueueForWindow enqueued
      case h_2 => exact .of_subset fun _ => id
    | finish =>
      refine absorbs_of_keepsEnded ((keepsEnded_updateWhere_iff (by intro; rfl)).mpr ?_)
      intro task member hit ended
      exact (endsOpen task member (by simpa using hit) ended).symm
    | _ =>
      refine absorbs_of_keepsEnded ((keepsEnded_updateWhere_iff (by intro; rfl)).mpr ?_)
      simp_all [ReviewTask.active]

end ReviewStatement

/-- A property of the statement that an event runs. -/
def AtStatement (Holds : ReviewStore → ReviewStatement → Prop) (system : ReviewSystem) :
    ReviewEvent → Prop
  | .act process choice =>
    ∀ statement ∈ (system.shared.act (system.locals process) choice).1, Holds system.shared statement
  | .change _ => True

theorem ended_tasks_absorb_iff (events : List ReviewEvent) :
    Guarded reviewStep (AtStatement ReviewStatement.Absorbs) ReviewSystem.start events ↔
      Guarded reviewStep (AtStatement ReviewStatement.EndsOpen) ReviewSystem.start events := by
  have same : ReviewStatement.Absorbs = ReviewStatement.EndsOpen := by
    funext store statement
    exact propext ReviewStatement.absorbs_iff_endsOpen
  rw [same]

/-- The first worker completes a task that a second one has reclaimed; the second one fails it. -/
theorem stale_worker_fails_completed :
    ¬ Guarded reviewStep (AtStatement ReviewStatement.Absorbs) ReviewSystem.start
      [.act 0 .enqueue, .act 0 .next, .act 0 .next, .act 0 .next, .act 0 (.claim 1 100),
        .act 0 (.recoverStale 200), .act 1 (.claim 1 300), .act 0 (.complete 1 .compliant),
        .act 0 .next, .act 1 (.fail 1), .act 1 .next, .act 1 .next, .act 1 .next] := by
  rintro ⟨-,-,-,-,-,-,-,-,-,-,-,-,absorbs,-⟩
  have kept := (absorbs (.finish 1 .failed) rfl ⟨1,.compliant,false,300,""⟩ (by decide +kernel) rfl
    nofun).2 ⟨1,.failed,false,300,""⟩ (by decide +kernel) rfl
  cases kept

end NewApi
