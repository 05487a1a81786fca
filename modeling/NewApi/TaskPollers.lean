import NewApi.TaskPolling

/-!
# Pollers of a task

Whoever takes the task to a final status takes on its billing.
-/

namespace NewApi

/-- How a copy was loaded: to be polled, to be timed out, or to be timed out and
already handled. -/
inductive PollerRole where
  | poll
  | timeout
  | timedOut
deriving DecidableEq, Repr

/-- A copy of the row in the memory of some node, and the work owed for it. -/
structure Poller where
  copy : Task
  role : PollerRole
  duty : Duty
deriving DecidableEq, Repr

/-- What polling is configured with, and the fixed columns of the task. -/
structure PollingEnv where
  config : BillingConfig
  account : TaskAccount
  adaptor : TaskAdaptor
  marshal : List UInt8 → List UInt8
  serverAddress : String
  timeoutMinutes : Int

def PollingEnv.proxyUrl (env : PollingEnv) : String :=
  let serverAddress := env.serverAddress
  let taskId := env.account.taskId
  s!"{serverAddress}/v1/videos/{taskId}/content"

/-- `refunds` counts how often the funding source was refunded. -/
structure TaskState where
  row : Task
  store : BillingStore
  pollers : Nat → Option Poller
  refunds : Nat

/-- The statements that pollers run, each atomic. -/
inductive TaskEvent where
  | load (id : Nat)
  | loadTimedOut (id : Nat) (cutoff : Int)
  | sweep (id : Nat) (now : Int) (report : UpdateReport)
  | suno (id : Nat) (item : SunoDataResponse) (report : UpdateReport)
  | video (id : Nat) (now : Int) (response : VideoResponse) (report : UpdateReport)
  | adjustFunding (id : Nat) (faults : FundingFaults)
  | updateQuota (id : Nat) (fault : Option GoError)
  | bulkUpdate (failReason : Option String)

/-- The conditions of `GetAllUnFinishSyncTasks`. -/
def Task.Unfinished (task : Task) : Prop :=
  task.progress ≠ "100%" ∧ ¬ task.status.IsFinal

instance (task : Task) : Decidable task.Unfinished :=
  inferInstanceAs (Decidable (_ ∧ _))

namespace TaskState

def setPoller (state : TaskState) (id : Nat) (poller : Option Poller) : TaskState :=
  { state with pollers := Function.update state.pollers id poller }

/-- A query that finds the row or not; a poller with work to do runs no query. -/
def loadRow (state : TaskState) (id : Nat) (role : PollerRole) (found : Bool) : TaskState :=
  if (state.pollers id).all fun poller => poller.duty = .idle then
    if found then state.setPoller id (some ⟨state.row, role, .idle⟩) else state.setPoller id none
  else state

/-- Handle an answer: write the copy back, and take on the billing work. -/
def visitRow (state : TaskState) (id : Nat) (copy : Task) (role : PollerRole)
    (report : UpdateReport) (visit : Visit) : TaskState :=
  let update := if visit.writes then updateWithStatus report visit.copy copy.status state.row
    else (false, state.row)
  { state with
    row := update.2
    pollers := Function.update state.pollers id
      (some ⟨visit.copy, role, if update.1 then visit.won else visit.otherwise⟩) }

def step (env : PollingEnv) (state : TaskState) : TaskEvent → TaskState
  | .load id => state.loadRow id .poll state.row.Unfinished
  | .loadTimedOut id cutoff =>
    state.loadRow id .timeout (decide (state.row.Unfinished ∧ state.row.submitTime < cutoff))
  | .sweep id now report =>
    match state.pollers id with
    | some ⟨copy, .timeout, .idle⟩ =>
      state.visitRow id copy .timedOut report (sweepVisit env.timeoutMinutes now copy)
    | _ => state
  | .suno id item report =>
    match state.pollers id with
    | some ⟨copy, .poll, .idle⟩ =>
      state.visitRow id copy .poll report (sunoVisit env.marshal item copy)
    | _ => state
  | .video id now response report =>
    match state.pollers id with
    | some ⟨copy, .poll, .idle⟩ =>
      state.visitRow id copy .poll report
        (videoVisit env.account env.adaptor env.proxyUrl now response copy)
    | _ => state
  | .adjustFunding id faults =>
    match state.pollers id with
    | some ⟨copy, role, .refund⟩ =>
      match refundFunding env.config faults env.account copy state.store with
      | (.error _, store) =>
        { state with store := store }.setPoller id (some ⟨copy, role, .idle⟩)
      | (.ok copy, store) =>
        { state with store := store, refunds := state.refunds + 1 }.setPoller id
          (some ⟨copy, role, .writeQuota⟩)
    | some ⟨copy, role, .settle actualQuota⟩ =>
      match recalculateFunding env.config faults env.account actualQuota copy state.store with
      | (.error _, store) =>
        { state with store := store }.setPoller id (some ⟨copy, role, .idle⟩)
      | (.ok copy, store) =>
        { state with store := store }.setPoller id (some ⟨copy, role, .writeQuota⟩)
    | _ => state
  | .updateQuota id fault =>
    match state.pollers id with
    | some ⟨copy, role, .writeQuota⟩ =>
      { state with row := updateQuota fault copy state.row }.setPoller id
        (some ⟨copy, role, .idle⟩)
    | _ => state
  | .bulkUpdate failReason => { state with row := taskBulkUpdate failReason state.row }

def Quiescent (state : TaskState) : Prop :=
  ∀ id poller, state.pollers id = some poller → poller.duty = .idle

structure Inserted (env : PollingEnv) (origin : FundingOrigin) (state : TaskState) : Prop where
  status : state.row.status = .notStart
  paid : Holds origin state.row.quota env.account.funding state.store
  unloaded : ∀ id, state.pollers id = none
  unrefunded : state.refunds = 0

/-- The refund happens at most once, and when all work is done a failed task has
cost nothing, unless it is a legacy task, and a successful one its quota. -/
def BilledOnce (env : PollingEnv) (origin : FundingOrigin) (state : TaskState) : Prop :=
  state.refunds ≤ 1 ∧
    (state.Quiescent →
      (state.row.status = .failure → ¬ state.row.Legacy →
        Holds origin 0 env.account.funding state.store) ∧
      (state.row.status = .success →
        Holds origin state.row.quota env.account.funding state.store))

def NoWriteFails (env : PollingEnv) (state : TaskState) : TaskEvent → Prop
  | .adjustFunding id faults => ∀ copy role, state.pollers id = some ⟨copy, role, .refund⟩ →
    (taskAdjustFunding env.config faults env.account (-copy.quota) state.store).1 = .ok ()
  | .updateQuota _ fault => fault = none
  | _ => True

/-- An answer is handled only for a copy that is not final yet, and the bulk update
meets a task that has failed already or that costs nothing to fail. -/
def GuardedUpdates (state : TaskState) : TaskEvent → Prop
  | .suno id _ _ | .video id _ _ _ => ∀ poller, state.pollers id = some poller →
    ¬ poller.copy.status.IsFinal
  | .bulkUpdate _ => state.row.status = .failure ∨
    (¬ state.row.status.IsFinal ∧ (state.row.quota = 0 ∨ state.row.Legacy))
  | _ => True

end TaskState

section

structure Visit.Sound (before : Task) (visit : Visit) : Prop where
  otherwise : visit.otherwise = .idle
  pending : ¬ visit.copy.status.IsFinal → visit.won = .idle ∧ visit.copy.quota = before.quota
  writes : visit.copy.status.IsFinal → visit.writes = true
  failed : visit.copy.status = .failure →
    (visit.won = .refund ∧ visit.copy.quota = before.quota ∧ before.quota ≠ 0) ∨
      (visit.won = .idle ∧ (visit.copy.Legacy ∨ before.quota = 0))
  succeeded : visit.copy.status = .success → visit.copy.quota = before.quota ∧
    (visit.won = .idle ∨ ∃ actualQuota, visit.won = .settle actualQuota ∧ 0 < actualQuota ∧
      actualQuota ≠ visit.copy.quota)

theorem refundDuty_cases {task before kept : Task} (same : task.quota = before.quota)
    (keeps : kept.quota = before.quota) :
    (refundDuty task = .refund ∧ kept.quota = before.quota ∧ before.quota ≠ 0) ∨
      (refundDuty task = .idle ∧ (kept.Legacy ∨ before.quota = 0)) := by
  unfold refundDuty
  by_cases zero : before.quota = 0 <;> simp [same,keeps,zero]

theorem recalculateDuty_cases (actualQuota : Int) (task : Task) :
    recalculateDuty actualQuota task = .idle ∨
      (recalculateDuty actualQuota task = .settle actualQuota ∧ 0 < actualQuota ∧
        actualQuota ≠ task.quota) := by
  unfold recalculateDuty
  split_ifs with notPositive same
  · exact .inl rfl
  · exact .inl rfl
  · exact .inr ⟨rfl,by omega,by omega⟩

variable (account : TaskAccount) (adaptor : TaskAdaptor) {info : TaskInfo}

theorem settleDuty_cases (task : Task) (info : TaskInfo) :
    settleDuty account adaptor task info = .idle ∨
      ∃ actualQuota, settleDuty account adaptor task info = .settle actualQuota ∧
        0 < actualQuota ∧ actualQuota ≠ task.quota := by
  unfold settleDuty
  split_ifs
  · exact .inl rfl
  · exact (recalculateDuty_cases _ task).imp_right fun settles => ⟨_,settles⟩
  · split
    · exact .inl rfl
    · exact (recalculateDuty_cases _ task).imp_right fun settles => ⟨_,settles⟩
  · exact .inl rfl

variable {before copy : Task} {proxyUrl : String}

theorem pending_sound {visit : Visit} (notFinal : ¬ visit.copy.status.IsFinal)
    (idle : visit.won = .idle ∧ visit.otherwise = .idle)
    (sameQuota : visit.copy.quota = before.quota) : visit.Sound before where
  otherwise := idle.2
  pending _ := ⟨idle.1, sameQuota⟩
  writes final := absurd final notFinal
  failed failed := absurd (.inl failed) notFinal
  succeeded succeeded := absurd (.inr succeeded) notFinal

theorem failed_sound {visit : Visit} (isFailed : visit.copy.status = .failure)
    (writes : visit.writes = true ∧ visit.otherwise = .idle)
    (billing : (visit.won = .refund ∧ visit.copy.quota = before.quota ∧ before.quota ≠ 0) ∨
      (visit.won = .idle ∧ (visit.copy.Legacy ∨ before.quota = 0))) : visit.Sound before where
  otherwise := writes.2
  pending notFinal := absurd (.inl isFailed) notFinal
  writes _ := writes.1
  failed _ := billing
  succeeded succeeded := nomatch isFailed.symm.trans succeeded

theorem sweepVisit_sound (timeoutMinutes now : Int) (copy : Task) :
    (sweepVisit timeoutMinutes now copy).Sound copy := by
  unfold sweepVisit
  by_cases legacy : copy.Legacy
  · simp only [legacy]
    exact failed_sound rfl ⟨rfl,rfl⟩ (.inr ⟨rfl,.inl legacy⟩)
  · simp only [legacy]
    exact failed_sound rfl ⟨rfl,rfl⟩ (refundDuty_cases rfl rfl)

theorem sunoVisit_sound (marshal : List UInt8 → List UInt8) (item : SunoDataResponse)
    (notFinal : ¬ copy.status.IsFinal) :
    (sunoVisit marshal item copy).Sound copy := by
  have notFailed : copy.status ≠ .failure := fun failed => notFinal (.inl failed)
  unfold sunoVisit
  by_cases same : taskNeedsUpdate marshal copy item = false
  · rw [if_pos same]
    exact pending_sound notFinal ⟨rfl,rfl⟩ rfl
  · rw [if_neg same]
    generalize (if item.status ≠ "" then TaskStatus.ofString item.status else copy.status) = status
    by_cases isFailure : item.failReason ≠ "" ∨ status = .failure
    · simp only [isFailure,notFailed,ne_eq]
      exact failed_sound rfl ⟨rfl,rfl⟩ (refundDuty_cases rfl rfl)
    · simp only [isFailure]
      constructor
      · rfl
      · exact fun _ => ⟨rfl,rfl⟩
      · exact fun _ => rfl
      · exact fun failed => absurd (.inr failed) isFailure
      · exact fun _ => ⟨rfl,.inl rfl⟩

theorem applyTaskResult_fields {now : Int} {task : Task}
    (applied : applyTaskResult proxyUrl now info before = some task) :
    task.status = .ofString info.status ∧ task.quota = before.quota := by
  unfold applyTaskResult at applied
  dsimp only at applied
  split at applied
  all_goals first
    | (cases applied; exact ⟨rfl,rfl⟩)
    | cases applied

theorem applyTaskResult_eq_none {now : Int}
    (applied : applyTaskResult proxyUrl now info before = none) :
    ¬ (TaskStatus.ofString info.status).IsFinal := by
  unfold applyTaskResult at applied
  dsimp only at applied
  split at applied
  all_goals cases applied
  rename_i notSuccess notFailure
  rintro (failed | succeeded)
  · exact notFailure failed
  · exact notSuccess succeeded

theorem videoVisit_sound (proxyUrl : String) (now : Int) (response : VideoResponse)
    (notFinal : ¬ copy.status.IsFinal) :
    (videoVisit account adaptor proxyUrl now response copy).Sound copy := by
  unfold videoVisit
  split
  · exact pending_sound notFinal ⟨rfl,rfl⟩ rfl
  · split
    · exact pending_sound notFinal ⟨rfl,rfl⟩ rfl
    · split
      · rename_i unknown
        exact pending_sound (applyTaskResult_eq_none unknown) ⟨rfl,rfl⟩ rfl
      · rename_i info _ _ task applied
        obtain ⟨-,sameQuota⟩ := applyTaskResult_fields applied
        by_cases final : task.status.IsFinal
        · have moved : copy.status ≠ task.status := fun same => notFinal (same ▸ final)
          simp only [final,moved,ne_eq]
          constructor
          · rfl
          · exact fun pending => absurd final pending
          · exact fun _ => rfl
          · intro failed
            simp only [videoDuty,show task.status = .failure from failed]
            exact refundDuty_cases sameQuota sameQuota
          · intro succeeded
            simp only [videoDuty,show task.status = .success from succeeded]
            exact ⟨sameQuota,settleDuty_cases account adaptor task info⟩
        · simp only [final]
          have noDuty : videoDuty account adaptor info task = .idle := by
            have notSuccess : task.status ≠ .success := fun succeeded => final (.inr succeeded)
            have notFailure : task.status ≠ .failure := fun failed => final (.inl failed)
            simp [videoDuty,notSuccess,notFailure]
          exact pending_sound final ⟨noDuty,noDuty⟩ sameQuota

end

end NewApi
