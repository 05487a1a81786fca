import NewApi.FundingMoves

/-!
# Polling an asynchronous task

A poller works on a copy of the row that it loaded earlier.
-/

namespace NewApi

open GoStrings

inductive TaskStatus where
  | notStart
  | submitted
  | queued
  | inProgress
  | failure
  | success
  | unknown
  | other (text : String)
deriving DecidableEq, Repr

namespace TaskStatus

def ofString (text : String) : TaskStatus :=
  if text = "NOT_START" then .notStart
  else if text = "SUBMITTED" then .submitted
  else if text = "QUEUED" then .queued
  else if text = "IN_PROGRESS" then .inProgress
  else if text = "FAILURE" then .failure
  else if text = "SUCCESS" then .success
  else if text = "UNKNOWN" then .unknown
  else .other text

/-- No poller loads a task in one of these. -/
def IsFinal (status : TaskStatus) : Prop :=
  status = .failure ∨ status = .success

instance (status : TaskStatus) : Decidable status.IsFinal :=
  inferInstanceAs (Decidable (_ ∨ _))

end TaskStatus

/-- The columns of a task that polling changes. -/
structure Task where
  quota : Int
  status : TaskStatus
  failReason : String
  submitTime : Int
  startTime : Int
  finishTime : Int
  progress : String
  resultUrl : String
  data : List UInt8
deriving DecidableEq, Repr

/-- The columns of a task that polling only reads. -/
structure TaskAccount where
  taskId : String
  userId : Int
  billingSource : BillingSource
  subscriptionId : Int
  perCallBilling : Bool
deriving DecidableEq, Repr

/-- `TaskRefundLegacyCutoff`, 2026-02-22 00:00:00 UTC. -/
def taskRefundLegacyCutoff : Int := 1771718400

/-- Submitted before timeouts were refunded. -/
def Task.Legacy (task : Task) : Prop :=
  0 < task.submitTime ∧ task.submitTime < taskRefundLegacyCutoff

instance (task : Task) : Decidable task.Legacy :=
  inferInstanceAs (Decidable (_ ∧ _))

structure TaskSnapshot where
  status : TaskStatus
  progress : String
  startTime : Int
  finishTime : Int
  failReason : String
  resultUrl : String
  data : List UInt8
deriving DecidableEq, Repr

def Task.snapshot (task : Task) : TaskSnapshot where
  status := task.status
  progress := task.progress
  startTime := task.startTime
  finishTime := task.finishTime
  failReason := task.failReason
  resultUrl := task.resultUrl
  data := task.data

/-- How the conditional update went: it may fail, and a driver that counts changed
rows reports none when every column keeps its value. -/
structure UpdateReport where
  fails : Bool
  countsUnchanged : Bool
deriving DecidableEq, Repr

def updateWithStatus (report : UpdateReport) (task : Task) (fromStatus : TaskStatus) (row : Task) :
    Bool × Task :=
  if report.fails then (false, row)
  else if row.status ≠ fromStatus then (false, row)
  else (decide (task ≠ row) || report.countsUnchanged, task)

/-- `TaskBulkUpdateByID` with the parameters of its three callers; the one for
tasks without an upstream id sets no reason. -/
def taskBulkUpdate (failReason : Option String) (row : Task) : Task :=
  { row with
    failReason := failReason.getD row.failReason
    status := .failure
    progress := "100%" }

/-- The billing work that handling an answer leaves to do. -/
inductive Duty where
  | idle
  | refund
  | settle (actualQuota : Int)
  | writeQuota
deriving DecidableEq, Repr

/-- What handling an answer does: the copy afterwards, whether it is written back,
and the work that follows when the update is won and otherwise. -/
structure Visit where
  copy : Task
  writes : Bool
  won : Duty
  otherwise : Duty
deriving DecidableEq, Repr

def Visit.quiet (copy : Task) : Visit := ⟨copy, false, .idle, .idle⟩

/-- `RefundTaskQuota` does nothing for a task without quota. -/
def refundDuty (task : Task) : Duty :=
  if task.quota ≠ 0 then .refund else .idle

/-- The body of the loop of `sweepTimedOutTasks`. -/
def sweepVisit (timeoutMinutes now : Int) (copy : Task) : Visit :=
  let failed := { copy with status := .failure, progress := "100%", finishTime := now }
  if copy.Legacy then
    { copy := { failed with
        failReason := "任务超时（旧系统遗留任务，不进行退款，请联系管理员）"
        quota := 0 }
      writes := true
      won := .idle
      otherwise := .idle }
  else
    { copy := { failed with failReason := s!"任务超时（{timeoutMinutes}分钟）" }
      writes := true
      won := refundDuty copy
      otherwise := .idle }

/-- An entry of the answer of a Suno channel. -/
structure SunoDataResponse where
  status : String
  failReason : String
  submitTime : Int
  startTime : Int
  finishTime : Int
  data : List UInt8
deriving DecidableEq, Repr

/-- `taskNeedsUpdate`; the data is compared as two sorted lists of bytes.
`marshal` is `common.Marshal` on raw JSON. -/
def taskNeedsUpdate (marshal : List UInt8 → List UInt8) (oldTask : Task)
    (newTask : SunoDataResponse) : Bool :=
  oldTask.submitTime ≠ newTask.submitTime ∨ oldTask.startTime ≠ newTask.startTime ∨
    oldTask.finishTime ≠ newTask.finishTime ∨
    oldTask.status ≠ TaskStatus.ofString newTask.status ∨
    oldTask.failReason ≠ newTask.failReason ∨
    (oldTask.status.IsFinal ∧ oldTask.progress ≠ "100%") ∨
    (marshal oldTask.data).insertionSort (· ≤ ·) ≠ (marshal newTask.data).insertionSort (· ≤ ·)

def sunoVisit (marshal : List UInt8 → List UInt8) (item : SunoDataResponse) (copy : Task) :
    Visit :=
  if taskNeedsUpdate marshal copy item = false then .quiet copy
  else
    let status := if item.status ≠ "" then .ofString item.status else copy.status
    let isFailure := item.failReason ≠ "" ∨ status = .failure
    { copy :=
        { copy with
          status := if isFailure then .failure else status
          failReason := if item.failReason ≠ "" then item.failReason else copy.failReason
          submitTime := if item.submitTime ≠ 0 then item.submitTime else copy.submitTime
          startTime := if item.startTime ≠ 0 then item.startTime else copy.startTime
          finishTime := if item.finishTime ≠ 0 then item.finishTime else copy.finishTime
          progress := if isFailure ∨ item.status = "SUCCESS" then "100%" else copy.progress
          data := item.data }
      writes := true
      won := if isFailure ∧ copy.status ≠ .failure then refundDuty copy else .idle
      otherwise := .idle }

/-- `TaskInfo`, what an adaptor reads off an answer. -/
structure TaskInfo where
  status : String
  reason : String
  url : String
  progress : String
  totalTokens : Int
deriving DecidableEq, Repr

def failTaskInfo (reason : String) : TaskInfo where
  status := "FAILURE"
  reason := reason
  url := ""
  progress := ""
  totalTokens := 0

/-- How an answer without a status reads as an error. -/
inductive ErrorBody where
  | notJson
  | openAIError (code : String)
  | unrecognized
deriving DecidableEq, Repr

inductive VideoResponse where
  /-- The request, the read or the parse failed. -/
  | failed
  | parsed (body : List UInt8) (info : TaskInfo) (errorBody : ErrorBody)
deriving DecidableEq, Repr

/-- The adaptor's final quota of a task, and its price by tokens where the model
has a ratio and the group is known. -/
structure TaskAdaptor where
  adjustBillingOnComplete : Task → TaskInfo → Int
  priceTokens : Task → Int → Option Int

/-- An empty status is a failure, unless the upstream only limits the rate. -/
def resolveEmptyStatus (info : TaskInfo) (errorBody : ErrorBody) : Option TaskInfo :=
  if info.status ≠ "" then some info
  else
    match errorBody with
    | .notJson => some info
    | .openAIError code =>
      if code = "429" then none else some (failTaskInfo "upstream returned error")
    | .unrecognized => some (failTaskInfo "upstream returned unrecognized message")

/-- The `switch` over the status; `none` is its default branch. -/
def applyTaskResult (proxyUrl : String) (now : Int) (info : TaskInfo) (task : Task) :
    Option Task :=
  let status := TaskStatus.ofString info.status
  let progressOr (default : String) := if info.progress ≠ "" then info.progress else default
  match status with
  | .submitted => some { task with status := status, progress := progressOr "10%" }
  | .queued => some { task with status := status, progress := progressOr "20%" }
  | .inProgress =>
    some { task with
      status := status
      progress := progressOr "30%"
      startTime := if task.startTime = 0 then now else task.startTime }
  | .success =>
    some { task with
      status := status
      progress := progressOr "100%"
      finishTime := if task.finishTime = 0 then now else task.finishTime
      resultUrl := if hasPrefix info.url "data:" ∨ info.url = "" then proxyUrl else info.url }
  | .failure =>
    some { task with
      status := status
      progress := "100%"
      finishTime := if task.finishTime = 0 then now else task.finishTime
      failReason := info.reason }
  | _ => none

def recalculateDuty (actualQuota : Int) (task : Task) : Duty :=
  if actualQuota ≤ 0 then .idle
  else if actualQuota - task.quota = 0 then .idle
  else .settle actualQuota

def settleDuty (account : TaskAccount) (adaptor : TaskAdaptor) (task : Task) (info : TaskInfo) :
    Duty :=
  if account.perCallBilling then .idle
  else if 0 < adaptor.adjustBillingOnComplete task info then
    recalculateDuty (adaptor.adjustBillingOnComplete task info) task
  else if 0 < info.totalTokens then
    match adaptor.priceTokens task info.totalTokens with
    | none => .idle
    | some actualQuota => recalculateDuty actualQuota task
  else .idle

def videoDuty (account : TaskAccount) (adaptor : TaskAdaptor) (info : TaskInfo) (task : Task) :
    Duty :=
  if task.status = .success then settleDuty account adaptor task info
  else if task.status = .failure then refundDuty task
  else .idle

/-- `updateVideoSingleTask`. When the copy already had the final status, the update
does not decide about the billing. -/
def videoVisit (account : TaskAccount) (adaptor : TaskAdaptor) (proxyUrl : String) (now : Int)
    (response : VideoResponse) (copy : Task) : Visit :=
  match response with
  | .failed => .quiet copy
  | .parsed body info errorBody =>
    match resolveEmptyStatus info errorBody with
    | none => .quiet { copy with data := body }
    | some info =>
      match applyTaskResult proxyUrl now info { copy with data := body } with
      | none => .quiet { copy with data := body, status := .ofString info.status }
      | some task =>
        let duty := videoDuty account adaptor info task
        if task.status.IsFinal ∧ copy.status ≠ task.status then ⟨task, true, duty, .idle⟩
        else ⟨task, decide (copy.snapshot ≠ task.snapshot), duty, duty⟩

def taskIsSubscription (account : TaskAccount) : Bool :=
  account.billingSource = .subscription ∧ 0 < account.subscriptionId

def taskAdjustFunding (config : BillingConfig) (faults : FundingFaults) (account : TaskAccount)
    (delta : Int) (store : BillingStore) : Except GoError Unit × BillingStore :=
  if taskIsSubscription account then
    onSubscriptions
      (postConsumeUserSubscriptionDelta faults.subscription account.subscriptionId delta) store
  else if 0 < delta then decreaseUserQuota config faults.wallet account.userId delta false store
  else increaseUserQuota config faults.wallet account.userId (-delta) false store

/-- The source that paid for the task, as a billing session names it. -/
def TaskAccount.funding (account : TaskAccount) : FundingSource :=
  payingSource (taskIsSubscription account) account.userId account.subscriptionId

/-- A change of the funding source is the one a billing session settles with. -/
theorem taskAdjustFunding_eq_settle (config : BillingConfig) (faults : FundingFaults)
    (account : TaskAccount) {delta : Int} (nonzero : delta ≠ 0) (store : BillingStore) :
    taskAdjustFunding config faults account delta store =
      account.funding.settle config faults delta store := by
  unfold taskAdjustFunding TaskAccount.funding
  cases taskIsSubscription account <;> simp [payingSource,FundingSource.settle,nonzero]

/-- The first half of `RefundTaskQuota`: the funding source, then the copy. -/
def refundFunding (config : BillingConfig) (faults : FundingFaults) (account : TaskAccount)
    (copy : Task) (store : BillingStore) : Except GoError Task × BillingStore :=
  match taskAdjustFunding config faults account (-copy.quota) store with
  | (.error error, store) => (.error error, store)
  | (.ok _, store) => (.ok { copy with quota := 0 }, store)

def recalculateFunding (config : BillingConfig) (faults : FundingFaults) (account : TaskAccount)
    (actualQuota : Int) (copy : Task) (store : BillingStore) : Except GoError Task × BillingStore :=
  match taskAdjustFunding config faults account (actualQuota - copy.quota) store with
  | (.error error, store) => (.error error, store)
  | (.ok _, store) => (.ok { copy with quota := actualQuota }, store)

/-- `UpdateQuota`: the second half of both. -/
def updateQuota (fault : Option GoError) (copy row : Task) : Task :=
  match fault with
  | some _ => row
  | none => { row with quota := copy.quota }

end NewApi
