import NewApi.TaskPollers

/-!
# A task is billed once

A final status is reached by one won update, and the winner alone owes the
billing work. The exception is the bulk update, which wins against everybody and
bills nothing.
-/

namespace NewApi

open GuardedRuns TaskState

section

variable {env : PollingEnv} {origin : FundingOrigin} {state : TaskState} {id : Nat}

inductive Owes (funding : FundingSource) (origin : FundingOrigin) (row : Task)
    (store : BillingStore) (refunds : Nat) : Poller → Prop where
  | refund {copy : Task} {role : PollerRole} (failed : row.status = .failure)
      (paid : Holds origin copy.quota funding store) (nonzero : copy.quota ≠ 0)
      (unrefunded : refunds = 0) : Owes funding origin row store refunds ⟨copy, role, .refund⟩
  | settle {copy : Task} {role : PollerRole} {actualQuota : Int} (succeeded : row.status = .success)
      (paid : Holds origin copy.quota funding store) (sameQuota : copy.quota = row.quota)
      (positive : 0 < actualQuota) (moves : actualQuota ≠ copy.quota) (unrefunded : refunds = 0) :
      Owes funding origin row store refunds ⟨copy, role, .settle actualQuota⟩
  | writeQuota {copy : Task} {role : PollerRole} (final : row.status.IsFinal)
      (paid : Holds origin copy.quota funding store)
      (failed : row.status = .failure → copy.quota = 0) (once : refunds ≤ 1) :
      Owes funding origin row store refunds ⟨copy, role, .writeQuota⟩

/-- A task runs, paid and with true copies; or it is final and billed; or it is final
and exactly one poller owes the billing. -/
inductive TaskPhase (env : PollingEnv) (origin : FundingOrigin) (state : TaskState) : Prop where
  | running (notFinal : ¬ state.row.status.IsFinal)
      (paid : Holds origin state.row.quota env.account.funding state.store)
      (unrefunded : state.refunds = 0) (quiescent : state.Quiescent)
      (copies : ∀ id poller, state.pollers id = some poller → ¬ poller.copy.status.IsFinal →
        poller.copy.quota = state.row.quota)
  | billed (final : state.row.status.IsFinal) (net : Int)
      (paid : Holds origin net env.account.funding state.store)
      (failed : state.row.status = .failure → ¬ state.row.Legacy → net = 0)
      (succeeded : state.row.status = .success → net = state.row.quota)
      (once : state.refunds ≤ 1) (quiescent : state.Quiescent)
  | owing (busy : Nat) (poller : Poller) (found : state.pollers busy = some poller)
      (others : ∀ id other, id ≠ busy → state.pollers id = some other → other.duty = .idle)
      (owes : Owes env.account.funding origin state.row state.store state.refunds poller)

structure TaskInvariant (env : PollingEnv) (origin : FundingOrigin) (state : TaskState) : Prop where
  phase : TaskPhase env origin state
  /-- What the sweep has loaded and not handled is as the query found it. -/
  fresh : ∀ id poller, state.pollers id = some poller → poller.role = .timeout →
    ¬ poller.copy.status.IsFinal

variable {funding : FundingSource} {row : Task} {store : BillingStore} {refunds : Nat}
  {poller : Poller} {value : Option Poller}

section

variable (owes : Owes funding origin row store refunds poller)

include owes

theorem Owes.busy :
    poller.duty ≠ .idle := by
  cases owes <;> simp

theorem Owes.final :
    row.status.IsFinal := by
  cases owes with
  | refund failed => exact .inl failed
  | settle succeeded => exact .inr succeeded
  | writeQuota final => exact final

theorem Owes.refunds_le_one :
    refunds ≤ 1 := by
  cases owes with
  | refund => omega
  | settle => omega
  | writeQuota _ _ _ once => exact once

end

theorem TaskPhase.billedOnce (phase : TaskPhase env origin state) :
    state.BilledOnce env origin := by
  cases phase with
  | running notFinal paid unrefunded _ _ =>
    refine ⟨by omega,fun _ => ⟨fun failed => ?_,fun succeeded => ?_⟩⟩
    · exact absurd (.inl failed) notFinal
    · exact absurd (.inr succeeded) notFinal
  | billed _ net paid failed succeeded once _ =>
    refine ⟨once,fun _ => ⟨fun isFailed notLegacy => ?_,fun isSuccess => ?_⟩⟩
    · exact failed isFailed notLegacy ▸ paid
    · exact succeeded isSuccess ▸ paid
  | owing busy poller found _ owes =>
    exact ⟨owes.refunds_le_one,fun quiescent => absurd (quiescent busy poller found) owes.busy⟩

theorem forall_setPoller {Holds : Nat → Poller → Prop}
    (others : ∀ other poller, state.pollers other = some poller → Holds other poller)
    (own : ∀ poller, value = some poller → Holds id poller) :
    ∀ other poller, (state.setPoller id value).pollers other = some poller →
      Holds other poller := by
  intro other poller found
  by_cases same : other = id
  · subst same
    exact own poller (by simpa [setPoller] using found)
  · exact others other poller (by simpa [setPoller,same] using found)

theorem TaskPhase.setPoller_idle (phase : TaskPhase env origin state)
    (idleBefore : ∀ poller, state.pollers id = some poller → poller.duty = .idle)
    (idleAfter : ∀ poller, value = some poller → poller.duty = .idle)
    (copyAfter : ¬ state.row.status.IsFinal → ∀ poller, value = some poller →
      ¬ poller.copy.status.IsFinal → poller.copy.quota = state.row.quota) :
    TaskPhase env origin (state.setPoller id value) := by
  cases phase with
  | running notFinal paid unrefunded quiescent copies =>
    exact .running notFinal paid unrefunded (forall_setPoller quiescent idleAfter)
      (forall_setPoller copies (copyAfter notFinal))
  | billed final net paid failed succeeded once quiescent =>
    exact .billed final net paid failed succeeded once (forall_setPoller quiescent idleAfter)
  | owing busy poller found others owes =>
    have different : busy ≠ id := by
      rintro rfl
      exact owes.busy (idleBefore poller found)
    have idle : ∀ other q, (state.setPoller id value).pollers other = some q → other ≠ busy →
        q.duty = .idle :=
      forall_setPoller (fun other q held notBusy => others other q notBusy held)
        (fun q isNew _ => idleAfter q isNew)
    exact .owing busy poller (by simp [setPoller,different,found])
      (fun other q notBusy held => idle other q held notBusy) owes

theorem TaskPhase.unbilled (phase : TaskPhase env origin state)
    (notFinal : ¬ state.row.status.IsFinal) :
    Holds origin state.row.quota env.account.funding state.store ∧ state.refunds = 0 ∧
      state.Quiescent ∧ ∀ id poller, state.pollers id = some poller →
        ¬ poller.copy.status.IsFinal → poller.copy.quota = state.row.quota := by
  cases phase with
  | running _ paid unrefunded quiescent copies => exact ⟨paid,unrefunded,quiescent,copies⟩
  | billed final => exact absurd final notFinal
  | owing _ _ _ _ owes => exact absurd owes.final notFinal

end

section

variable {env : PollingEnv} {origin : FundingOrigin} {state : TaskState} {id : Nat}
  {role : PollerRole} {copy : Task} {visit : Visit} {faults : FundingFaults}

theorem loadRow_keeps (invariant : TaskInvariant env origin state) {found : Bool}
    (unfinished : found = true → state.row.Unfinished) :
    TaskInvariant env origin (state.loadRow id role found) := by
  unfold loadRow
  by_cases free : ((state.pollers id).all fun poller => poller.duty = .idle) = true
  · have idle : ∀ poller, state.pollers id = some poller → poller.duty = .idle := by
      intro poller held
      simpa [held] using free
    split_ifs with loaded
    · have notFinal := (unfinished loaded).2
      refine ⟨invariant.phase.setPoller_idle idle ?_ ?_,forall_setPoller invariant.fresh ?_⟩
      · rintro poller ⟨⟩
        rfl
      · rintro - poller ⟨⟩ -
        rfl
      · rintro poller ⟨⟩ -
        exact notFinal
    · exact ⟨invariant.phase.setPoller_idle idle (by simp) (by simp),
        forall_setPoller invariant.fresh (by simp)⟩
  · rwa [if_neg free]

variable {poller : Poller} {report : UpdateReport} {newRole : PollerRole}

theorem visitRow_cases (state : TaskState) (notFinal : ¬ copy.status.IsFinal)
    (sound : visit.Sound copy) :
    state.visitRow id copy role report visit =
        state.setPoller id (some ⟨visit.copy, role, .idle⟩) ∨
      (state.row.status = copy.status ∧ state.visitRow id copy role report visit =
        { state with row := visit.copy }.setPoller id (some ⟨visit.copy, role, visit.won⟩)) := by
  unfold visitRow updateWithStatus
  split_ifs with writes fails moved
  · simp [setPoller,sound.otherwise]
  · simp [setPoller,sound.otherwise]
  · right
    refine ⟨not_not.mp moved,?_⟩
    by_cases same : visit.copy = state.row
    · -- The row keeps its status, so there is no work either way.
      have stays : ¬ visit.copy.status.IsFinal := by
        rwa [same,not_not.mp moved]
      simp [setPoller,sound.otherwise,(sound.pending stays).1]
    · simp [setPoller,same]
  · simp [setPoller,sound.otherwise]

/-- A poller that takes a step of its work stays the only one with work, or is done
with it. -/
theorem othersIdle_setPoller
    (others : ∀ other q, other ≠ id → state.pollers other = some q → q.duty = .idle) :
    (∀ other q, other ≠ id → (state.setPoller id (some poller)).pollers other = some q →
      q.duty = .idle) ∧
    (poller.duty = .idle → (state.setPoller id (some poller)).Quiescent) := by
  have kept : ∀ other q, other ≠ id → (state.setPoller id (some poller)).pollers other = some q →
      q.duty = .idle := by
    intro other q different held
    exact others other q different (by simpa [setPoller,different] using held)
  refine ⟨kept,fun done other q held => ?_⟩
  by_cases same : other = id
  · subst same
    have isNew : poller = q := by simpa [setPoller] using held
    exact isNew ▸ done
  · exact kept other q same held

theorem phase_of_won (phase : TaskPhase env origin state)
    (found : state.pollers id = some ⟨copy, role, .idle⟩) (notFinal : ¬ copy.status.IsFinal)
    (sound : visit.Sound copy) (matched : state.row.status = copy.status) :
    TaskPhase env origin
      ({ state with row := visit.copy }.setPoller id (some ⟨visit.copy, newRole, visit.won⟩)) := by
  obtain ⟨paid,unrefunded,quiescent,copies⟩ := phase.unbilled (matched ▸ notFinal)
  have sameQuota : copy.quota = state.row.quota := copies id _ found notFinal
  have paidCopy : Holds origin copy.quota env.account.funding state.store :=
    sameQuota.symm ▸ paid
  have alone := fun other (poller : Poller) (_ : other ≠ id) => quiescent other poller
  by_cases final : visit.copy.status.IsFinal
  · rcases final with failed | succeeded
    · rcases sound.failed failed with ⟨refunds,keeps,nonzero⟩ | ⟨idle,free⟩
      · refine .owing id ⟨visit.copy,newRole,visit.won⟩ (by simp [setPoller])
          (othersIdle_setPoller alone).1 ?_
        rw [refunds]
        exact .refund failed (keeps ▸ paidCopy) (keeps ▸ nonzero) unrefunded
      · refine .billed (.inl failed) copy.quota paidCopy ?_ ?_ (by simp [setPoller,unrefunded])
          ((othersIdle_setPoller alone).2 idle)
        · intro _ notLegacy
          exact free.resolve_left notLegacy
        · intro succeeded
          rw [setPoller,failed] at succeeded
          cases succeeded
    · obtain ⟨keeps,idle | ⟨actualQuota,settles,positive,moves⟩⟩ := sound.succeeded succeeded
      · refine .billed (.inr succeeded) copy.quota paidCopy ?_ (fun _ => keeps.symm)
          (by simp [setPoller,unrefunded]) ((othersIdle_setPoller alone).2 idle)
        intro failed
        rw [setPoller,succeeded] at failed
        cases failed
      · refine .owing id ⟨visit.copy,newRole,visit.won⟩ (by simp [setPoller])
          (othersIdle_setPoller alone).1 ?_
        rw [settles]
        exact .settle succeeded (keeps ▸ paidCopy) rfl positive moves unrefunded
  · obtain ⟨idle,keeps⟩ := sound.pending final
    refine .running final ?_ unrefunded ((othersIdle_setPoller alone).2 idle)
      (forall_setPoller ?_ ?_)
    · exact (keeps.trans sameQuota) ▸ paid
    · intro other poller held open_
      exact (copies other poller held open_).trans (keeps.trans sameQuota).symm
    · rintro poller ⟨⟩ -
      rfl

theorem visitRow_keeps (invariant : TaskInvariant env origin state)
    (found : state.pollers id = some ⟨copy, role, .idle⟩) (handled : newRole ≠ .timeout)
    (notFinal : ¬ copy.status.IsFinal) (sound : visit.Sound copy) :
    TaskInvariant env origin (state.visitRow id copy newRole report visit) := by
  have notTimeout : ∀ duty poller, some (⟨visit.copy,newRole,duty⟩ : Poller) = some poller →
      poller.role = .timeout → ¬ poller.copy.status.IsFinal := by
    rintro duty poller ⟨⟩ isTimeout
    exact absurd isTimeout handled
  rcases visitRow_cases state notFinal sound with same | ⟨matched,wins⟩
  · rw [same]
    refine ⟨invariant.phase.setPoller_idle ?_ ?_ ?_,
      forall_setPoller invariant.fresh (notTimeout .idle)⟩
    · intro poller held
      rw [found] at held
      cases held
      rfl
    · rintro poller ⟨⟩
      rfl
    · rintro final poller ⟨⟩ open_
      rw [(sound.pending open_).2]
      exact (invariant.phase.unbilled final).2.2.2 id _ found notFinal
  · rw [wins]
    exact ⟨phase_of_won invariant.phase found notFinal sound matched,
      forall_setPoller invariant.fresh (notTimeout visit.won)⟩

theorem taskAdjustFunding_cases {taken delta : Int} {after : BillingStore}
    {result : Except GoError Unit} {store : BillingStore} (nonzero : delta ≠ 0)
    (nonneg : 0 ≤ taken + delta) (paid : Holds origin taken env.account.funding store)
    (called : taskAdjustFunding env.config faults env.account delta store = (result, after)) :
    (∃ error, result = .error error ∧ Holds origin taken env.account.funding after) ∨
      (result = .ok () ∧ Holds origin (taken + delta) env.account.funding after) := by
  rw [taskAdjustFunding_eq_settle env.config faults env.account nonzero] at called
  obtain ⟨-,outcome⟩ := settle_cases paid called
  rwa [settledTaken_of_inRange (inRange_of_nonneg nonneg)] at outcome

theorem TaskPhase.owes_of_busy (phase : TaskPhase env origin state)
    (found : state.pollers id = some poller) (busy : poller.duty ≠ .idle) :
    Owes env.account.funding origin state.row state.store state.refunds poller ∧
      ∀ other q, other ≠ id → state.pollers other = some q → q.duty = .idle := by
  cases phase with
  | running _ _ _ quiescent | billed _ _ _ _ _ _ quiescent =>
    exact absurd (quiescent id _ found) busy
  | owing owner held ownerFound others owes =>
    have same : owner = id := by
      by_contra different
      exact busy (others id _ (Ne.symm different) found)
    subst same
    obtain rfl : held = poller := Option.some.inj (ownerFound.symm.trans found)
    exact ⟨owes,others⟩

variable (invariant : TaskInvariant env origin state)

include invariant

theorem fresh_sameStatus {next : Task} {before after : Duty}
    (found : state.pollers id = some ⟨copy, role, before⟩) (same : next.status = copy.status) :
    ∀ other poller, (state.setPoller id (some ⟨next, role, after⟩)).pollers other = some poller →
      poller.role = .timeout → ¬ poller.copy.status.IsFinal := by
  refine forall_setPoller invariant.fresh ?_
  rintro poller ⟨⟩ isTimeout
  exact same ▸ invariant.fresh id _ found isTimeout

theorem refund_keeps (found : state.pollers id = some ⟨copy, role, .refund⟩)
    (written : (taskAdjustFunding env.config faults env.account (-copy.quota) state.store).1 =
      .ok ()) :
    TaskInvariant env origin (state.step env (.adjustFunding id faults)) := by
  rcases called : taskAdjustFunding env.config faults env.account (-copy.quota) state.store with
    ⟨result,after⟩
  rw [called] at written
  cases written
  simp only [step,found,refundFunding,called]
  obtain ⟨owes,others⟩ := invariant.phase.owes_of_busy found (by simp)
  cases owes with
  | refund failed paid nonzero unrefunded =>
    have outcome := taskAdjustFunding_cases (by omega) (by omega) paid called
    rw [Int.add_right_neg] at outcome
    have returned : Holds origin 0 env.account.funding after := by
      rcases outcome with ⟨error,isError,-⟩ | ⟨-,returned⟩
      · cases isError
      · exact returned
    refine ⟨.owing id ⟨{ copy with quota := 0 },role,.writeQuota⟩ (by simp [setPoller])
      (othersIdle_setPoller others).1 ?_,fresh_sameStatus invariant found rfl⟩
    exact .writeQuota (.inl failed) returned (fun _ => rfl) (by simp [setPoller,unrefunded])

theorem recalculate_keeps {actualQuota : Int}
    (found : state.pollers id = some ⟨copy, role, .settle actualQuota⟩) :
    TaskInvariant env origin (state.step env (.adjustFunding id faults)) := by
  rcases called : taskAdjustFunding env.config faults env.account (actualQuota - copy.quota)
    state.store with ⟨result,after⟩
  simp only [step,found,recalculateFunding,called]
  obtain ⟨owes,others⟩ := invariant.phase.owes_of_busy found (by simp)
  cases owes with
  | settle succeeded paid sameQuota positive moves unrefunded =>
    have notFailed : state.row.status ≠ .failure := by simp [succeeded]
    have outcome := taskAdjustFunding_cases (by omega) (by omega) paid called
    rw [add_sub_cancel] at outcome
    rcases outcome with ⟨error,rfl,kept⟩ | ⟨rfl,moved⟩
    · refine ⟨.billed (.inr succeeded) copy.quota kept ?_ (fun _ => sameQuota)
        (by simp [setPoller,unrefunded]) ((othersIdle_setPoller others).2 rfl),
        fresh_sameStatus invariant found rfl⟩
      exact fun failed => absurd failed notFailed
    · refine ⟨.owing id ⟨{ copy with quota := actualQuota },role,.writeQuota⟩
        (by simp [setPoller]) (othersIdle_setPoller others).1 ?_,
        fresh_sameStatus invariant found rfl⟩
      exact .writeQuota (.inr succeeded) moved (fun failed => absurd failed notFailed)
        (by simp [setPoller,unrefunded])

theorem updateQuota_keeps (found : state.pollers id = some ⟨copy, role, .writeQuota⟩) :
    TaskInvariant env origin (state.step env (.updateQuota id none)) := by
  simp only [step,found]
  obtain ⟨owes,others⟩ := invariant.phase.owes_of_busy found (by simp)
  cases owes with
  | writeQuota final paid failed once =>
    exact ⟨.billed final copy.quota paid (fun isFailed _ => failed isFailed) (fun _ => rfl) once
      ((othersIdle_setPoller others).2 rfl),
      fresh_sameStatus invariant found rfl⟩

theorem bulkUpdate_keeps {failReason : Option String}
    (guarded : state.GuardedUpdates (.bulkUpdate failReason)) :
    TaskInvariant env origin (state.step env (.bulkUpdate failReason)) := by
  refine ⟨?_,invariant.fresh⟩
  cases invariant.phase with
  | running notFinal paid unrefunded quiescent =>
    refine .billed (.inl rfl) state.row.quota paid ?_ (by simp [step,taskBulkUpdate])
      (by simp [step,unrefunded]) quiescent
    intro _ notLegacy
    rcases guarded with failed | ⟨-,zero | legacy⟩
    · exact absurd (.inl failed) notFinal
    · exact zero
    · exact absurd legacy notLegacy
  | billed final net paid failed succeeded once quiescent =>
    have isFailed : state.row.status = .failure :=
      guarded.resolve_right fun pending => pending.1 final
    exact .billed (.inl rfl) net paid (fun _ => failed isFailed)
      (by simp [step,taskBulkUpdate]) once quiescent
  | owing busy poller found others owes =>
    have isFailed : state.row.status = .failure :=
      guarded.resolve_right fun pending => pending.1 owes.final
    refine .owing busy poller found others ?_
    cases owes with
    | refund _ paid nonzero unrefunded => exact .refund rfl paid nonzero unrefunded
    | settle succeeded => exact absurd (isFailed.symm.trans succeeded) (by simp)
    | writeQuota _ paid failed once =>
      exact .writeQuota (.inl rfl) paid (fun _ => failed isFailed) once

end

section

variable {env : PollingEnv} {origin : FundingOrigin}

theorem taskInvariant_step {state : TaskState} {event : TaskEvent}
    (invariant : TaskInvariant env origin state) (written : state.NoWriteFails env event)
    (guarded : state.GuardedUpdates event) : TaskInvariant env origin (state.step env event) := by
  cases event with
  | load => exact loadRow_keeps invariant of_decide_eq_true
  | loadTimedOut =>
    exact loadRow_keeps invariant fun found => (of_decide_eq_true found).1
  | sweep id now =>
    simp only [step]
    split
    · rename_i copy found
      exact visitRow_keeps invariant found (by simp) (invariant.fresh id _ found rfl)
        (sweepVisit_sound env.timeoutMinutes now copy)
    · exact invariant
  | suno id item =>
    simp only [step]
    split
    · rename_i copy found
      have notFinal := guarded _ found
      exact visitRow_keeps invariant found (by simp) notFinal
        (sunoVisit_sound env.marshal item notFinal)
    · exact invariant
  | video id now response =>
    simp only [step]
    split
    · rename_i copy found
      have notFinal := guarded _ found
      exact visitRow_keeps invariant found (by simp) notFinal
        (videoVisit_sound env.account env.adaptor env.proxyUrl now response notFinal)
    · exact invariant
  | adjustFunding id =>
    rcases held : state.pollers id with _ | ⟨copy,role,duty⟩
    · simpa only [step,held] using invariant
    · cases duty with
      | idle | writeQuota => simpa only [step,held] using invariant
      | refund => exact refund_keeps invariant held (written copy role held)
      | settle => exact recalculate_keeps invariant held
  | updateQuota id fault =>
    obtain rfl : fault = none := written
    rcases held : state.pollers id with _ | ⟨copy,role,duty⟩
    · simpa only [step,held] using invariant
    · cases duty with
      | idle | refund | settle actualQuota => simpa only [step,held] using invariant
      | writeQuota => exact updateQuota_keeps invariant held
  | bulkUpdate => exact bulkUpdate_keeps invariant guarded

theorem taskInvariant_inserted {state : TaskState} (inserted : state.Inserted env origin) :
    TaskInvariant env origin state := by
  have unloaded : ∀ id poller, state.pollers id ≠ some poller := by
    simp [inserted.unloaded]
  refine ⟨.running ?_ inserted.paid inserted.unrefunded ?_ ?_,?_⟩
  · simp [TaskStatus.IsFinal,inserted.status]
  all_goals exact fun id poller held => absurd held (unloaded id poller)

/-- Along every interleaving whose updates are guarded, the task is billed once. -/
theorem task_billed_once (env : PollingEnv) (origin : FundingOrigin) (start : TaskState)
    (events : List TaskEvent) (inserted : start.Inserted env origin)
    (guarded : Guarded (TaskState.step env)
      (fun state event => state.NoWriteFails env event ∧ state.GuardedUpdates event)
      start events) :
    Always (TaskState.step env) (TaskState.BilledOnce env origin) start events := by
  refine always_of_guarded (TaskInvariant env origin) ?_ ?_ (taskInvariant_inserted inserted)
    guarded
  · intro state invariant
    exact invariant.phase.billedOnce
  · intro state event invariant allowed
    exact taskInvariant_step invariant allowed.1 allowed.2

/-- A video task of user 1, paid per call from the wallet. -/
def walletTaskEnv : PollingEnv where
  config := ⟨false, false, 0, fun _ => ""⟩
  account := ⟨"task_1", 1, .wallet, 0, true⟩
  adaptor := ⟨fun _ _ => 0, fun _ _ => none⟩
  marshal := id
  serverAddress := ""
  timeoutMinutes := 60

def submittedTask : TaskState where
  row := ⟨100, .notStart, "", 1800000000, 0, 0, "0%", "", []⟩
  store :=
    { users := fun id => if id = 1 then some 900 else none
      tokens := fun _ => none
      queuedUserQuota := fun _ => 0
      queuedTokenQuota := fun _ => 0
      subscriptions := ⟨⟨[], List.nodup_nil⟩, fun _ => none, fun _ => none⟩ }
  pollers := fun _ => none
  refunds := 0

def walletOf1000 : FundingOrigin := ⟨fun _ => 1000, fun _ => 0, fun _ => le_rfl⟩

theorem submittedTask_inserted : submittedTask.Inserted walletTaskEnv walletOf1000 where
  status := rfl
  paid := ⟨rfl, rfl⟩
  unloaded _ := rfl
  unrefunded := rfl

def failureEvents : List TaskEvent :=
  [.load 0, .video 0 1800000100 (.parsed [] (failTaskInfo "refused") .notJson) ⟨false, false⟩,
    .adjustFunding 0 .succeeds, .updateQuota 0 none]

theorem task_billed_once_failure :
    submittedTask.Inserted walletTaskEnv walletOf1000 ∧
      Always (TaskState.step walletTaskEnv) (TaskState.BilledOnce walletTaskEnv walletOf1000)
        submittedTask failureEvents := by
  refine ⟨submittedTask_inserted,task_billed_once walletTaskEnv walletOf1000 submittedTask
    failureEvents submittedTask_inserted ⟨⟨trivial,trivial⟩,⟨trivial,?_⟩,⟨?_,trivial⟩,
      ⟨rfl,trivial⟩,trivial⟩⟩
  · rintro poller ⟨⟩
    decide
  · rintro copy role ⟨⟩
    rfl

/-- When the channel of the task is gone, the bulk update fails the task and the
quota is not returned. -/
theorem missingChannel_keeps_quota :
    submittedTask.Inserted walletTaskEnv walletOf1000 ∧
      Guarded (TaskState.step walletTaskEnv) (TaskState.NoWriteFails walletTaskEnv) submittedTask
        [.load 0, .bulkUpdate (some "Failed to get channel info, channel ID: 7")] ∧
      ¬ Always (TaskState.step walletTaskEnv) (TaskState.BilledOnce walletTaskEnv walletOf1000)
        submittedTask [.load 0, .bulkUpdate (some "Failed to get channel info, channel ID: 7")] := by
  refine ⟨submittedTask_inserted,⟨trivial,trivial,trivial⟩,fun always => ?_⟩
  obtain ⟨-,billed⟩ := always _ List.prefix_rfl
  have loaded : (submittedTask.setPoller 0 (some ⟨submittedTask.row,.poll,.idle⟩)).Quiescent := by
    apply forall_setPoller
    · intro id poller held
      cases held
    · rintro poller ⟨⟩
      rfl
  have returned := (billed loaded).1 rfl (by decide)
  exact absurd returned.2 (by decide)

end

end NewApi
