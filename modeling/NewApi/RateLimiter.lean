import NewApi.GuardedRuns
import NewApi.SlidingWindow

/-!
# The in-memory rate limiter

`common/rate-limit.go` keeps, for each key, the times of its newest admitted
requests.
-/

namespace NewApi

open GuardedRuns SlidingWindow List

/-- The limiter once it is initialised: a queue of times in seconds for each key, oldest first,
and the expiration time in nanoseconds. -/
structure InMemoryRateLimiter where
  store : String → Option (List Int)
  expirationDuration : Int

namespace InMemoryRateLimiter

/-- `Init` makes the store the first time only; later calls change nothing. -/
def init (declared : Option InMemoryRateLimiter) (expirationDuration : Int) :
    InMemoryRateLimiter :=
  match declared with
  | some limiter => limiter
  | none => { store := fun _ => none, expirationDuration }

def expirationSeconds (limiter : InMemoryRateLimiter) : Int :=
  limiter.expirationDuration.tdiv 1000000000

/-- The test of `clearExpiredItems` for one queue. -/
def idle (limiter : InMemoryRateLimiter) (now : Int) (queue : List Int) : Bool :=
  match queue.getLast? with
  | none => true
  | some newest => decide (limiter.expirationSeconds < now - newest)

/-- One pass of `clearExpiredItems`. The goroutine is started only for a positive expiration
time. -/
def clearExpiredItems (limiter : InMemoryRateLimiter) (now : Int) : InMemoryRateLimiter :=
  if 0 < limiter.expirationDuration then
    { limiter with store := fun key => (limiter.store key).filter fun queue =>
        !limiter.idle now queue }
  else limiter

def setQueue (limiter : InMemoryRateLimiter) (key : String) (queue : List Int) :
    InMemoryRateLimiter :=
  { limiter with store := Function.update limiter.store key (some queue) }

def request (limiter : InMemoryRateLimiter) (key : String) (maxRequestNum : Nat)
    (duration now : Int) : Bool × InMemoryRateLimiter :=
  match limiter.store key with
  | some queue =>
    if queue.length < maxRequestNum then (true, limiter.setQueue key (queue ++ [now]))
    else match queue with
      | oldest :: rest =>
        if duration ≤ now - oldest then (true, limiter.setQueue key (rest ++ [now]))
        else (false, limiter)
      -- a stored queue is never empty, so the index into it stays in range
      | [] => (false, limiter)
  | none => (true, limiter.setQueue key [now])

def queue (limiter : InMemoryRateLimiter) (key : String) : List Int :=
  (limiter.store key).getD []

variable (limiter : InMemoryRateLimiter)

@[simp]
theorem queue_setQueue_self (key : String) (times : List Int) :
    (limiter.setQueue key times).queue key = times := by
  simp [queue,setQueue]

theorem queue_setQueue_of_ne {key other : String} (times : List Int) (different : other ≠ key) :
    (limiter.setQueue key times).queue other = limiter.queue other := by
  simp [queue,setQueue,different]

theorem request_eq (key : String) {maxRequestNum : Nat} (positive : 0 < maxRequestNum)
    (duration now : Int) :
    limiter.request key maxRequestNum duration now =
      if hasRoom maxRequestNum duration now (limiter.queue key) then
        (true, limiter.setQueue key (push maxRequestNum (limiter.queue key) now))
      else (false, limiter) := by
  unfold request queue
  cases limiter.store key with
  | none => simp [hasRoom,push,positive]
  | some times =>
    by_cases notFull : times.length < maxRequestNum
    · simp [hasRoom,push,notFull]
    · cases times with
      | nil => simp [positive] at notFull
      | cons =>
        simp only [notFull,if_false,Option.getD_some,hasRoom,push,decide_false,
          Bool.false_or,head?_cons,Option.any_some,decide_eq_true_eq,tail_cons]

@[simp]
theorem expirationDuration_request (key : String) (maxRequestNum : Nat) (duration now : Int) :
    (limiter.request key maxRequestNum duration now).2.expirationDuration =
      limiter.expirationDuration := by
  unfold request
  repeat' split
  all_goals rfl

theorem queue_request_of_ne {key other : String} (maxRequestNum : Nat) (duration now : Int)
    (different : other ≠ key) :
    (limiter.request key maxRequestNum duration now).2.queue other = limiter.queue other := by
  unfold request
  repeat' split
  all_goals first
    | rfl
    | exact queue_setQueue_of_ne limiter _ different

@[simp]
theorem expirationDuration_clearExpiredItems (now : Int) :
    (limiter.clearExpiredItems now).expirationDuration = limiter.expirationDuration := by
  unfold clearExpiredItems
  split <;> rfl

theorem queue_clearExpiredItems (now : Int) (key : String) :
    (limiter.clearExpiredItems now).queue key =
      if 0 < limiter.expirationDuration ∧ limiter.idle now (limiter.queue key) then []
      else limiter.queue key := by
  by_cases sweeping : 0 < limiter.expirationDuration
  · simp only [clearExpiredItems,queue,sweeping,if_true]
    cases limiter.store key with
    | none => simp
    | some times =>
      rw [Option.filter_some]
      by_cases dropped : limiter.idle now times = true <;> simp [dropped]
  · simp [clearExpiredItems,sweeping]

theorem idle_of_getLast {now newest : Int} {times : List Int}
    (last : times.getLast? = some newest) :
    limiter.idle now times = decide (limiter.expirationSeconds < now - newest) := by
  unfold idle
  rw [last]

end InMemoryRateLimiter

/-- What happens to the limiter, with the time in seconds at which it happens. -/
inductive LimiterEvent
  | request (key : String) (maxRequestNum : Nat) (duration now : Int)
  | clearExpiredItems (now : Int)

@[simp]
def LimiterEvent.time : LimiterEvent → Int
  | .request _ _ _ now => now
  | .clearExpiredItems now => now

def limiterStep (limiter : InMemoryRateLimiter) : LimiterEvent → InMemoryRateLimiter
  | .request key maxRequestNum duration now =>
    (limiter.request key maxRequestNum duration now).2
  | .clearExpiredItems now => limiter.clearExpiredItems now

def admittedBy (key : String) (limiter : InMemoryRateLimiter) : LimiterEvent → List Int
  | .request requested maxRequestNum duration now =>
    if requested = key ∧ (limiter.request requested maxRequestNum duration now).1 then [now]
    else []
  | .clearExpiredItems _ => []

/-- The times at which a run admits requests for the key. -/
def admitted (key : String) : InMemoryRateLimiter → List LimiterEvent → List Int :=
  outputs limiterStep (admittedBy key)

variable (limiter : InMemoryRateLimiter)

theorem admitted_append (key : String) (first second : List LimiterEvent) :
    admitted key limiter (first ++ second) =
      admitted key limiter first ++ admitted key (run limiterStep limiter first) second :=
  outputs_append limiterStep (admittedBy key) limiter first second

def InOrder (events : List LimiterEvent) : Prop :=
  events.Pairwise fun earlier later => earlier.time ≤ later.time

def FixedLimit (key : String) (maxRequestNum : Nat) (duration : Int)
    (events : List LimiterEvent) : Prop :=
  ∀ limit window now, LimiterEvent.request key limit window now ∈ events →
    limit = maxRequestNum ∧ window = duration

theorem FixedLimit.of_subset {key : String} {maxRequestNum : Nat} {duration : Int}
    {part events : List LimiterEvent} (fixed : FixedLimit key maxRequestNum duration events)
    (subset : part ⊆ events) : FixedLimit key maxRequestNum duration part :=
  fun limit window now member => fixed limit window now (subset member)

/-- Whenever a request for the key is rejected, as many requests as the limit allows have been
admitted in the `duration` seconds up to it. -/
def RejectsOnlyWhenFull (key : String) (maxRequestNum : Nat) (duration : Int)
    (start : InMemoryRateLimiter) (events : List LimiterEvent) : Prop :=
  ∀ before now after, events = before ++ .request key maxRequestNum duration now :: after →
    ((run limiterStep start before).request key maxRequestNum duration now).1 = false →
      maxRequestNum ≤ recent duration now (admitted key start before)

structure LimitsKey (key : String) (maxRequestNum : Nat) (duration : Int)
    (start : InMemoryRateLimiter) (events : List LimiterEvent) : Prop where
  bounded : Bounded maxRequestNum duration (admitted key start events)
  rejects : RejectsOnlyWhenFull key maxRequestNum duration start events

/-- The background passes forget nothing that a window of `duration` seconds still counts. -/
def SweepsLate (duration expirationDuration : Int) : Prop :=
  expirationDuration ≤ 0 ∨ duration ≤ expirationDuration.tdiv 1000000000 + 1

instance (duration expirationDuration : Int) :
    Decidable (SweepsLate duration expirationDuration) :=
  inferInstanceAs (Decidable (_ ∨ _))

theorem expirationDuration_run (events : List LimiterEvent) :
    (run limiterStep limiter events).expirationDuration = limiter.expirationDuration := by
  induction events generalizing limiter with
  | nil => rfl
  | cons event events ih =>
    rw [run_cons,ih]
    cases event with
    | request key maxRequestNum duration now =>
      exact limiter.expirationDuration_request key maxRequestNum duration now
    | clearExpiredItems now => exact limiter.expirationDuration_clearExpiredItems now

section

variable {key : String} {maxRequestNum : Nat} {duration : Int}
  {limiter : InMemoryRateLimiter} {history : List Int}

/-- What a run keeps for the key: its queue stands for the admitted times, and no window of them
is overfull. -/
structure KeyInvariant (key : String) (maxRequestNum : Nat) (duration clock : Int)
    (limiter : InMemoryRateLimiter) (history : List Int) : Prop where
  tracks : SlidingWindow.Tracks maxRequestNum duration clock history (limiter.queue key)
  bounded : Bounded maxRequestNum duration history

variable {now : Int}

theorem KeyInvariant.admits_iff (kept : KeyInvariant key maxRequestNum duration now limiter history)
    (positive : 0 < maxRequestNum) :
    (limiter.request key maxRequestNum duration now).1 = true ↔
      recent duration now history < maxRequestNum := by
  rw [limiter.request_eq key positive,← kept.tracks.hasRoom_iff positive]
  split
  next room => simp [room]
  next full => simp [full]

theorem KeyInvariant.request (kept : KeyInvariant key maxRequestNum duration now limiter history)
    (positive : 0 < maxRequestNum) :
    KeyInvariant key maxRequestNum duration now
      (limiterStep limiter (.request key maxRequestNum duration now))
      (history ++ admittedBy key limiter (.request key maxRequestNum duration now)) := by
  have admits := kept.admits_iff positive
  simp only [limiterStep,admittedBy]
  rw [limiter.request_eq key positive] at admits ⊢
  by_cases room : hasRoom maxRequestNum duration now (limiter.queue key) = true
  · simp only [room,if_true,true_iff] at admits ⊢
    refine ⟨?_,kept.bounded.concat kept.tracks.past admits⟩
    simpa using kept.tracks.push positive
  · simpa [room] using kept

theorem KeyInvariant.clearExpiredItems
    (kept : KeyInvariant key maxRequestNum duration now limiter history)
    (sweepsLate : SweepsLate duration limiter.expirationDuration) :
    KeyInvariant key maxRequestNum duration now (limiter.clearExpiredItems now) history := by
  refine ⟨?_,kept.bounded⟩
  rw [limiter.queue_clearExpiredItems]
  split
  next dropped =>
    obtain ⟨sweeping,idle⟩ := dropped
    cases last : (limiter.queue key).getLast? with
    | none =>
      rw [getLast?_eq_none_iff] at last
      exact last ▸ kept.tracks
    | some newest =>
      -- the newest time of the queue has left the window, and so have all the others
      rw [limiter.idle_of_getLast last,decide_eq_true_eq] at idle
      apply kept.tracks.forget
      intro stamp member
      have atMost := kept.tracks.le_getLast last member
      have late : duration ≤ limiter.expirationSeconds + 1 :=
        sweepsLate.resolve_left (by omega)
      omega
  next => exact kept.tracks

theorem KeyInvariant.step (event : LimiterEvent)
    (kept : KeyInvariant key maxRequestNum duration event.time limiter history)
    (positive : 0 < maxRequestNum) (sweepsLate : SweepsLate duration limiter.expirationDuration)
    (fixed : FixedLimit key maxRequestNum duration [event]) :
    KeyInvariant key maxRequestNum duration event.time (limiterStep limiter event)
      (history ++ admittedBy key limiter event) := by
  cases event with
  | clearExpiredItems =>
    simpa [admittedBy,limiterStep] using kept.clearExpiredItems sweepsLate
  | request requested limit window now =>
    by_cases same : requested = key
    · subst same
      obtain ⟨rfl,rfl⟩ := fixed limit window now (by simp)
      exact kept.request positive
    · have untouched :=
        limiter.queue_request_of_ne limit window now (show key ≠ requested from Ne.symm same)
      refine ⟨?_,by simpa [admittedBy,same] using kept.bounded⟩
      simp only [limiterStep,admittedBy,same,false_and,if_false,append_nil,untouched]
      exact kept.tracks

variable {expirationDuration : Int} {events : List LimiterEvent}

theorem keyInvariant_run (positive : 0 < maxRequestNum)
    (sweepsLate : SweepsLate duration expirationDuration)
    (inOrder : InOrder events) (fixed : FixedLimit key maxRequestNum duration events)
    (past : ∀ event ∈ events, event.time ≤ now) :
    KeyInvariant key maxRequestNum duration now
      (run limiterStep (.init none expirationDuration) events)
      (admitted key (.init none expirationDuration) events) := by
  -- the last event comes last in time, so the induction peels events off the end
  induction events using reverseRecOn generalizing now with
  | nil => exact ⟨SlidingWindow.Tracks.empty maxRequestNum duration now,bounded_nil maxRequestNum duration⟩
  | append_singleton events event ih =>
    have split := pairwise_append.mp inOrder
    have before : ∀ earlier ∈ events, earlier.time ≤ event.time := fun earlier member =>
      split.2.2 earlier member event (by simp)
    have kept := ih split.1 (fixed.of_subset (subset_append_left _ _)) before
    have sameExpiration :
        (run limiterStep (.init none expirationDuration) events).expirationDuration =
          expirationDuration := expirationDuration_run _ _
    have stepped := kept.step event positive (by rwa [sameExpiration])
      (fixed.of_subset (subset_append_right _ _))
    rw [run_append,admitted_append]
    simp only [admitted,outputs_singleton]
    exact ⟨stepped.tracks.later (past event (by simp)),stepped.bounded⟩

theorem limitsKey_of_sweepsLate (positive : 0 < maxRequestNum)
    (sweepsLate : SweepsLate duration expirationDuration)
    (inOrder : InOrder events) (fixed : FixedLimit key maxRequestNum duration events) :
    LimitsKey key maxRequestNum duration (.init none expirationDuration) events where
  bounded := by
    obtain ⟨latest,past⟩ : ∃ latest, ∀ event ∈ events, event.time ≤ latest := by
      obtain ⟨latest,bound⟩ := (events.map LimiterEvent.time).toFinset.bddAbove
      exact ⟨latest,fun event member => bound (by simpa using ⟨event,member,rfl⟩)⟩
    exact (keyInvariant_run positive sweepsLate inOrder fixed past).bounded
  rejects := by
    intro before now after split rejected
    subst split
    have parts := pairwise_append.mp inOrder
    have past : ∀ event ∈ before, event.time ≤ now := fun event member =>
      parts.2.2 event member (.request key maxRequestNum duration now) (by simp)
    have kept := keyInvariant_run positive sweepsLate parts.1
      (fixed.of_subset (subset_append_left _ _)) past
    have admits := kept.admits_iff positive
    rw [rejected] at admits
    simpa using admits

theorem fill_queue (key : String) (duration expirationDuration : Int)
    (positive : 0 < maxRequestNum) {count : Nat} (atMost : count ≤ maxRequestNum) :
    (run limiterStep (.init none expirationDuration)
        (replicate count (.request key maxRequestNum duration 0))).queue key =
      replicate count 0 ∧
    admitted key (.init none expirationDuration)
        (replicate count (.request key maxRequestNum duration 0)) =
      replicate count 0 := by
  induction count with
  | zero => exact ⟨rfl,rfl⟩
  | succ count ih =>
    obtain ⟨queued,counted⟩ := ih (by omega)
    have room : count < maxRequestNum := by omega
    rw [replicate_succ',run_append,admitted_append]
    simp only [run_cons,admitted,outputs_singleton,limiterStep,admittedBy] at counted ⊢
    rw [counted]
    rw [InMemoryRateLimiter.request_eq _ key positive,queued]
    simp [hasRoom,push,room,replicate_succ']

def forgottenBurst (key : String) (maxRequestNum : Nat) (duration expirationSeconds : Int) :
    List LimiterEvent :=
  replicate maxRequestNum (.request key maxRequestNum duration 0) ++
    [.clearExpiredItems (expirationSeconds + 1),
      .request key maxRequestNum duration (expirationSeconds + 1)]

theorem forgottenBurst_inOrder {expirationSeconds : Int} (later : 0 ≤ expirationSeconds) :
    InOrder (forgottenBurst key maxRequestNum duration expirationSeconds) := by
  unfold InOrder forgottenBurst
  rw [pairwise_append]
  refine ⟨pairwise_replicate.mpr (Or.inr le_rfl),by simp,?_⟩
  intro first firstMem second secondMem
  obtain ⟨-,rfl⟩ := mem_replicate.mp firstMem
  simp only [mem_cons,not_mem_nil,or_false] at secondMem
  rcases secondMem with rfl | rfl <;> simp <;> omega

theorem forgottenBurst_fixedLimit (expirationSeconds : Int) :
    FixedLimit key maxRequestNum duration
      (forgottenBurst key maxRequestNum duration expirationSeconds) := by
  intro limit window now member
  rcases mem_append.mp member with burst | last
  · cases (mem_replicate.mp burst).2
    exact ⟨rfl,rfl⟩
  · simp only [mem_cons,not_mem_nil,or_false,reduceCtorEq,false_or] at last
    cases last
    exact ⟨rfl,rfl⟩

/-- The pass leaves no queue behind, so the request after it is admitted. -/
theorem admitted_forgottenBurst (key : String) (duration : Int) (positive : 0 < maxRequestNum)
    (sweeping : 0 < expirationDuration) :
    admitted key (.init none expirationDuration)
        (forgottenBurst key maxRequestNum duration (expirationDuration.tdiv 1000000000)) =
      replicate maxRequestNum 0 ++ [expirationDuration.tdiv 1000000000 + 1] := by
  obtain ⟨queued,counted⟩ :=
    fill_queue key duration expirationDuration positive (le_refl maxRequestNum)
  have sameExpiration := expirationDuration_run (.init none expirationDuration)
    (replicate maxRequestNum (.request key maxRequestNum duration 0))
  unfold forgottenBurst
  rw [admitted_append,counted]
  generalize run limiterStep (.init none expirationDuration)
    (replicate maxRequestNum (.request key maxRequestNum duration 0)) = full
    at queued sameExpiration ⊢
  have seconds : full.expirationSeconds = expirationDuration.tdiv 1000000000 := by
    rw [InMemoryRateLimiter.expirationSeconds,sameExpiration]
    rfl
  have last : (full.queue key).getLast? = some 0 := by
    rw [queued,getLast?_replicate,if_neg (by omega)]
  have swept : (full.clearExpiredItems (expirationDuration.tdiv 1000000000 + 1)).queue key = [] := by
    rw [full.queue_clearExpiredItems,if_pos]
    refine ⟨sameExpiration ▸ sweeping,?_⟩
    rw [full.idle_of_getLast last,decide_eq_true_eq]
    omega
  simp only [admitted,outputs,admittedBy,limiterStep]
  rw [InMemoryRateLimiter.request_eq _ key positive,swept]
  simp [hasRoom,positive]

/-- A pass that comes before the window has passed lets the burst be followed by one request too
many. -/
theorem forgottenBurst_overfull (key : String) (positive : 0 < maxRequestNum)
    (sweeping : 0 < expirationDuration)
    (early : expirationDuration.tdiv 1000000000 + 1 < duration) :
    ¬ Bounded maxRequestNum duration (admitted key (.init none expirationDuration)
      (forgottenBurst key maxRequestNum duration (expirationDuration.tdiv 1000000000))) := by
  intro bounded
  have nonneg : 0 ≤ expirationDuration.tdiv 1000000000 := Int.tdiv_nonneg sweeping.le (by decide)
  have atZero := bounded 0
  rw [admitted_forgottenBurst key duration positive sweeping] at atZero
  have everyone : inWindow duration 0
      (replicate maxRequestNum 0 ++ [expirationDuration.tdiv 1000000000 + 1]) =
        maxRequestNum + 1 := by
    unfold inWindow
    rw [countP_eq_length.mpr]
    · simp
    · intro stamp member
      rw [decide_eq_true_eq]
      rcases mem_append.mp member with burst | last
      · have := (mem_replicate.mp burst).2
        omega
      · have := mem_singleton.mp last
        omega
  omega

end

/-- A limiter keeps its promise for a key in every run exactly when its background passes forget
nothing that the key's window still counts. -/
theorem window_bound_iff_sweepsLate (key : String) (maxRequestNum : Nat)
    (duration expirationDuration : Int) (positiveMax : 0 < maxRequestNum) :
    (∀ events, InOrder events → FixedLimit key maxRequestNum duration events →
      LimitsKey key maxRequestNum duration (.init none expirationDuration) events) ↔
      SweepsLate duration expirationDuration := by
  constructor
  · intro limits
    by_contra early
    simp only [SweepsLate,not_or,not_le] at early
    have nonneg : 0 ≤ expirationDuration.tdiv 1000000000 :=
      Int.tdiv_nonneg early.1.le (by decide)
    exact forgottenBurst_overfull key positiveMax early.1 early.2
      (limits _ (forgottenBurst_inOrder nonneg) (forgottenBurst_fixedLimit _)).bounded
  · intro sweepsLate events inOrder fixed
    exact limitsKey_of_sweepsLate positiveMax sweepsLate inOrder fixed

/-- A limiter that drops queues after twenty idle minutes keeps the critical limit of twenty
requests in twenty minutes. -/
theorem twenty_minute_window_kept :
    LimitsKey "CT10.0.0.1" 20 1200 (.init none (1200 * 1000000000))
      [.request "CT10.0.0.1" 20 1200 0, .clearExpiredItems 1201] := by
  refine (window_bound_iff_sweepsLate "CT10.0.0.1" 20 1200 (1200 * 1000000000)
    (by decide)).mpr (by decide) _ (by simp [InOrder]) fun limit window now member => ?_
  simp only [mem_cons,not_mem_nil,or_false,LimiterEvent.request.injEq,
    reduceCtorEq] at member
  omega

/-- The first caller has set an expiration time of twenty minutes, and a later `Init` with an
hour changes nothing. One request an hour is allowed, yet a request at time 0, a pass after 1201
seconds and a request a second later leave two admitted requests in one hour. -/
theorem hour_window_overfull :
    ∃ events, InOrder events ∧ FixedLimit "MRRLS7_check" 1 3600 events ∧
      inWindow 3600 0 (admitted "MRRLS7_check"
        (.init (some (.init none (1200 * 1000000000))) (3600 * 1000000000)) events) = 2 := by
  refine ⟨[.request "MRRLS7_check" 1 3600 0, .clearExpiredItems 1201,
    .request "MRRLS7_check" 1 3600 1202],?_,?_,by decide +kernel⟩
  · simp [InOrder]
  · intro limit window now member
    simp only [mem_cons,not_mem_nil,or_false,LimiterEvent.request.injEq,
      reduceCtorEq,false_or] at member
    omega

end NewApi
