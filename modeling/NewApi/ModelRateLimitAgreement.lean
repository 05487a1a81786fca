import NewApi.ModelRateLimit

/-!
# When the two back ends of the success limit admit the same requests

The limiter's queue stands for the times at which the relayed requests began, the Redis list for
the times at which the successful ones ended.
-/

namespace NewApi

open GuardedRuns SlidingWindow RedisExpiry InMemoryRateLimiter TrafficEvent List

/-! ### The Redis list of a key -/

/-- What a sequence keeps for a list in Redis: it stands for the recorded times, and it expires
one window after the newest of them. -/
structure RedisInvariant (key : String) (maxCount : Nat) (span clock : Int)
    (lists : String → Option RedisList) (history : List Int) : Prop where
  tracks : SlidingWindow.Tracks maxCount span clock history
    (((lists key).map RedisList.entries).getD []).reverse
  expires : ∀ list newest, lists key = some list → list.entries.head? = some newest →
    list.expireAt = newest + span

section

variable {redis : RedisExpiry} {key : String} {maxCount : Nat} {span clock now : Int}
  {lists : String → Option RedisList} {history : List Int}

/-- A list that has expired held no time inside the window any more. -/
theorem RedisInvariant.live (kept : RedisInvariant key maxCount span clock lists history)
    (after : clock ≤ now) :
    SlidingWindow.Tracks maxCount span now history (redis.lRange lists key now).reverse := by
  have tracks := kept.tracks.later after
  unfold lRange
  cases stored : lists key with
  | none => simpa [stored] using tracks
  | some list =>
    rw [stored] at tracks
    by_cases expired : redis.expired list.expireAt now = true
    · simp only [expired]
      cases newestOf : list.entries.head? with
      | none =>
        rw [head?_eq_none_iff] at newestOf
        simpa [newestOf] using tracks
      | some newest =>
        apply tracks.forget
        intro stamp member
        have atMost : stamp ≤ newest := tracks.le_getLast (by simpa using newestOf) member
        have deadline := kept.expires list newest stored newestOf
        have := redis.waits list.expireAt now expired
        omega
    · simpa [expired] using tracks

variable (redis : RedisExpiry) {entries : List Int}

theorem checkRedisRateLimit_eq (lists : String → Option RedisList) (key : String)
    (positive : 0 < maxCount) (duration now : Int) :
    checkRedisRateLimit redis lists key maxCount duration now =
      .ok (hasRoom maxCount (duration * 1000) now (redis.lRange lists key now).reverse) := by
  unfold checkRedisRateLimit hasRoom
  rw [if_neg (by omega)]
  generalize redis.lRange lists key now = entries
  by_cases notFull : entries.length < maxCount
  · simp [notFull]
  · cases oldest : entries.getLast? with
    | none =>
      rw [getLast?_eq_none_iff] at oldest
      simp [oldest] at notFull
      omega
    | some => simp [notFull,oldest]

theorem lTrim_cons (positive : 0 < maxCount) (now : Int) :
    lTrim (now :: entries) ((maxCount : Int) - 1) = now :: entries.take (maxCount - 1) := by
  unfold lTrim
  rw [if_neg (by omega),show ((maxCount : Int) - 1 + 1).toNat = maxCount - 1 + 1 by omega,
    take_succ_cons]

theorem lTrim_reverse (positive : 0 < maxCount) (short : entries.length ≤ maxCount) (now : Int) :
    (lTrim (now :: entries) ((maxCount : Int) - 1)).reverse =
      push maxCount entries.reverse now := by
  rw [lTrim_cons positive,reverse_cons,push,length_reverse]
  split
  next notFull => rw [take_of_length_le (by omega)]
  next full =>
    have allButLast : entries.take (maxCount - 1) = entries.dropLast := by
      rw [dropLast_eq_take,show entries.length = maxCount by omega]
    rw [allButLast,tail_reverse]

theorem RedisInvariant.record {limit : ModelLimit}
    (kept : RedisInvariant key maxCount (limit.duration * 1000) clock lists history)
    (positive : 0 < maxCount) (after : clock ≤ now) :
    RedisInvariant key maxCount (limit.duration * 1000) now
      (recordRedisRequest redis limit lists key maxCount now) (history ++ [now]) := by
  have live : SlidingWindow.Tracks maxCount (limit.duration * 1000) now history
      (redis.lRange lists key now).reverse := kept.live after
  have short : (redis.lRange lists key now).length ≤ maxCount := by simpa using live.short
  have pushed := live.push positive
  rw [← lTrim_reverse positive short now] at pushed
  unfold recordRedisRequest
  rw [if_neg (by omega)]
  refine ⟨by simpa using pushed,?_⟩
  intro list newest stored newestOf
  simp only [Function.update_self,Option.some.injEq] at stored
  subst stored
  rw [lTrim_cons positive] at newestOf
  obtain rfl := Option.some.inj newestOf
  simp only [ModelLimit.duration]

theorem RedisInvariant.record_other (limit : ModelLimit) {other : String}
    (kept : RedisInvariant key maxCount span clock lists history) (different : key ≠ other)
    (count now : Int) :
    RedisInvariant key maxCount span clock (recordRedisRequest redis limit lists other count now)
      history := by
  unfold recordRedisRequest
  split
  · exact kept
  · have same : ∀ list, Function.update lists other list key = lists key := fun list =>
      Function.update_of_ne different list lists
    exact ⟨by rw [same]; exact kept.tracks,fun list newest stored =>
      kept.expires list newest (by rwa [same] at stored)⟩

end

/-! ### The handlers and the requests they have relayed -/

theorem memorySuccessKey_injective : Function.Injective memorySuccessKey := by
  intro first second same
  have texts := congrArg String.toList same
  simp only [memorySuccessKey,String.toList_append,
    append_cancel_left_eq,append_cancel_right_eq] at texts
  exact GoStrings.toString_injective (String.toList_injective texts)

theorem redisSuccessKey_injective : Function.Injective redisSuccessKey := by
  intro first second same
  have texts := congrArg String.toList same
  simp only [redisSuccessKey,String.toList_append,append_cancel_left_eq] at texts
  exact GoStrings.toString_injective (String.toList_injective texts)

variable {events : List TrafficEvent}

section

variable {redis : RedisExpiry} {limit : ModelLimit} {declared : Option InMemoryRateLimiter}
  {lists : String → Option RedisList} {history : List ModelRequest} {clock now : Int}

structure MemoryInvariant (limit : ModelLimit) (clock : Int)
    (declared : Option InMemoryRateLimiter) (history : List ModelRequest) : Prop where
  sweepsLate : SweepsLate limit.duration
    (InMemoryRateLimiter.init declared limit.expirationDuration).expirationDuration
  users : ∀ user, KeyInvariant (memorySuccessKey user) limit.successMaxCount.toNat limit.duration
    clock (.init declared limit.expirationDuration) (memoryStamps user history)

theorem MemoryInvariant.clearExpiredItems (kept : MemoryInvariant limit now declared history) :
    MemoryInvariant limit now (memoryStep limit declared (.clearExpiredItems now)) history := by
  cases declared with
  | none => exact kept
  | some =>
    refine ⟨?_,fun user => (kept.users user).clearExpiredItems kept.sweepsLate⟩
    simpa [init,memoryStep] using kept.sweepsLate

theorem MemoryInvariant.later (kept : MemoryInvariant limit clock declared history)
    (after : clock ≤ now) : MemoryInvariant limit now declared history :=
  ⟨kept.sweepsLate,fun user =>
    ⟨(kept.users user).tracks.later after,(kept.users user).bounded⟩⟩

def RedisKept (limit : ModelLimit) (clock : Int) (lists : String → Option RedisList)
    (history : List ModelRequest) : Prop :=
  ∀ user, RedisInvariant (redisSuccessKey user) limit.successMaxCount.toNat
    (limit.duration * 1000) clock lists (redisStamps user history)

theorem RedisKept.later (kept : RedisKept limit clock lists history) (after : clock ≤ now) :
    RedisKept limit now lists history := fun user =>
  ⟨(kept user).tracks.later after, (kept user).expires⟩

variable (positive : 0 < limit.successMaxCount)

include positive

theorem memoryRateLimitHandler_eq (declared : Option InMemoryRateLimiter) (request : ModelRequest) :
    memoryRateLimitHandler limit declared request =
      let asked := (init declared limit.expirationDuration).request
        (memorySuccessKey request.user) limit.successMaxCount.toNat limit.duration
        (request.start / 1000)
      (if asked.1 then .next else .abort 429 "", some asked.2) := by
  unfold memoryRateLimitHandler
  simp only [positive,if_true]
  split
  next after asked => rw [asked]; rfl
  next after asked => rw [asked]; rfl

theorem redisRateLimitHandler_eq (lists : String → Option RedisList) (request : ModelRequest) :
    redisRateLimitHandler redis limit lists request =
      if hasRoom limit.successMaxCount.toNat (limit.duration * 1000) request.start
          (redis.lRange lists (redisSuccessKey request.user) request.start).reverse then
        (.next, if request.status < 400 then
          recordRedisRequest redis limit lists (redisSuccessKey request.user)
            limit.successMaxCount request.finish
        else lists)
      else (.abort 429 ("您已达到请求数限制：" ++ toString limit.minutes ++ "分钟内最多请求" ++
        toString limit.successMaxCount ++ "次"), lists) := by
  have count : ((limit.successMaxCount.toNat : Nat) : Int) = limit.successMaxCount := by omega
  have checked := checkRedisRateLimit_eq redis lists (redisSuccessKey request.user)
    (show 0 < limit.successMaxCount.toNat by omega) limit.duration request.start
  rw [count] at checked
  unfold redisRateLimitHandler
  dsimp only
  rw [checked]
  cases hasRoom limit.successMaxCount.toNat (limit.duration * 1000) request.start
    (redis.lRange lists (redisSuccessKey request.user) request.start).reverse <;> rfl

theorem MemoryInvariant.relays_iff {request : ModelRequest}
    (kept : MemoryInvariant limit (request.start / 1000) declared history) :
    (memoryRateLimitHandler limit declared request).1 = .next ↔
      recent limit.duration (request.start / 1000) (memoryStamps request.user history) <
        limit.successMaxCount.toNat := by
  rw [memoryRateLimitHandler_eq positive,← (kept.users request.user).admits_iff (by omega)]
  dsimp only
  split
  next admitted => simp [admitted]
  next refused => simp [refused]

theorem memoryStamps_answer (declared : Option InMemoryRateLimiter) (request : ModelRequest)
    (user : Nat) :
    memoryStamps user (relayed (memoryAnswer limit declared (.request request))) =
      admittedBy (memorySuccessKey user) (.init declared limit.expirationDuration)
        (.request (memorySuccessKey request.user) limit.successMaxCount.toNat limit.duration
          (request.start / 1000)) := by
  simp only [memoryAnswer,admittedBy]
  rw [memoryRateLimitHandler_eq positive]
  generalize (init declared limit.expirationDuration).request
    (memorySuccessKey request.user) limit.successMaxCount.toNat limit.duration
    (request.start / 1000) = asked
  obtain ⟨admitted,after⟩ := asked
  by_cases own : request.user = user
  · cases admitted <;> simp [memoryStamps,relayed,own]
  · have otherKey : memorySuccessKey request.user ≠ memorySuccessKey user :=
      memorySuccessKey_injective.ne own
    cases admitted <;> simp [memoryStamps,relayed,own,otherKey]

theorem MemoryInvariant.request {request : ModelRequest}
    (kept : MemoryInvariant limit (request.start / 1000) declared history) :
    MemoryInvariant limit (request.start / 1000) (memoryStep limit declared (.request request))
      (history ++ relayed (memoryAnswer limit declared (.request request))) := by
  have state : memoryStep limit declared (.request request) =
      some (limiterStep (.init declared limit.expirationDuration)
        (.request (memorySuccessKey request.user) limit.successMaxCount.toNat limit.duration
          (request.start / 1000))) := by
    rw [memoryStep,memoryRateLimitHandler_eq positive]
    rfl
  refine ⟨?_,fun user => ?_⟩
  · rw [state]
    simpa [init,limiterStep] using kept.sweepsLate
  · rw [state,memoryStamps,filter_append,map_append,← memoryStamps,← memoryStamps,
      memoryStamps_answer positive]
    have positiveNat : 0 < limit.successMaxCount.toNat := by omega
    refine KeyInvariant.step (.request (memorySuccessKey request.user) _ _ (request.start / 1000))
      (kept.users user) positiveNat kept.sweepsLate ?_
    intro count window at_ member
    simp only [mem_singleton,LimiterEvent.request.injEq] at member
    exact ⟨member.2.1,member.2.2.1⟩

theorem RedisKept.relays_iff (redis : RedisExpiry) {request : ModelRequest}
    (kept : RedisKept limit request.start lists history) :
    (redisRateLimitHandler redis limit lists request).1 = .next ↔
      recent (limit.duration * 1000) request.start (redisStamps request.user history) <
        limit.successMaxCount.toNat := by
  have live : SlidingWindow.Tracks limit.successMaxCount.toNat (limit.duration * 1000) request.start
      (redisStamps request.user history)
      (redis.lRange lists (redisSuccessKey request.user) request.start).reverse :=
    (kept request.user).live le_rfl
  rw [redisRateLimitHandler_eq positive,← live.hasRoom_iff (by omega)]
  split
  next room => simp [room]
  next full => simp [full]

theorem RedisKept.request {request : ModelRequest}
    (kept : RedisKept limit request.start lists history)
    (sensible : request.start ≤ request.finish) :
    RedisKept limit request.finish (redisStep redis limit lists (.request request))
      (history ++ relayed (redisAnswer redis limit lists (.request request))) := by
  intro user
  have count : ((limit.successMaxCount.toNat : Nat) : Int) = limit.successMaxCount := by omega
  have later := kept.later sensible
  simp only [redisStep,redisAnswer]
  rw [redisRateLimitHandler_eq positive]
  split
  next room =>
    by_cases succeeds : request.status < 400
    · by_cases own : request.user = user
      · subst own
        have recorded := (kept request.user).record redis
          (show 0 < limit.successMaxCount.toNat by omega) sensible
        rw [count] at recorded
        simpa [redisStamps,relayed,succeeds] using recorded
      · have untouched := (later user).record_other redis limit
          (redisSuccessKey_injective.ne (Ne.symm own)) limit.successMaxCount request.finish
        simpa [redisStamps,relayed,succeeds,own] using untouched
    · simpa [redisStamps,relayed,succeeds] using later user
  next full => simpa [relayed] using later user

end

/-! ### Whole sequences -/

def requestsOf (events : List TrafficEvent) : List ModelRequest :=
  events.flatMap TrafficEvent.requests

theorem mem_requestsOf {request : ModelRequest} :
    request ∈ requestsOf events ↔ .request request ∈ events := by
  simp only [requestsOf,mem_flatMap]
  constructor
  · rintro ⟨event,member,isRequest⟩
    cases event with
    | request =>
      rw [requests,mem_singleton] at isRequest
      exact isRequest ▸ member
    | clearExpiredItems => cases isRequest
  · intro member
    exact ⟨.request request,member,by simp [requests]⟩

theorem TrafficEvent.time_le_of_before {earlier later : TrafficEvent}
    (sensible : earlier.sensible = true) (before : earlier.before later = true) :
    earlier.time ≤ later.time := by
  cases earlier with
  | clearExpiredItems => exact of_decide_eq_true before
  | request =>
    cases later with
    | clearExpiredItems => exact of_decide_eq_true before
    | request =>
      simp only [TrafficEvent.sensible,TrafficEvent.before,decide_eq_true_eq] at sensible before
      simp only [TrafficEvent.time]
      omega

theorem OneAfterAnother.of_sublist {part : List TrafficEvent} (ordered : OneAfterAnother events)
    (sub : part.Sublist events) : OneAfterAnother part :=
  ⟨fun event member => ordered.1 event (sub.subset member),ordered.2.sublist sub⟩

section

variable {events : List TrafficEvent} {event : TrafficEvent} {request : ModelRequest}

theorem OneAfterAnother.before_last (ordered : OneAfterAnother (events ++ [event])) :
    ∀ earlier ∈ events, earlier.before event = true := fun earlier member =>
  (pairwise_append.mp ordered.2).2.2 earlier member event (by simp)

theorem OneAfterAnother.time_le_last (ordered : OneAfterAnother (events ++ [event])) :
    ∀ earlier ∈ events, earlier.time ≤ event.time := fun earlier member =>
  time_le_of_before (ordered.1 earlier (by simp [member]))
    (ordered.before_last earlier member)

theorem OneAfterAnother.over_before_last
    (ordered : OneAfterAnother (events ++ [.request request])) :
    ∀ earlier ∈ requestsOf events, earlier.start ≤ earlier.finish ∧
      earlier.finish ≤ request.start := by
  intro earlier member
  rw [mem_requestsOf] at member
  have sensible := ordered.1 (.request earlier) (by simp [member])
  have before := ordered.before_last (.request earlier) member
  simp only [TrafficEvent.sensible,TrafficEvent.before,decide_eq_true_eq] at sensible before
  exact ⟨sensible,before⟩

end

section

variable {redis : RedisExpiry} {limit : ModelLimit} {declared : Option Int}
  {events : List TrafficEvent} {now : Int}

/-- The limiter as the sequence finds it: not initialised, or initialised by another caller. -/
def declaredLimiter (declared : Option Int) : Option InMemoryRateLimiter :=
  declared.map (InMemoryRateLimiter.init none)

theorem memoryInvariant_run (positive : 0 < limit.successMaxCount)
    (sweepsLate : SweepsLate limit.duration (declared.getD limit.expirationDuration))
    (ordered : OneAfterAnother events) (past : ∀ event ∈ events, event.time ≤ now) :
    MemoryInvariant limit now (run (memoryStep limit) (declaredLimiter declared) events)
      (relayed (memoryAnswers limit (declaredLimiter declared) events)) := by
  induction events using reverseRecOn generalizing now with
  | nil =>
    refine ⟨?_,fun user => ⟨?_,bounded_nil _ _⟩⟩
    · cases declared <;> exact sweepsLate
    · cases declared <;> exact SlidingWindow.Tracks.empty _ _ now
  | append_singleton events event ih =>
    have kept := ih (ordered.of_sublist (sublist_append_left _ _)) ordered.time_le_last
    rw [run_append,memoryAnswers,outputs_append,outputs_singleton,relayed_append]
    cases event with
    | request request =>
      exact (kept.request positive).later (past (.request request) (by simp))
    | clearExpiredItems at_ =>
      rw [memoryAnswer,show relayed [] = [] from rfl,append_nil]
      exact kept.clearExpiredItems.later (past (.clearExpiredItems at_) (by simp))

theorem redisKept_run (redis : RedisExpiry) (positive : 0 < limit.successMaxCount)
    (ordered : OneAfterAnother events)
    (past : ∀ request ∈ requestsOf events, request.finish ≤ now) :
    RedisKept limit now (run (redisStep redis limit) (fun _ => none) events)
      (relayed (redisAnswers redis limit (fun _ => none) events)) := by
  induction events using reverseRecOn generalizing now with
  | nil => exact fun user => ⟨SlidingWindow.Tracks.empty _ _ now,nofun⟩
  | append_singleton events event ih =>
    have earlier := ordered.of_sublist (sublist_append_left events [event])
    rw [run_append,redisAnswers,outputs_append,outputs_singleton,relayed_append]
    cases event with
    | request request =>
      have kept := ih earlier fun sent member => (ordered.over_before_last sent member).2
      have sensible : request.start ≤ request.finish := by
        simpa [sensible] using ordered.1 (.request request) (by simp)
      exact (kept.request positive sensible).later
        (past request (mem_requestsOf.mpr (by simp)))
    | clearExpiredItems =>
      have kept := ih earlier fun sent member =>
        past sent (mem_requestsOf.mpr (by simp [mem_requestsOf.mp member]))
      rwa [redisAnswer,show relayed [] = [] from rfl,append_nil]

/-! ### Comparing the windows -/

variable {history earlier part : List ModelRequest} {request : ModelRequest}

theorem recent_memoryStamps (begun : ∀ past ∈ history, past.start ≤ request.start) :
    recent limit.duration (request.start / 1000) (memoryStamps request.user history) =
      history.countP (inMemoryWindow limit request) := by
  unfold recent memoryStamps
  rw [countP_map,countP_filter]
  apply countP_congr
  intro past member
  have := begun past member
  simp only [Function.comp_apply,Bool.and_eq_true,decide_eq_true_eq,inMemoryWindow]
  omega

theorem recent_redisStamps (ended : ∀ past ∈ history, past.finish ≤ request.start) :
    recent (limit.duration * 1000) request.start (redisStamps request.user history) =
      history.countP (fun past => inRedisWindow limit request past && decide (past.status < 400)) := by
  unfold recent redisStamps
  rw [countP_map,countP_filter]
  apply countP_congr
  intro past member
  have := ended past member
  simp only [Function.comp_apply,Bool.and_eq_true,decide_eq_true_eq,inRedisWindow]
  omega

theorem CountsAlike.room_iff (alike : CountsAlike limit earlier request)
    (sub : history.Sublist earlier) :
    history.countP (inMemoryWindow limit request) < limit.successMaxCount.toNat ↔
      history.countP (fun past => inRedisWindow limit request past && decide (past.status < 400)) <
        limit.successMaxCount.toNat := by
  rcases alike with few | same
  · have bounded {counted : ModelRequest → Bool} (inEither : ∀ past, counted past = true →
        (inMemoryWindow limit request past || inRedisWindow limit request past) = true) :
        history.countP counted < limit.successMaxCount.toNat :=
      ((countP_mono_left fun past _ => inEither past).trans sub.countP_le).trans_lt few
    exact iff_of_true (bounded (by simp +contextual)) (bounded (by simp +contextual))
  · rw [countP_congr]
    intro past member
    have alikePast := same past (sub.subset member)
    constructor
    · intro inside
      obtain ⟨-,inRedis,succeeded⟩ := alikePast (by simp [inside])
      simp [inRedis,succeeded]
    · intro inside
      rw [Bool.and_eq_true] at inside
      exact (alikePast (by simp [inside.1])).1

theorem CountsAlike.of_sublist
    (alike : CountsAlike limit earlier request) (sub : part.Sublist earlier) :
    CountsAlike limit part request := by
  rcases alike with few | same
  · exact Or.inl (lt_of_le_of_lt (sub.countP_le) few)
  · exact Or.inr fun past member => same past (sub.subset member)

theorem allCountAlike_of_sublist
    (alike : AllCountAlike limit earlier events) (sub : part.Sublist earlier) :
    AllCountAlike limit part events := by
  induction events generalizing part earlier with
  | nil => trivial
  | cons event events ih =>
    cases event with
    | request request =>
      exact ⟨alike.1.of_sublist sub,ih alike.2 (sub.append (List.Sublist.refl [request]))⟩
    | clearExpiredItems => exact ih alike sub

theorem allCountAlike_append {first second : List TrafficEvent} :
    AllCountAlike limit earlier (first ++ second) ↔
      AllCountAlike limit earlier first ∧
        AllCountAlike limit (earlier ++ requestsOf first) second := by
  induction first generalizing earlier with
  | nil => simp [AllCountAlike,requestsOf]
  | cons event events ih =>
    cases event with
    | request =>
      simp [AllCountAlike,ih,requestsOf,requests,and_assoc]
    | clearExpiredItems => simp [AllCountAlike,ih,requestsOf,requests]

theorem relayed_memoryAnswers_sublist (limit : ModelLimit) (start : Option InMemoryRateLimiter)
    (events : List TrafficEvent) :
    (relayed (memoryAnswers limit start events)).Sublist (requestsOf events) := by
  have all : (memoryAnswers limit start events).map Prod.fst = requestsOf events := by
    induction events generalizing start with
    | nil => rfl
    | cons event events ih =>
      rw [memoryAnswers,outputs,map_append,← memoryAnswers,ih]
      cases event <;> rfl
  rw [← all]
  exact filter_sublist.map Prod.fst

theorem answers_alike (redis : RedisExpiry) (positive : 0 < limit.successMaxCount)
    (sweepsLate : SweepsLate limit.duration (declared.getD limit.expirationDuration))
    (ordered : OneAfterAnother events) (alike : AllCountAlike limit [] events) :
    memoryAnswers limit (declaredLimiter declared) events =
      redisAnswers redis limit (fun _ => none) events := by
  induction events using reverseRecOn with
  | nil => rfl
  | append_singleton events event ih =>
    obtain ⟨alikeBefore,alikeLast⟩ := allCountAlike_append.mp alike
    have orderedBefore := ordered.of_sublist (sublist_append_left events [event])
    have same := ih orderedBefore alikeBefore
    simp only [memoryAnswers,redisAnswers,outputs_append,outputs_singleton]
    congr 1
    cases event with
    | clearExpiredItems => rfl
    | request request =>
      have ended := ordered.over_before_last
      have memory := memoryInvariant_run positive sweepsLate orderedBefore ordered.time_le_last
      have inRedis : RedisKept limit request.start _ _ :=
        redisKept_run redis positive orderedBefore fun sent member => (ended sent member).2
      have sub := relayed_memoryAnswers_sublist limit (declaredLimiter declared) events
      have inMemory := memory.relays_iff positive
      have redisRelays := inRedis.relays_iff positive redis
      rw [recent_memoryStamps fun past member => by
        have := ended past (sub.subset member); omega] at inMemory
      rw [← same,recent_redisStamps fun past member => (ended past (sub.subset member)).2]
        at redisRelays
      have decided := (inMemory.trans (alikeLast.1.room_iff sub)).trans redisRelays.symm
      simp only [memoryAnswer,redisAnswer,decide_eq_decide.mpr decided]

theorem answers_unlimited (redis : RedisExpiry) (unlimited : limit.successMaxCount = 0)
    (start : Option InMemoryRateLimiter) (lists : String → Option RedisList) :
    memoryAnswers limit start events = redisAnswers redis limit lists events := by
  induction events generalizing start lists with
  | nil => rfl
  | cons event events ih =>
    rw [memoryAnswers,redisAnswers,outputs,outputs,← memoryAnswers,← redisAnswers,ih]
    cases event with
    | clearExpiredItems => rfl
    | request =>
      simp [memoryAnswer,redisAnswer,memoryRateLimitHandler,redisRateLimitHandler,
        checkRedisRateLimit,unlimited]

theorem agree_of_countedAlike (redis : RedisExpiry) (ordered : OneAfterAnother events)
    (alike : CountedAlike limit declared events) :
    memoryAnswers limit (declaredLimiter declared) events =
      redisAnswers redis limit (fun _ => none) events := by
  rcases alike with unlimited | ⟨positive,sweepsLate,allAlike⟩
  · exact answers_unlimited redis unlimited _ _
  · exact answers_alike redis positive sweepsLate ordered allAlike

theorem agree_after_prefix (redis : RedisExpiry) {first second : List TrafficEvent}
    (ordered : OneAfterAnother (first ++ second))
    (alike : CountedAlike limit declared (first ++ second)) :
    memoryAnswers limit (run (memoryStep limit) (declaredLimiter declared) first) second =
      redisAnswers redis limit (run (redisStep redis limit) (fun _ => none) first) second := by
  have whole := agree_of_countedAlike redis ordered alike
  have alikeFirst : CountedAlike limit declared first := by
    rcases alike with unlimited | ⟨positive,sweepsLate,allAlike⟩
    · exact Or.inl unlimited
    · exact Or.inr ⟨positive,sweepsLate,(allCountAlike_append.mp allAlike).1⟩
  have start := agree_of_countedAlike redis
    (ordered.of_sublist (sublist_append_left first second)) alikeFirst
  rw [memoryAnswers,redisAnswers,outputs_append,outputs_append,← memoryAnswers,start] at whole
  exact append_cancel_left whole

theorem CountedAlike.without {before after : List TrafficEvent} {left : ModelRequest}
    (alike : CountedAlike limit declared (before ++ .request left :: after)) :
    CountedAlike limit declared (before ++ after) := by
  rcases alike with unlimited | ⟨positive,sweepsLate,allAlike⟩
  · exact Or.inl unlimited
  · obtain ⟨alikeBefore,-,alikeAfter⟩ := allCountAlike_append.mp allAlike
    exact Or.inr ⟨positive,sweepsLate,allCountAlike_append.mpr
      ⟨alikeBefore,allCountAlike_of_sublist alikeAfter (sublist_append_left _ _)⟩⟩

theorem redisStep_failed (redis : RedisExpiry) (limit : ModelLimit)
    (lists : String → Option RedisList) {failed : ModelRequest} (fails : 400 ≤ failed.status) :
    redisStep redis limit lists (.request failed) = lists := by
  simp only [redisStep,redisRateLimitHandler]
  split
  · rfl
  · rfl
  · exact if_neg (by omega)

end

/-- On a sequence whose requests find one another counted alike, both back ends admit the same
requests, and a failed request changes the fate of none after it. -/
theorem handlers_admit_alike (redis : RedisExpiry) (limit : ModelLimit) (declared : Option Int)
    (events : List TrafficEvent) (ordered : OneAfterAnother events)
    (alike : CountedAlike limit declared events) :
    memoryAnswers limit (declaredLimiter declared) events =
        redisAnswers redis limit (fun _ => none) events ∧
      ∀ before failed after, events = before ++ .request failed :: after → 400 ≤ failed.status →
        memoryAnswers limit
            (run (memoryStep limit) (declaredLimiter declared) (before ++ [.request failed])) after =
          memoryAnswers limit (run (memoryStep limit) (declaredLimiter declared) before) after := by
  refine ⟨agree_of_countedAlike redis ordered alike,?_⟩
  intro before failed after split fails
  subst split
  rw [show before ++ .request failed :: after = (before ++ [.request failed]) ++ after by simp]
    at ordered
  have with_ : memoryAnswers limit
      (run (memoryStep limit) (declaredLimiter declared) (before ++ [.request failed])) after = _ :=
    agree_after_prefix redis ordered (by simpa using alike)
  have without := agree_after_prefix redis
    (ordered.of_sublist ((sublist_append_left before _).append (List.Sublist.refl after)))
    alike.without
  rw [with_,without,run_append]
  simp only [run_cons,run_nil,redisStep_failed redis limit _ fails]

/-- Redis as it drops a key at its expiration time. -/
def promptRedis : RedisExpiry where
  expired expireAt now := decide (expireAt ≤ now)
  waits _ _ := of_decide_eq_true

def sparseFailures : List TrafficEvent :=
  [.request { user := 7, start := 0, finish := 400, status := 500 },
    .request { user := 7, start := 1000, finish := 1500, status := 200 },
    .clearExpiredItems 30,
    .request { user := 7, start := 70000, finish := 70300, status := 200 },
    .request { user := 7, start := 71000, finish := 71300, status := 200 },
    .request { user := 7, start := 72000, finish := 72300, status := 200 }]

/-- With two successes a minute the failure does not matter here, and the last request is
refused by both. -/
theorem sparse_failures_admitted_alike :
    OneAfterAnother sparseFailures ∧
      CountedAlike ⟨1, 2⟩ (some (1200 * 1000000000)) sparseFailures ∧
      memoryAnswers ⟨1, 2⟩ (declaredLimiter (some (1200 * 1000000000))) sparseFailures =
        redisAnswers promptRedis ⟨1, 2⟩ (fun _ => none) sparseFailures :=
  have ordered : OneAfterAnother sparseFailures := by decide +kernel
  have alike : CountedAlike ⟨1,2⟩ (some (1200 * 1000000000)) sparseFailures := by decide +kernel
  ⟨ordered,alike,(handlers_admit_alike promptRedis ⟨1,2⟩ (some (1200 * 1000000000))
    sparseFailures ordered alike).1⟩

/-- One success a minute is allowed. The first request fails, and a second later the next one is
relayed with Redis but refused without it; had the first not been sent, it would be relayed. -/
theorem failed_request_uses_up_limit :
    ∃ failed next : ModelRequest, 400 ≤ failed.status ∧
      OneAfterAnother [.request failed, .request next] ∧
      redisAnswers promptRedis ⟨1, 1⟩ (fun _ => none) [.request failed, .request next] =
        [(failed, true), (next, true)] ∧
      memoryAnswers ⟨1, 1⟩ none [.request failed, .request next] =
        [(failed, true), (next, false)] ∧
      memoryAnswers ⟨1, 1⟩ none [.request next] = [(next, true)] :=
  ⟨{ user := 7, start := 0, finish := 400, status := 500 },
    { user := 7, start := 1000, finish := 1500, status := 200 },by decide +kernel⟩

end NewApi
