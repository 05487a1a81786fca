import NewApi.GoStrings
import NewApi.RateLimiter

/-!
# The success limit of model requests in its two back ends

With Redis the handler records a request once it has succeeded. The in-memory limiter counts it
before it is relayed. Both handlers are modelled without a total limit and with the limit of
requests per minute switched off.
-/

namespace NewApi

open GuardedRuns SlidingWindow

/-- The settings of the limit: the window in minutes, and how many successes it allows. -/
structure ModelLimit where
  minutes : Int
  successMaxCount : Int

def ModelLimit.duration (limit : ModelLimit) : Int := limit.minutes * 60

/-- The expiration time that the handler asks of the limiter, in nanoseconds. -/
def ModelLimit.expirationDuration (limit : ModelLimit) : Int := limit.minutes * 60 * 1000000000

/-- A request: its user, the times in milliseconds at which the handler sees it and at which the
relay is done with it, and the status with which it ends once it is relayed. -/
structure ModelRequest where
  user : Nat
  start : Int
  finish : Int
  status : Nat
deriving DecidableEq

inductive LimitAnswer
  | next
  | abort (status : Nat) (message : String)
deriving DecidableEq

/-! ### The Redis back end -/

/-- A list in Redis, newest entry first, and the time from which it may be gone. -/
structure RedisList where
  entries : List Int
  expireAt : Int

/-- When Redis drops a key: not before its expiration time. -/
structure RedisExpiry where
  expired : (expireAt now : Int) → Bool
  waits : ∀ expireAt now, expired expireAt now = true → expireAt ≤ now

namespace RedisExpiry

variable (redis : RedisExpiry)

/-- The entries of a list as a command sees them at a time. -/
def lRange (lists : String → Option RedisList) (key : String) (now : Int) : List Int :=
  match lists key with
  | some list => if redis.expired list.expireAt now then [] else list.entries
  | none => []

/-- `LTRIM key 0 stop`; a negative index counts from the end. -/
def lTrim (entries : List Int) (stop : Int) : List Int :=
  if stop < 0 then entries.take (entries.length + stop + 1).toNat
  else entries.take (stop + 1).toNat

end RedisExpiry

/-- The error of `LINDEX` on a list without the index. -/
inductive RedisError
  | nil
deriving DecidableEq

def checkRedisRateLimit (redis : RedisExpiry) (lists : String → Option RedisList) (key : String)
    (maxCount duration now : Int) : Except RedisError Bool :=
  if maxCount = 0 then .ok true
  else
    let entries := redis.lRange lists key now
    if (entries.length : Int) < maxCount then .ok true
    else match entries.getLast? with
      | some oldTime => .ok (decide (duration * 1000 ≤ now - oldTime))
      | none => .error .nil

def recordRedisRequest (redis : RedisExpiry) (limit : ModelLimit)
    (lists : String → Option RedisList) (key : String) (maxCount now : Int) :
    String → Option RedisList :=
  if maxCount = 0 then lists
  else Function.update lists key (some
    { entries := RedisExpiry.lTrim (now :: redis.lRange lists key now) (maxCount - 1)
      expireAt := now + limit.minutes * 60 * 1000 })

def redisSuccessKey (user : Nat) : String := "rateLimit:MRRLS:" ++ toString user

def redisRateLimitHandler (redis : RedisExpiry) (limit : ModelLimit)
    (lists : String → Option RedisList) (request : ModelRequest) :
    LimitAnswer × (String → Option RedisList) :=
  let successKey := redisSuccessKey request.user
  match checkRedisRateLimit redis lists successKey limit.successMaxCount limit.duration
      request.start with
  | .error _ => (.abort 500 "rate_limit_check_failed", lists)
  | .ok false =>
    (.abort 429 ("您已达到请求数限制：" ++ toString limit.minutes ++ "分钟内最多请求" ++
      toString limit.successMaxCount ++ "次"), lists)
  | .ok true =>
    -- the request is relayed, and recorded at its end if it has succeeded
    (.next, if request.status < 400 then
      recordRedisRequest redis limit lists successKey limit.successMaxCount request.finish
    else lists)

/-! ### The in-memory back end -/

def memorySuccessKey (user : Nat) : String := "MRRLS" ++ toString user ++ "_check"

/-- The handler initialises the limiter if nobody has done so yet, and asks it before the request
is relayed. -/
def memoryRateLimitHandler (limit : ModelLimit) (declared : Option InMemoryRateLimiter)
    (request : ModelRequest) : LimitAnswer × Option InMemoryRateLimiter :=
  let limiter := InMemoryRateLimiter.init declared limit.expirationDuration
  if 0 < limit.successMaxCount then
    match limiter.request (memorySuccessKey request.user) limit.successMaxCount.toNat
        limit.duration (request.start / 1000) with
    | (true, after) => (.next, some after)
    | (false, after) => (.abort 429 "", some after)
  else (.next, some limiter)

/-! ### Sequences of requests -/

/-- What happens one after another: requests, and passes over the in-memory limiter at a time in
seconds. -/
inductive TrafficEvent
  | request (request : ModelRequest)
  | clearExpiredItems (now : Int)
deriving DecidableEq

namespace TrafficEvent

/-- The time in seconds at which the in-memory limiter sees the event. -/
@[simp]
def time : TrafficEvent → Int
  | .request sent => sent.start / 1000
  | .clearExpiredItems now => now

/-- A request is over before the next one begins; passes come at their time. -/
def before : TrafficEvent → TrafficEvent → Bool
  | .request earlier, .request later => decide (earlier.finish ≤ later.start)
  | earlier, later => decide (earlier.time ≤ later.time)

def sensible : TrafficEvent → Bool
  | .request sent => decide (sent.start ≤ sent.finish)
  | .clearExpiredItems _ => true

def requests : TrafficEvent → List ModelRequest
  | .request sent => [sent]
  | .clearExpiredItems _ => []

end TrafficEvent

def OneAfterAnother (events : List TrafficEvent) : Prop :=
  (∀ event ∈ events, event.sensible = true) ∧
    events.Pairwise fun earlier later => earlier.before later = true

instance (events : List TrafficEvent) : Decidable (OneAfterAnother events) :=
  inferInstanceAs (Decidable (_ ∧ _))

def memoryStep (limit : ModelLimit) (declared : Option InMemoryRateLimiter) :
    TrafficEvent → Option InMemoryRateLimiter
  | .request request => (memoryRateLimitHandler limit declared request).2
  | .clearExpiredItems now => declared.map fun limiter => limiter.clearExpiredItems now

def redisStep (redis : RedisExpiry) (limit : ModelLimit) (lists : String → Option RedisList) :
    TrafficEvent → String → Option RedisList
  | .request request => (redisRateLimitHandler redis limit lists request).2
  | .clearExpiredItems _ => lists

def memoryAnswer (limit : ModelLimit) (declared : Option InMemoryRateLimiter) :
    TrafficEvent → List (ModelRequest × Bool)
  | .request request =>
    [(request, decide ((memoryRateLimitHandler limit declared request).1 = .next))]
  | .clearExpiredItems _ => []

def redisAnswer (redis : RedisExpiry) (limit : ModelLimit) (lists : String → Option RedisList) :
    TrafficEvent → List (ModelRequest × Bool)
  | .request request =>
    [(request, decide ((redisRateLimitHandler redis limit lists request).1 = .next))]
  | .clearExpiredItems _ => []

def memoryAnswers (limit : ModelLimit) : Option InMemoryRateLimiter → List TrafficEvent →
    List (ModelRequest × Bool) :=
  outputs (memoryStep limit) (memoryAnswer limit)

def redisAnswers (redis : RedisExpiry) (limit : ModelLimit) : (String → Option RedisList) →
    List TrafficEvent → List (ModelRequest × Bool) :=
  outputs (redisStep redis limit) (redisAnswer redis limit)

def relayed (answers : List (ModelRequest × Bool)) : List ModelRequest :=
  (answers.filter fun answer => answer.2).map Prod.fst

theorem relayed_append (first second : List (ModelRequest × Bool)) :
    relayed (first ++ second) = relayed first ++ relayed second := by
  simp [relayed]

/-- The times under which the limiter counts the relayed requests of a user. -/
def memoryStamps (user : Nat) (requests : List ModelRequest) : List Int :=
  (requests.filter fun request => decide (request.user = user)).map fun request =>
    request.start / 1000

def redisStamps (user : Nat) (requests : List ModelRequest) : List Int :=
  (requests.filter fun request => decide (request.user = user ∧ request.status < 400)).map
    ModelRequest.finish

/-! ### When both count alike -/

def inMemoryWindow (limit : ModelLimit) (later earlier : ModelRequest) : Bool :=
  decide (earlier.user = later.user ∧ later.start / 1000 - earlier.start / 1000 < limit.duration)

def inRedisWindow (limit : ModelLimit) (later earlier : ModelRequest) : Bool :=
  decide (earlier.user = later.user ∧ later.start - earlier.finish < limit.duration * 1000)

/-- At this request fewer requests than the limit allows lie in either window, or those that do
lie in both and have succeeded. -/
def CountsAlike (limit : ModelLimit) (earlier : List ModelRequest) (request : ModelRequest) :
    Prop :=
  earlier.countP (fun past => inMemoryWindow limit request past || inRedisWindow limit request past)
      < limit.successMaxCount.toNat ∨
    ∀ past ∈ earlier, (inMemoryWindow limit request past || inRedisWindow limit request past) →
      inMemoryWindow limit request past ∧ inRedisWindow limit request past ∧ past.status < 400

instance (limit : ModelLimit) (earlier : List ModelRequest) (request : ModelRequest) :
    Decidable (CountsAlike limit earlier request) :=
  inferInstanceAs (Decidable (_ ∨ _))

def AllCountAlike (limit : ModelLimit) : List ModelRequest → List TrafficEvent → Prop
  | _, [] => True
  | earlier, .request request :: events =>
    CountsAlike limit earlier request ∧ AllCountAlike limit (earlier ++ [request]) events
  | earlier, .clearExpiredItems _ :: events => AllCountAlike limit earlier events

instance decidableAllCountAlike (limit : ModelLimit) :
    ∀ (earlier : List ModelRequest) (events : List TrafficEvent),
      Decidable (AllCountAlike limit earlier events)
  | _, [] => isTrue trivial
  | earlier, .request request :: events =>
    have := decidableAllCountAlike limit (earlier ++ [request]) events
    inferInstanceAs (Decidable (_ ∧ _))
  | earlier, .clearExpiredItems _ :: events => decidableAllCountAlike limit earlier events

/-- The events on which the handlers agree: there is no limit, or the background passes forget
nothing too early and every request finds the others counted alike. `declared` is the expiration
time of a limiter that another caller has initialised. -/
def CountedAlike (limit : ModelLimit) (declared : Option Int) (events : List TrafficEvent) :
    Prop :=
  limit.successMaxCount = 0 ∨ 0 < limit.successMaxCount ∧
    SweepsLate limit.duration (declared.getD limit.expirationDuration) ∧
      AllCountAlike limit [] events

instance (limit : ModelLimit) (declared : Option Int) (events : List TrafficEvent) :
    Decidable (CountedAlike limit declared events) :=
  inferInstanceAs (Decidable (_ ∨ _))

end NewApi
