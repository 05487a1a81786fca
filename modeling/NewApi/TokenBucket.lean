import Mathlib
import NewApi.GuardedRuns

/-!
# The token bucket of the total request limit

The script of the Redis limiter refills a bucket by the seconds since its last call. What the
bucket holds and what it can still earn until the end of an interval is a potential that pays for
every call admitted in the interval.
-/

namespace NewApi

open GuardedRuns

/-- Lua computes with doubles: integers up to `limit` are exact, larger ones are rounded. -/
structure LuaNumbers where
  round : Int → Int
  limit : Int
  mono : Monotone round
  exact : ∀ n, 0 ≤ n → n ≤ limit → round n = n

/-- The arguments of the script. -/
structure BucketConfig where
  requested : Int
  rate : Int
  capacity : Int

/-- The configuration that `redisRateLimitHandler` passes. -/
def totalRequestLimit (totalMaxCount duration : Int) : BucketConfig :=
  ⟨duration, totalMaxCount, totalMaxCount * duration⟩

structure Bucket where
  tokens : Int
  lastTime : Int
deriving DecidableEq, Repr

/-- A call of the script at a time of the Redis clock; `expired` says that Redis has dropped the key
since the call before. -/
structure BucketCall where
  now : Int
  expired : Bool := false
deriving DecidableEq, Repr

variable (lua : LuaNumbers) (config : BucketConfig)

def refill (now : Int) : Option Bucket → Int
  | none => config.capacity
  | some bucket =>
    let elapsed := lua.round (now - bucket.lastTime)
    let addTokens := lua.round (elapsed * config.rate)
    min config.capacity (lua.round (bucket.tokens + addTokens))

def rateLimit (bucket : Option Bucket) (now : Int) : Bucket × Bool :=
  let tokens := refill lua config now bucket
  if config.requested ≤ tokens then (⟨lua.round (tokens - config.requested), now⟩, true)
  else (⟨tokens, now⟩, false)

def BucketCall.found (call : BucketCall) (bucket : Option Bucket) : Option Bucket :=
  if call.expired then none else bucket

def bucketStep (bucket : Option Bucket) (call : BucketCall) : Option Bucket :=
  some (rateLimit lua config (call.found bucket) call.now).1

def admittedAt (bucket : Option Bucket) (call : BucketCall) : List Int :=
  if (rateLimit lua config (call.found bucket) call.now).2 then [call.now] else []

/-- The clock does not go back, and a key lives long enough for its bucket to fill up. The script
sets no expiry; the one in its comment is longer than that by a minute. -/
structure RegularCall (bucket : Option Bucket) (call : BucketCall) : Prop where
  started : 0 ≤ call.now
  representable : call.now ≤ lua.limit
  later : ∀ b, bucket = some b → b.lastTime ≤ call.now
  lives : ∀ b, bucket = some b → call.expired = true →
    config.capacity ≤ config.rate * (call.now - b.lastTime)

def TokensWithin (bucket : Option Bucket) : Prop :=
  ∀ b, bucket = some b → 0 ≤ b.tokens ∧ b.tokens ≤ config.capacity

def SoundBucket (bucket : Option Bucket) : Prop :=
  ∀ b, bucket = some b → (0 ≤ b.tokens ∧ b.tokens ≤ config.capacity) ∧ 0 ≤ b.lastTime

/-- What the bucket holds at `lo`, or at its last call if that is later, and earns until `hi`. -/
def credit (lo hi : Int) : Option Bucket → Int
  | none => config.capacity + config.rate * (hi - lo)
  | some bucket =>
    let start := max lo bucket.lastTime
    min config.capacity (bucket.tokens + config.rate * (start - bucket.lastTime)) +
      config.rate * (hi - start)

/-- The tokens without rounding. -/
def available (now : Int) : Option Bucket → Int
  | none => config.capacity
  | some bucket => min config.capacity (bucket.tokens + config.rate * (now - bucket.lastTime))

structure BucketConfig.Valid (config : BucketConfig) : Prop where
  requested : 0 ≤ config.requested
  rate : 0 ≤ config.rate
  capacity : 0 ≤ config.capacity
  representable : config.capacity ≤ lua.limit

variable {lua config} {bucket : Option Bucket} {call : BucketCall}

/-- Rounding changes nothing below the capacity. -/
theorem BucketConfig.Valid.min_add_round (valid : config.Valid lua) {n tokens : Int}
    (nonneg : 0 ≤ n) (held : 0 ≤ tokens) :
    min config.capacity (tokens + lua.round n) = min config.capacity (tokens + n) := by
  have := valid.capacity
  have := valid.representable
  by_cases small : n ≤ lua.limit
  · rw [lua.exact n nonneg small]
  · have := lua.mono (le_of_not_ge small)
    rw [lua.exact lua.limit (by omega) le_rfl] at this
    omega

section

variable (valid : config.Valid lua) (sound : SoundBucket config bucket)
  (regular : RegularCall lua config bucket call)
include valid sound regular

theorem refill_eq :
    refill lua config call.now (call.found bucket) = available config call.now bucket := by
  cases bucket with
  | none => simp [BucketCall.found,refill,available]
  | some b =>
    obtain ⟨⟨held,-⟩,started⟩ := sound b rfl
    have later := sub_nonneg.mpr (regular.later b rfl)
    have earned : 0 ≤ (call.now - b.lastTime) * config.rate := mul_nonneg later valid.rate
    rw [available,mul_comm]
    cases expired : call.expired with
    | true =>
      have full := regular.lives b rfl expired
      rw [mul_comm] at full
      simp only [BucketCall.found,expired,if_true,refill]
      omega
    | false =>
      have whole : 0 ≤ lua.round ((call.now - b.lastTime) * config.rate) := by
        have := lua.mono earned
        rwa [lua.exact 0 le_rfl (valid.capacity.trans valid.representable)] at this
      have := regular.representable
      have elapsed := lua.exact (call.now - b.lastTime) later (by omega)
      have outer := valid.min_add_round (add_nonneg held whole) le_rfl
      rw [zero_add,zero_add,valid.min_add_round earned held] at outer
      simpa [BucketCall.found,expired,refill,elapsed] using outer

theorem available_within :
    0 ≤ available config call.now bucket ∧ available config call.now bucket ≤ config.capacity := by
  have := valid.capacity
  cases bucket with
  | none => exact ⟨this,le_rfl⟩
  | some b =>
    have := (sound b rfl).1
    have := mul_nonneg valid.rate (sub_nonneg.mpr (regular.later b rfl))
    simp only [available]
    omega

theorem bucketStep_cases :
    let tokens := available config call.now bucket
    (config.requested ≤ tokens ∧ admittedAt lua config bucket call = [call.now] ∧
      bucketStep lua config bucket call = some ⟨tokens - config.requested,call.now⟩) ∨
    (admittedAt lua config bucket call = [] ∧
      bucketStep lua config bucket call = some ⟨tokens,call.now⟩) := by
  have := available_within valid sound regular
  have := valid.requested
  have := valid.representable
  simp only [bucketStep,admittedAt,rateLimit,refill_eq valid sound regular]
  split
  next enough =>
    rw [lua.exact _ (by omega) (by omega)]
    exact .inl ⟨enough,rfl,rfl⟩
  next => exact .inr ⟨rfl,rfl⟩

theorem soundBucket_step : SoundBucket config (bucketStep lua config bucket call) := by
  have within := available_within valid sound regular
  have := valid.requested
  rcases bucketStep_cases valid sound regular with ⟨enough,-,after⟩ | ⟨-,after⟩ <;> rw [after] <;>
    rintro b ⟨⟩
  · exact ⟨⟨sub_nonneg.mpr enough,by dsimp only; omega⟩,regular.started⟩
  · exact ⟨within,regular.started⟩

/-- A call that the interval admits is paid from the credit. -/
theorem credit_step (lo hi : Int) :
    config.requested * (admittedAt lua config bucket call).countP (fun t => lo ≤ t ∧ t ≤ hi) +
        max 0 (credit config lo hi (bucketStep lua config bucket call)) ≤
      max 0 (credit config lo hi bucket) := by
  have within := available_within valid sound regular
  have requested := valid.requested
  have falls : ∀ taken, 0 ≤ taken → credit config lo hi
      (some ⟨available config call.now bucket - taken,call.now⟩) ≤ credit config lo hi bucket := by
    cases bucket with
    | none =>
      simp only [credit,mul_sub,mul_max_of_nonneg _ _ valid.rate]
      omega
    | some b =>
      have later := mul_le_mul_of_nonneg_left (regular.later b rfl) valid.rate
      simp only [credit,available,mul_sub,mul_max_of_nonneg _ _ valid.rate]
      omega
  rcases bucketStep_cases valid sound regular with ⟨enough,isAdmitted,after⟩ | ⟨refused,after⟩
  · rw [isAdmitted,after]
    by_cases inside : lo ≤ call.now ∧ call.now ≤ hi
    · have := falls 0 le_rfl
      have rest := mul_nonneg valid.rate (sub_nonneg.mpr inside.2)
      simp only [credit,max_eq_right inside.1] at this ⊢
      simp
      omega
    · have := falls _ requested
      simp
      omega
  · have := falls 0 le_rfl
    rw [sub_zero] at this
    rw [refused,after]
    simp
    omega

end

variable {calls : List BucketCall}

theorem credit_run (valid : config.Valid lua) (sound : SoundBucket config bucket)
    (regular : Guarded (bucketStep lua config) (RegularCall lua config) bucket calls) (lo hi : Int) :
    config.requested * (outputs (bucketStep lua config) (admittedAt lua config) bucket calls).countP
        (fun t => lo ≤ t ∧ t ≤ hi) ≤ max 0 (credit config lo hi bucket) := by
  induction calls generalizing bucket with
  | nil => simp [outputs]
  | cons call calls ih =>
    have first := credit_step valid sound regular.1 lo hi
    have rest := ih (soundBucket_step valid sound regular.1) regular.2
    rw [outputs,List.countP_append,Nat.cast_add,mul_add]
    omega

theorem token_bucket_bound (lua : LuaNumbers) (totalMaxCount duration : Int)
    (positiveCount : 1 ≤ totalMaxCount) (positiveDuration : 1 ≤ duration)
    (representable : totalMaxCount * duration ≤ lua.limit) (calls : List BucketCall) :
    let config := totalRequestLimit totalMaxCount duration
    Guarded (bucketStep lua config) (RegularCall lua config) none calls →
      Always (bucketStep lua config) (TokensWithin config) none calls ∧
      ∀ start length : Int, 0 ≤ length →
        ((outputs (bucketStep lua config) (admittedAt lua config) none calls).countP
          (fun t => start ≤ t ∧ t ≤ start + length) : Int) ≤
        totalMaxCount + totalMaxCount * length / duration := by
  intro config regular
  have valid : config.Valid lua :=
    ⟨zero_le_one.trans positiveDuration,zero_le_one.trans positiveCount,
      mul_nonneg (by omega) (by omega),representable⟩
  have initially : SoundBucket config none := nofun
  refine ⟨always_of_guarded _ (fun _ sound b isBucket => (sound b isBucket).1)
    (fun _ _ => soundBucket_step valid) initially regular,fun start length nonneg => ?_⟩
  have paid := credit_run valid initially regular start (start + length)
  have earned : 0 ≤ config.rate * length := mul_nonneg valid.rate nonneg
  rw [credit,add_sub_cancel_left,max_eq_right (add_nonneg valid.capacity earned),mul_comm] at paid
  calc _ ≤ (totalMaxCount * duration + totalMaxCount * length) / duration :=
        (Int.le_ediv_iff_mul_le (by omega)).mpr paid
    _ = _ := by
      rw [add_comm,Int.add_mul_ediv_right _ _ (by omega),add_comm]

theorem token_bucket_bound_two :
    let lua : LuaNumbers := ⟨id, 2 ^ 53, monotone_id, fun _ _ _ => rfl⟩
    Always (bucketStep lua (totalRequestLimit 2 3600)) (TokensWithin (totalRequestLimit 2 3600)) none
      [⟨5, false⟩, ⟨7300, true⟩] :=
  (token_bucket_bound ⟨id, 2 ^ 53, monotone_id, fun _ _ _ => rfl⟩ 2 3600 (by decide) (by decide)
    (by decide) [⟨5, false⟩, ⟨7300, true⟩] ⟨⟨by decide,by decide,nofun,nofun⟩,
      ⟨by decide,by decide,by rintro b ⟨⟩; decide,by rintro b ⟨⟩ -; decide⟩,trivial⟩).1

/-- A caller that pauses until its tokens are earned again is admitted, whatever happened before. -/
theorem token_bucket_admits_after_pause (valid : config.Valid lua)
    (fits : config.requested ≤ config.capacity)
    (regular : Guarded (bucketStep lua config) (RegularCall lua config) none (calls ++ [call]))
    (paused : ∀ b, run (bucketStep lua config) none calls = some b →
      config.requested ≤ config.rate * (call.now - b.lastTime)) :
    admittedAt lua config (run (bucketStep lua config) none calls) call = [call.now] := by
  obtain ⟨earlier,last,-⟩ := guarded_append.mp regular
  have sound := run_invariant (SoundBucket config) (fun _ _ => soundBucket_step valid)
    (by rintro b ⟨⟩) earlier
  have enough : config.requested ≤
      available config call.now (run (bucketStep lua config) none calls) := by
    cases held : run (bucketStep lua config) none calls with
    | none => exact fits
    | some b =>
      have := (sound b held).1
      have := paused b held
      simp only [available]
      omega
  simp only [admittedAt,rateLimit,refill_eq valid sound last,if_pos enough,if_true]

theorem token_bucket_admits_second :
    let lua : LuaNumbers := ⟨id, 2 ^ 53, monotone_id, fun _ _ _ => rfl⟩
    admittedAt lua ⟨60, 1, 60⟩ (bucketStep lua ⟨60, 1, 60⟩ none ⟨5, false⟩) ⟨65, false⟩ = [65] := by
  intro lua
  exact @token_bucket_admits_after_pause lua ⟨60, 1, 60⟩ ⟨65, false⟩ [⟨5, false⟩]
    (by constructor <;> decide) (by decide) ⟨⟨by decide,by decide,by rintro b ⟨⟩,by rintro b ⟨⟩⟩,
      ⟨by decide,by decide,by rintro b ⟨⟩; decide,by rintro b ⟨⟩ ⟨⟩⟩,trivial⟩
    (by rintro b ⟨⟩; decide)

end NewApi
