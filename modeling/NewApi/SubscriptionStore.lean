import Mathlib.Data.List.Sort
import NewApi.Errors
import NewApi.KeyedTable

/-! # Subscription plans, subscriptions and pre-consume records -/

namespace NewApi

inductive SubscriptionStatus where
  | active
  | expired
  | cancelled
deriving DecidableEq, Repr

structure UserSubscription where
  id : Int
  userId : Int
  planId : Int
  amountTotal : Int
  amountUsed : Int
  startTime : Int
  endTime : Int
  status : SubscriptionStatus
  lastResetTime : Int
  nextResetTime : Int
  upgradeGroup : String
  prevUserGroup : String
  downgradeGroup : String
  allowWalletOverflow : Bool
  idPos : 0 < id
  usedNonneg : 0 ≤ amountUsed
deriving DecidableEq, Repr

theorem nothing_used : (0 : Int) ≤ 0 :=
  le_rfl

theorem UserSubscription.used_add_nonneg {amount : Int} (sub : UserSubscription)
    (positive : 0 < amount) : 0 ≤ sub.amountUsed + amount :=
  Int.add_nonneg sub.usedNonneg positive.le

/-- Units of `SubscriptionPlan.DurationUnit`; any other text is rejected. -/
inductive DurationUnit where
  | year
  | month
  | day
  | hour
  | custom
  | other (text : String)
deriving DecidableEq, Repr

structure SubscriptionPlan where
  id : Int
  title : String
  durationUnit : DurationUnit
  durationValue : Int
  customSeconds : Int
  allowWalletOverflow : Option Bool
  maxPurchasePerUser : Int
  upgradeGroup : String
  downgradeGroup : String
  totalAmount : Int
  quotaResetPeriod : String
  quotaResetCustomSeconds : Int
deriving DecidableEq, Repr

inductive PreConsumeStatus where
  | consumed
  | refunded
deriving DecidableEq, Repr

/-- A row of `subscription_pre_consume_records`, stored under its unique
`request_id`. -/
structure SubscriptionPreConsumeRecord where
  userId : Int
  userSubscriptionId : Int
  preConsumed : Int
  status : PreConsumeStatus
deriving DecidableEq, Repr

structure SubscriptionStore where
  subscriptions : KeyedTable UserSubscription.id
  plans : Int → Option SubscriptionPlan
  preConsumeRecords : String → Option SubscriptionPreConsumeRecord

namespace SubscriptionStore

def saveSubscription (store : SubscriptionStore) (sub : UserSubscription) : SubscriptionStore :=
  { store with subscriptions := store.subscriptions.save sub }

def saveRecord (store : SubscriptionStore) (requestId : String)
    (record : SubscriptionPreConsumeRecord) : SubscriptionStore :=
  { store with
    preConsumeRecords := Function.update store.preConsumeRecords requestId (some record) }

variable (store : SubscriptionStore) (sub : UserSubscription) (requestId : String)

@[simp]
theorem saveSubscription_plans :
    (store.saveSubscription sub).plans = store.plans := rfl

@[simp]
theorem saveSubscription_preConsumeRecords :
    (store.saveSubscription sub).preConsumeRecords = store.preConsumeRecords := rfl

@[simp]
theorem saveSubscription_subscriptions :
    (store.saveSubscription sub).subscriptions = store.subscriptions.save sub := rfl

variable (record : SubscriptionPreConsumeRecord)

@[simp]
theorem saveRecord_plans :
    (store.saveRecord requestId record).plans = store.plans := rfl

@[simp]
theorem saveRecord_subscriptions :
    (store.saveRecord requestId record).subscriptions = store.subscriptions := rfl

@[simp]
theorem saveRecord_preConsumeRecords :
    (store.saveRecord requestId record).preConsumeRecords =
      Function.update store.preConsumeRecords requestId (some record) := rfl

end SubscriptionStore

/-- Date arithmetic of the Go `time` package in the server's location, on Unix
seconds. -/
structure Calendar where
  /-- Midnight that begins the day after this instant. -/
  nextMidnight : Int → Int
  /-- Midnight that begins the next Monday after this instant. -/
  nextMonday : Int → Int
  /-- Midnight that begins the month after this instant. -/
  nextMonth : Int → Int
  /-- `AddDate(years, months, 0)`. -/
  addDate : Int → Int → Int → Int

/-- Reduction of a product to `int64`. -/
def wrapInt64 (value : Int) : Int :=
  (value + 2 ^ 63) % 2 ^ 64 - 2 ^ 63

/-- `time.Unix(base, 0).Add(time.Duration(count) * unit).Unix()` for a unit of
`unitSeconds` seconds; the duration is a wrapped number of nanoseconds. -/
def addDuration (base count unitSeconds : Int) : Int :=
  base + wrapInt64 (count * (unitSeconds * 1000000000)) / 1000000000

inductive ResetPeriod where
  | never
  | daily
  | weekly
  | monthly
  | custom
deriving DecidableEq, Repr

def normalizeResetPeriod (period : String) : ResetPeriod :=
  match GoStrings.trimSpace period with
  | "daily" => .daily
  | "weekly" => .weekly
  | "monthly" => .monthly
  | "custom" => .custom
  | _ => .never

def calcNextResetTime (calendar : Calendar) (base : Int) (plan : SubscriptionPlan)
    (endUnix : Int) : Int :=
  let bounded (next : Int) : Int := if 0 < endUnix ∧ endUnix < next then 0 else next
  match normalizeResetPeriod plan.quotaResetPeriod with
  | .never => 0
  | .daily => bounded (calendar.nextMidnight base)
  | .weekly => bounded (calendar.nextMonday base)
  | .monthly => bounded (calendar.nextMonth base)
  | .custom =>
    if plan.quotaResetCustomSeconds ≤ 0 then 0
    else bounded (addDuration base plan.quotaResetCustomSeconds 1)

/-- The catch-up loop of a reset, from a pair of the last and the next reset
instant. It reports whether the loop body ran. -/
def advanceReset (following : Int → Int) (now : Int) : Nat → Int → Int → Bool × Int × Int
  | 0, base, next => (false, base, next)
  | rounds + 1, base, next =>
    if 0 < next ∧ next ≤ now then
      (true, (advanceReset following now rounds next (following next)).2)
    else (false, base, next)

/-- While the calendar moves forward, `now` rounds are enough for the loop to
reach its exit condition. -/
theorem advanceReset_exits {following : Int → Int} {now : Int}
    (forward : ∀ instant, 0 < instant → instant ≤ now →
      instant < following instant ∨ following instant ≤ 0)
    (rounds : Nat) (base next : Int) (enough : now < next + rounds ∨ next ≤ 0) :
    ¬ (0 < (advanceReset following now rounds base next).2.2 ∧
      (advanceReset following now rounds base next).2.2 ≤ now) := by
  induction rounds generalizing base next with
  | zero =>
    simp only [advanceReset]
    omega
  | succ rounds ih =>
    simp only [advanceReset]
    split
    · next due =>
      refine ih next (following next) ?_
      have moved := forward next due.1 due.2
      omega
    · next notDue => exact notDue

def maybeResetUserSubscriptionWithPlan (calendar : Calendar) (sub : UserSubscription)
    (plan : SubscriptionPlan) (now : Int) : Option UserSubscription :=
  if 0 < sub.nextResetTime ∧ now < sub.nextResetTime then none
  else if normalizeResetPeriod plan.quotaResetPeriod = .never then none
  else
    let base := if sub.lastResetTime ≤ 0 then sub.startTime else sub.lastResetTime
    let following (instant : Int) : Int := calcNextResetTime calendar instant plan sub.endTime
    let (advanced, base, next) :=
      advanceReset following now (now.toNat + 1) base (following base)
    if advanced then
      some { sub with
        amountUsed := 0
        lastResetTime := base
        nextResetTime := next
        usedNonneg := nothing_used }
    else if sub.nextResetTime = 0 ∧ 0 < next then
      some { sub with nextResetTime := next, lastResetTime := base }
    else none

theorem maybeReset_fields {calendar : Calendar} {sub updated : UserSubscription}
    {plan : SubscriptionPlan} {now : Int}
    (reset : maybeResetUserSubscriptionWithPlan calendar sub plan now = some updated) :
    updated.id = sub.id ∧ updated.userId = sub.userId ∧ updated.planId = sub.planId ∧
      updated.amountTotal = sub.amountTotal ∧ updated.endTime = sub.endTime ∧
      updated.status = sub.status ∧
      (updated.amountUsed = sub.amountUsed ∨ updated.amountUsed = 0) := by
  simp only [maybeResetUserSubscriptionWithPlan] at reset
  split_ifs at reset
  all_goals
    cases reset
    simp

end NewApi
