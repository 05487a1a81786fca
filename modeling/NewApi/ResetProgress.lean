import NewApi.SubscriptionStore

/-!
# Whether a reset period ends after it begins

A custom period wraps around in nanoseconds, and `time.Date` may answer with an earlier wall clock
when the one asked for is skipped.
-/

namespace NewApi

/-- A time zone: the seconds east of UTC at an instant, and the arithmetic of months on the wall
clock, which counts seconds as if it were UTC. -/
structure TimeZone where
  offset : Int → Int
  firstOfMonth : Int → Int
  addMonths : Int → Int → Int → Int

/-- The next reset is none, or comes later. -/
def Later (base next : Int) : Prop := next = 0 ∨ base < next

namespace TimeZone

variable (zone : TimeZone)

def wallClock (instant : Int) : Int := instant + zone.offset instant

/-- `time.Date`. The offset is looked up with the wall clock taken for an instant, and once more
where this leads to another offset. -/
def date (wall : Int) : Int := wall - zone.offset (wall - zone.offset wall)

def midnight (instant : Int) : Int := zone.date (zone.wallClock instant / 86400 * 86400)

def addDays (instant days : Int) : Int := zone.date (zone.wallClock instant + days * 86400)

/-- The first day of 1970 was a Thursday. -/
def daysUntilMonday (instant : Int) : Int :=
  let weekday := (zone.wallClock instant / 86400 + 4) % 7
  8 - if weekday = 0 then 7 else weekday

def calendar : Calendar where
  nextMidnight base := zone.addDays (zone.midnight base) 1
  nextMonday base := zone.addDays (zone.midnight base) (zone.daysUntilMonday base)
  nextMonth base := zone.date (zone.addMonths
    (zone.wallClock (zone.date (zone.firstOfMonth (zone.wallClock base)))) 0 1)
  addDate base years months := zone.date (zone.addMonths (zone.wallClock base) years months)

/-- The boundary of the calendar comes later, or the wrapped duration is a second or more. -/
def Advances (plan : SubscriptionPlan) (base : Int) : Prop :=
  match normalizeResetPeriod plan.quotaResetPeriod with
  | .never => True
  | .daily => Later base (zone.calendar.nextMidnight base)
  | .weekly => Later base (zone.calendar.nextMonday base)
  | .monthly => Later base (zone.calendar.nextMonth base)
  | .custom => 0 < plan.quotaResetCustomSeconds →
    Later base (base + wrapInt64 (plan.quotaResetCustomSeconds * 1000000000) / 1000000000)

end TimeZone

theorem later_bounded {base next : Int} :
    (∀ endUnix : Int, Later base (if 0 < endUnix ∧ endUnix < next then 0 else next)) ↔
      Later base next := by
  constructor
  · intro later
    simpa using later 0
  · intro later endUnix
    split
    · exact .inl rfl
    · exact later

theorem calcNextResetTime_later (zone : TimeZone) (plan : SubscriptionPlan) (base : Int) :
    (∀ endUnix, Later base (calcNextResetTime zone.calendar base plan endUnix)) ↔
      zone.Advances plan base := by
  unfold calcNextResetTime TimeZone.Advances
  cases normalizeResetPeriod plan.quotaResetPeriod with
  | never => exact iff_of_true (fun _ => .inl rfl) trivial
  | daily | weekly | monthly => exact later_bounded
  | custom =>
    by_cases positive : 0 < plan.quotaResetCustomSeconds
    · simp only [Int.not_le.mpr positive,positive,true_imp_iff]
      exact later_bounded
    · simp [positive,Later]

end NewApi
