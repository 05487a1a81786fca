import NewApi.GuardedRuns
import NewApi.ResetProgress
import NewApi.SubscriptionGroups
import NewApi.SubscriptionResets

/-!
# Resets at the boundaries of the periods

When no reset fits before the end any more, an administrator's reset forgets when the last one was,
and the periods are counted from the start again.
-/

namespace NewApi

open GuardedRuns Relation UserSubscription

def NextBoundary (following : Int → Int) (boundary next : Int) : Prop :=
  next = following boundary ∧ 0 < next

theorem advanceReset_reaches (following : Int → Int) (rounds : Nat) {base now : Int}
    (past : base ≤ now) :
    let reached := (advanceReset following now rounds base (following base)).2
    reached.2 = following reached.1 ∧ reached.1 ≤ now ∧
      ReflTransGen (NextBoundary following) base reached.1 := by
  induction rounds generalizing base with
  | zero => exact ⟨rfl,past,.refl⟩
  | succ rounds ih =>
    simp only [advanceReset]
    split
    case isTrue due =>
      obtain ⟨isNext,inTime,steps⟩ := ih due.2
      exact ⟨isNext,inTime,.head ⟨rfl,due.1⟩ steps⟩
    case isFalse => exact ⟨rfl,past,.refl⟩

/-- A call that resets the subscription if it is due, or a reset by an administrator. -/
inductive ResetEvent where
  | due (now : Int)
  | admin (now : Int) (clock : 0 < now) (advanceResetTime : Bool)

namespace UserSubscription

variable (calendar : Calendar) (plan : SubscriptionPlan) (sub : UserSubscription)

def following (instant : Int) : Int := calcNextResetTime calendar instant plan sub.endTime

def resetBase : Int := if sub.lastResetTime ≤ 0 then sub.startTime else sub.lastResetTime

def resetBy : ResetEvent → UserSubscription
  | .due now => (maybeResetUserSubscriptionWithPlan calendar sub plan now).getD sub
  | .admin now _ advanceResetTime => resetUserSubscription calendar sub plan now advanceResetTime

/-- A reset at the latest boundary. -/
structure ResetTo (now : Int) (updated : UserSubscription) : Prop where
  unused : updated.amountUsed = 0
  past : updated.lastResetTime ≤ now
  boundary : TransGen (NextBoundary (sub.following calendar plan)) sub.resetBase
    updated.lastResetTime
  next : updated.nextResetTime = sub.following calendar plan updated.lastResetTime
  upcoming : updated.nextResetTime = 0 ∨ now < updated.nextResetTime

/-- A subscription is reset when it is due, and not again at the same time. -/
structure ResetsExactly : Prop where
  idle : ∀ now, ¬ (0 < sub.nextResetTime ∧ sub.nextResetTime ≤ now) →
    maybeResetUserSubscriptionWithPlan calendar sub plan now = none
  due : ∀ now, 0 < sub.nextResetTime → sub.nextResetTime ≤ now → ∃ updated,
    maybeResetUserSubscriptionWithPlan calendar sub plan now = some updated ∧
      sub.ResetTo calendar plan now updated ∧
      maybeResetUserSubscriptionWithPlan calendar updated plan now = none
  withinEnd : 0 < sub.endTime → sub.nextResetTime ≤ sub.endTime

/-- An administrator who moves the next reset leaves one, unless the periods from the start have
none either. -/
def KeepsCounting : ResetEvent → Prop
  | .due _ => True
  | .admin now _ advanceResetTime => advanceResetTime = true →
      0 < sub.following calendar plan now ∨ sub.following calendar plan sub.startTime = 0

/-- The next reset is the boundary after the last one. -/
structure Counted : Prop where
  started : 0 < sub.startTime
  next : sub.nextResetTime = sub.following calendar plan sub.resetBase

variable {calendar plan sub} {now : Int}

theorem following_le_end (instant : Int) (bounded : 0 < sub.endTime) :
    sub.following calendar plan instant ≤ sub.endTime := by
  unfold following calcNextResetTime
  dsimp only
  all_goals try split
  all_goals omega

theorem resetBase_admin (clock : 0 < now) :
    (resetUserSubscription calendar sub plan now true).resetBase =
      if 0 < sub.following calendar plan now then now else sub.startTime := by
  simp only [resetBase,resetUserSubscription,following]
  split_ifs <;> omega

/-- When the boundary after the base has passed, the loop runs. -/
theorem maybeReset_of_passed {next : Int}
    (notAhead : ¬ (0 < sub.nextResetTime ∧ now < sub.nextResetTime))
    (isNext : sub.following calendar plan sub.resetBase = next) (passed : 0 < next ∧ next ≤ now) :
    let reached := (advanceReset (sub.following calendar plan) now now.toNat next
      (sub.following calendar plan next)).2
    maybeResetUserSubscriptionWithPlan calendar sub plan now = some { sub with
      amountUsed := 0, lastResetTime := reached.1, nextResetTime := reached.2
      usedNonneg := nothing_used } := by
  have periodic : normalizeResetPeriod plan.quotaResetPeriod ≠ .never := by
    intro never
    simp only [following,calcNextResetTime,never] at isNext
    omega
  unfold following resetBase at isNext
  simp only [maybeResetUserSubscriptionWithPlan,advanceReset,isNext,if_neg notAhead,
    if_neg periodic,if_pos passed]
  rfl

theorem Counted.idle (counted : sub.Counted calendar plan)
    (notDue : ¬ (0 < sub.nextResetTime ∧ sub.nextResetTime ≤ now)) :
    maybeResetUserSubscriptionWithPlan calendar sub plan now = none := by
  have next := counted.next
  unfold following resetBase at next
  simp only [maybeResetUserSubscriptionWithPlan,advanceReset,← next,if_neg notDue]
  simp only [if_false,ite_eq_left_iff,ite_eq_right_iff,reduceCtorEq]
  omega

section

variable (later : ∀ base endUnix, Later base (calcNextResetTime calendar base plan endUnix))
  {event : ResetEvent}

include later

theorem Counted.due (counted : sub.Counted calendar plan)
    (positive : 0 < sub.nextResetTime) (past : sub.nextResetTime ≤ now) :
    ∃ updated, maybeResetUserSubscriptionWithPlan calendar sub plan now = some updated ∧
      sub.ResetTo calendar plan now updated ∧ updated.Counted calendar plan := by
  have forward : ∀ instant, instant < sub.following calendar plan instant ∨
      sub.following calendar plan instant ≤ 0 :=
    fun instant => (later instant sub.endTime).elim (fun none => .inr none.le) .inl
  have reset := maybeReset_of_passed (by omega) counted.next.symm ⟨positive,past⟩
  have reaches := advanceReset_reaches (sub.following calendar plan) now.toNat past
  have exits := advanceReset_exits (fun instant _ _ => forward instant) now.toNat
    sub.nextResetTime (sub.following calendar plan sub.nextResetTime)
    (show now < _ + _ ∨ _ by omega)
  generalize (advanceReset (sub.following calendar plan) now now.toNat sub.nextResetTime
    (sub.following calendar plan sub.nextResetTime)).2 = reached at reset reaches exits
  obtain ⟨isNext,inTime,steps⟩ := reaches
  have boundary : TransGen (NextBoundary (sub.following calendar plan)) sub.resetBase reached.1 :=
    .head' ⟨counted.next,positive⟩ steps
  have reachedPos : 0 < reached.1 := by
    obtain ⟨_,-,-,isPos⟩ := TransGen.tail'_iff.mp boundary
    exact isPos
  have upcoming : reached.2 = 0 ∨ now < reached.2 := by
    have after : Later reached.1 (sub.following calendar plan reached.1) := later _ _
    unfold Later at after
    omega
  refine ⟨_,reset,⟨rfl,inTime,boundary,isNext,upcoming⟩,counted.started,?_⟩
  rwa [resetBase,if_neg (Int.not_le.mpr reachedPos)]

theorem Counted.resetBy (counted : sub.Counted calendar plan)
    (counts : sub.KeepsCounting calendar plan event) :
    (sub.resetBy calendar plan event).Counted calendar plan := by
  cases event with
  | due now =>
    by_cases due : 0 < sub.nextResetTime ∧ sub.nextResetTime ≤ now
    · obtain ⟨updated,reset,-,still⟩ := counted.due later due.1 due.2
      simpa only [UserSubscription.resetBy,reset,Option.getD_some] using still
    · simpa only [UserSubscription.resetBy,counted.idle due,Option.getD_none] using counted
  | admin now clock advanceResetTime =>
    refine ⟨counted.started,?_⟩
    cases advanceResetTime with
    | false => exact counted.next
    | true =>
      change sub.following calendar plan now =
        sub.following calendar plan (resetUserSubscription calendar sub plan now true).resetBase
      rw [resetBase_admin clock]
      split
      · rfl
      · next noNext =>
        have after : Later now (sub.following calendar plan now) := later _ _
        have fromStart := (counts rfl).resolve_left noNext
        unfold Later at after
        omega

theorem Counted.exact (counted : sub.Counted calendar plan) : sub.ResetsExactly calendar plan := by
  refine ⟨fun now => counted.idle,fun now positive past => ?_,?_⟩
  · obtain ⟨updated,reset,resetTo,still⟩ := counted.due later positive past
    refine ⟨updated,reset,resetTo,still.idle ?_⟩
    have := resetTo.upcoming
    omega
  · rw [counted.next]
    exact following_le_end _

theorem Counted.breaks (counted : sub.Counted calendar plan)
    (forgets : ¬ sub.KeepsCounting calendar plan event) :
    ¬ (sub.resetBy calendar plan event).ResetsExactly calendar plan := by
  cases event with
  | due => exact absurd trivial forgets
  | admin now clock =>
    simp only [KeepsCounting,Classical.not_imp,not_or] at forgets
    obtain ⟨rfl,noNext,fromStart⟩ := forgets
    have ahead : Later sub.startTime (sub.following calendar plan sub.startTime) := later _ _
    have positive : 0 < sub.following calendar plan sub.startTime :=
      counted.started.trans (ahead.resolve_left fromStart)
    change ¬ (resetUserSubscription calendar sub plan now true).ResetsExactly calendar plan
    have base : (resetUserSubscription calendar sub plan now true).resetBase = sub.startTime := by
      rw [resetBase_admin clock,if_neg noNext]
    have next : ¬ 0 < (resetUserSubscription calendar sub plan now true).nextResetTime := noNext
    have sameEnd : (resetUserSubscription calendar sub plan now true).following calendar plan =
      sub.following calendar plan := rfl
    intro exactly
    have isNone := exactly.idle (sub.following calendar plan sub.startTime) fun due => next due.1
    rw [maybeReset_of_passed (fun ahead => next ahead.1) (by rw [base,sameEnd]) ⟨positive,le_rfl⟩]
      at isNone
    cases isNone

end

end UserSubscription

/-- From the purchase on, resets are exact until one makes the subscription forget its place in
the periods. -/
theorem resets_exact_iff {calendar : Calendar} {plan : SubscriptionPlan}
    (later : ∀ base endUnix, Later base (calcNextResetTime calendar base plan endUnix))
    (bought endUnix id userId : Int) (idPos : 0 < id) (prevGroup : String) (clock : 0 < bought)
    (events : List ResetEvent) :
    let start := newSubscription calendar bought endUnix id userId idPos plan prevGroup
    Always (resetBy calendar plan) (·.ResetsExactly calendar plan) start events ↔
      Guarded (resetBy calendar plan) (·.KeepsCounting calendar plan) start
        events := by
  apply always_iff_guarded (fun _ counted => UserSubscription.Counted.exact later counted)
  · exact fun _ _ counted => counted.resetBy later
  · exact fun _ _ counted => counted.breaks later
  · refine ⟨clock,?_⟩
    simp only [newSubscription,resetBase]
    split_ifs <;> first | rfl | omega

def flatCalendar : Calendar := ⟨id, id, id, fun base _ _ => base⟩

def hundredSeconds : SubscriptionPlan :=
  ⟨1, "", .custom, 1, 250, none, 0, "", "", 0, "custom", 100⟩

def shortSubscription : UserSubscription :=
  newSubscription flatCalendar 1000 1250 1 1 Int.one_pos hundredSeconds ""

theorem resets_exact_due :
    Always (UserSubscription.resetBy flatCalendar hundredSeconds)
      (·.ResetsExactly flatCalendar hundredSeconds) shortSubscription [.due 1120] := by
  refine (resets_exact_iff ?_ 1000 1250 1 1 (by decide) "" (by decide) _).mpr ⟨trivial,trivial⟩
  intro base endUnix
  have custom : normalizeResetPeriod hundredSeconds.quotaResetPeriod = .custom := by decide
  have later : base < addDuration base hundredSeconds.quotaResetCustomSeconds 1 := by
    simp [addDuration,hundredSeconds,wrapInt64]
  simp only [calcNextResetTime,custom]
  split
  · exact .inl rfl
  · split
    · exact .inl rfl
    · exact .inr later

/-- The reset at 1200 leaves no next one before the end, and one at 1210 starts from 1000 again. -/
theorem forgotten_boundary_resets_again :
    ¬ Always (UserSubscription.resetBy flatCalendar hundredSeconds)
      (·.ResetsExactly flatCalendar hundredSeconds) shortSubscription
      [.admin 1200 (by decide) true] :=
  fun always => absurd ((always _ List.prefix_rfl).idle 1210 (by decide)) (by decide)

end NewApi
