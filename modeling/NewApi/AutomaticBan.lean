import NewApi.Interleaving

/-!
# The automatic ban and the administrator

A worker looks at the manual actions on the user before it asks the reviewer, and again before it
disables the user. The second look and the ban are two statements, and so are the two halves of a
manual re-enable: the user is enabled, then the time of it is recorded.
-/

namespace NewApi

open GuardedRuns Interleaving

def skipReasonManualBan : String := "manual_ban_override"

def skipReasonManualUnban : String := "manual_unban_override"

structure GraceTimes where
  lastManualBanAt : Int
  lastManualUnbanAt : Int
deriving DecidableEq, Repr

/-- The reason why a task is superseded. -/
def checkManualOverride (createdAt : Int) : Option GraceTimes → Option String
  | none => none
  | some times =>
    if createdAt < times.lastManualBanAt then some skipReasonManualBan
    else if createdAt < times.lastManualUnbanAt then some skipReasonManualUnban
    else none

inductive DisabledBy where
  | verdict
  | administrator
  /-- A blacklisted address. -/
  | other
deriving DecidableEq, Repr

structure BanShared where
  grace : Option GraceTimes
  root : Bool
  disabledBy : Option DisabledBy
  /-- The administrators who have enabled the user and not recorded it yet. -/
  underway : List Nat
  /-- A re-enable was completed, and no administrator has disabled the user since. -/
  reenabled : Bool
deriving DecidableEq, Repr

namespace BanShared

variable (shared : BanShared)

def unbanTime : Option Int :=
  shared.grace.map GraceTimes.lastManualUnbanAt

/-- The grace row, created when it is missing. -/
def times : GraceTimes :=
  shared.grace.getD ⟨0, 0⟩

def recordManualBan (time : Int) : BanShared :=
  { shared with grace := some { shared.times with lastManualBanAt := time } }

/-- The first statement of `DisableUserPermanently`, which spares the root user. -/
def disableUserPermanently (cause : DisabledBy) : BanShared :=
  if shared.root then shared else { shared with disabledBy := some cause }

def enable (process : Nat) : BanShared :=
  { shared with disabledBy := none, underway := process :: shared.underway }

def recordManualUnban (process : Nat) (time : Int) : BanShared :=
  { shared with
    grace := some { shared.times with lastManualUnbanAt := time }
    underway := shared.underway.filter (· ≠ process)
    reenabled := true }

/-- The re-enable could not be recorded, which is only logged. -/
def leaveUnrecorded (process : Nat) : BanShared :=
  { shared with underway := shared.underway.filter (· ≠ process) }

def disable : BanShared :=
  { shared with disabledBy := some .administrator, reenabled := false }

/-- The verdict of the task does not prevail over a later re-enable. -/
def ReenableWins : Prop :=
  shared.reenabled = true → shared.disabledBy ≠ some .verdict

instance (shared : BanShared) : Decidable shared.ReenableWins :=
  inferInstanceAs (Decidable (_ → _))

end BanShared

/-- Where a worker or an administrator is between two statements. -/
inductive BanActor where
  | idle
  -- `processLLMReviewTask`
  | started
  | screened
  | reviewing
  -- `applyLLMReviewVerdict` on a violation; `seen` is the time of the last re-enable that
  -- the second look has found, `none` when the row could not be read
  | judged (shouldAutoBan : Bool)
  | rechecked (seen : Option (Option Int)) (shouldAutoBan : Bool)
  | banning (seen : Option (Option Int))
  | banned
  -- an administrator
  | enabled
  | disabled
deriving DecidableEq, Repr

inductive BanChoice (createdAt : Int) where
  | process
  /-- The review ends without a violation. -/
  | stop
  | violation (shouldAutoBan : Bool)
  | reenable
  | recordUnban (time : { time : Int // createdAt < time })
  | disable
  | recordBan (time : Int)
  | next
  | error
deriving DecidableEq, Repr

/-- What else may happen to the user. -/
inductive BanChange where
  | disable
  | recordBan (time : Int)
  | setRole (root : Bool)
deriving DecidableEq, Repr

namespace BanShared

def act (createdAt : Int) (process : Nat) (shared : BanShared) :
    BanActor → BanChoice createdAt → BanShared × BanActor
  | .idle, .process => (shared, .started)
  | .started, .next =>
    (shared, if (checkManualOverride createdAt shared.grace).isSome then .idle else .screened)
  -- A row that cannot be read counts as no manual action.
  | .started, .error => (shared, .screened)
  | .screened, .next => (shared, if shared.disabledBy.isSome then .idle else .reviewing)
  | .screened, .error => (shared, .reviewing)
  | .reviewing, .stop => (shared, .idle)
  | .reviewing, .violation shouldAutoBan => (shared, .judged shouldAutoBan)
  | .judged shouldAutoBan, .next =>
    (shared, if (checkManualOverride createdAt shared.grace).isSome then .idle
      else .rechecked (some shared.unbanTime) shouldAutoBan)
  | .judged shouldAutoBan, .error => (shared, .rechecked none shouldAutoBan)
  | .rechecked seen shouldAutoBan, .next =>
    (shared, if shouldAutoBan && !shared.root then .banning seen else .idle)
  | .rechecked seen shouldAutoBan, .error =>
    (shared, if shouldAutoBan then .banning seen else .idle)
  | .banning _, .next =>
    (shared.disableUserPermanently .verdict, if shared.root then .idle else .banned)
  -- The automatic ban is recorded as a manual one.
  | .banned, .recordBan time => (shared.recordManualBan time, .idle)
  | .idle, .reenable => (shared.enable process, .enabled)
  | .enabled, .recordUnban time => (shared.recordManualUnban process time, .idle)
  | .enabled, .error => (shared.leaveUnrecorded process, .idle)
  | .idle, .disable => (shared.disable, .disabled)
  | .disabled, .recordBan time => (shared.recordManualBan time, .idle)
  | _, .error => (shared, .idle)
  | actor, _ => (shared, actor)

def change (shared : BanShared) : BanChange → BanShared
  | .disable => shared.disableUserPermanently .other
  | .recordBan time => shared.recordManualBan time
  | .setRole root => { shared with root }

end BanShared

abbrev BanSystem := System BanShared BanActor

abbrev BanEvent (createdAt : Int) := Event (BanChoice createdAt) BanChange

def banStep (createdAt : Int) : BanSystem → BanEvent createdAt → BanSystem :=
  step (BanShared.act createdAt) BanShared.change

/-- The task has just been created, for a user with any history. -/
def BanSystem.start (grace : Option GraceTimes) (root : Bool) (disabledBy : Option DisabledBy) :
    BanSystem where
  shared := { grace, root, disabledBy, underway := [], reenabled := false }
  locals _ := .idle

/-- At a ban, the worker has read the time of the last re-enable that the row still has,
and no re-enable has done only its first half. -/
def UnracedBan (shared : BanShared) : BanActor → Prop
  | .banning seen => seen = some shared.unbanTime ∧ shared.underway = []
  | _ => True

instance (shared : BanShared) : (actor : BanActor) → Decidable (UnracedBan shared actor)
  | .banning seen =>
    inferInstanceAs (Decidable (seen = some shared.unbanTime ∧ shared.underway = []))
  | .idle | .started | .screened | .reviewing | .judged _ | .rechecked _ _ | .banned | .enabled
  | .disabled => isTrue trivial

def BansUnraced {createdAt : Int} (system : BanSystem) : BanEvent createdAt → Prop
  | .act process .next => UnracedBan system.shared (system.locals process)
  | _ => True

instance {createdAt : Int} (system : BanSystem) :
    (event : BanEvent createdAt) → Decidable (BansUnraced system event)
  | .act process .next =>
    inferInstanceAs (Decidable (UnracedBan system.shared (system.locals process)))
  | .act _ .process | .act _ .stop | .act _ (.violation _) | .act _ .reenable
  | .act _ (.recordUnban _) | .act _ .disable | .act _ (.recordBan _) | .act _ .error
  | .change _ => isTrue trivial

open BanShared

section

variable (createdAt : Int)

structure BanInvariant (shared : BanShared) : Prop where
  wins : shared.ReenableWins
  underway : shared.underway ≠ [] → shared.disabledBy ≠ some .verdict
  recorded : shared.reenabled = true → ∃ time, shared.unbanTime = some time ∧ createdAt < time

/-- An administrator in the middle of a re-enable is counted, and a worker that goes on to
the ban has seen no re-enable after the creation of the task. -/
def BanActor.Knows (process : Nat) (shared : BanShared) : BanActor → Prop
  | .enabled => process ∈ shared.underway
  | .rechecked seen _ | .banning seen => ∀ time, seen = some (some time) → time ≤ createdAt
  | _ => True

variable {createdAt} {process : Nat} {shared : BanShared}

/-- A look that finds nothing has seen no later re-enable. -/
theorem unbanTime_le_of_checked
    (checked : ¬ (checkManualOverride createdAt shared.grace).isSome = true) {time : Int}
    (seen : shared.unbanTime = some time) : time ≤ createdAt := by
  obtain ⟨times,found,rfl⟩ := Option.map_eq_some_iff.mp seen
  rw [found,checkManualOverride] at checked
  split_ifs at checked <;> simp_all

namespace BanInvariant

variable {shared : BanShared} (invariant : BanInvariant createdAt shared)

include invariant

theorem recordManualBan (time : Int) : BanInvariant createdAt (shared.recordManualBan time) where
  wins := invariant.wins
  underway := invariant.underway
  recorded reenabled := by
    obtain ⟨unban,seen,later⟩ := invariant.recorded reenabled
    obtain ⟨times,found,rfl⟩ := Option.map_eq_some_iff.mp seen
    exact ⟨times.lastManualUnbanAt,
      by simp [BanShared.recordManualBan,BanShared.unbanTime,BanShared.times,found],later⟩

theorem enable (process : Nat) : BanInvariant createdAt (shared.enable process) where
  wins := by simp [BanShared.ReenableWins,BanShared.enable]
  underway := by simp [BanShared.enable]
  recorded := invariant.recorded

omit invariant in
theorem disable : BanInvariant createdAt shared.disable where
  wins := by simp [BanShared.ReenableWins,BanShared.disable]
  underway := by simp [BanShared.disable]
  recorded := by simp [BanShared.disable]

theorem leaveUnrecorded (process : Nat) :
    BanInvariant createdAt (shared.leaveUnrecorded process) where
  wins := invariant.wins
  underway remaining := by
    apply invariant.underway
    rintro none
    simp [BanShared.leaveUnrecorded,none] at remaining
  recorded := invariant.recorded

/-- A re-enable is recorded while no ban has come between its two halves. -/
theorem recordManualUnban (started : process ∈ shared.underway) {time : Int}
    (later : createdAt < time) :
    BanInvariant createdAt (shared.recordManualUnban process time) where
  wins _ := invariant.underway (List.ne_nil_of_mem started)
  underway _ := invariant.underway (List.ne_nil_of_mem started)
  recorded _ := ⟨time, rfl, later⟩

theorem ban {seen : Option (Option Int)} (unraced : UnracedBan shared (.banning seen))
    (checked : ∀ time, seen = some (some time) → time ≤ createdAt) :
    BanInvariant createdAt (shared.disableUserPermanently .verdict) := by
  obtain ⟨unchanged,none⟩ := unraced
  have notReenabled : ¬ shared.reenabled = true := by
    intro reenabled
    obtain ⟨time,recorded,later⟩ := invariant.recorded reenabled
    have := checked time (unchanged.trans (congrArg some recorded))
    omega
  unfold disableUserPermanently
  split
  · exact invariant
  · exact ⟨fun reenabled => absurd reenabled notReenabled,fun some => absurd none some,
      fun reenabled => absurd reenabled notReenabled⟩

theorem disableOther : BanInvariant createdAt (shared.disableUserPermanently .other) := by
  unfold disableUserPermanently
  split
  · exact invariant
  · exact ⟨fun _ => by simp,fun _ => by simp,invariant.recorded⟩

end BanInvariant

def KeepsUnderway (process : Nat) (before after : BanShared) : Prop :=
  process ∈ before.underway → process ∈ after.underway

theorem disableUserPermanently_underway (shared : BanShared) (cause : DisabledBy) :
    (shared.disableUserPermanently cause).underway = shared.underway := by
  unfold disableUserPermanently
  split <;> rfl

theorem banAct_underway {other : Nat} (different : other ≠ process) (shared : BanShared)
    (actor : BanActor) (choice : BanChoice createdAt) :
    KeepsUnderway other shared (shared.act createdAt process actor choice).1 := by
  intro started
  fun_cases act createdAt process shared actor choice
  all_goals try exact started
  · simpa [disableUserPermanently_underway] using started
  · exact List.mem_cons_of_mem process started
  · simpa [recordManualUnban,different] using started
  · simpa [leaveUnrecorded,different] using started

theorem banAct_sound {actor : BanActor} {choice : BanChoice createdAt}
    (invariant : BanInvariant createdAt shared) (knows : actor.Knows createdAt process shared)
    (unraced : choice = .next → UnracedBan shared actor) :
    BanInvariant createdAt (shared.act createdAt process actor choice).1 ∧
      (shared.act createdAt process actor choice).2.Knows createdAt process
        (shared.act createdAt process actor choice).1 := by
  fun_cases act createdAt process shared actor choice
  all_goals try exact ⟨invariant,trivial⟩
  -- the two looks before the reviewer is asked
  · exact ⟨invariant,by dsimp only; split <;> trivial⟩
  · exact ⟨invariant,by dsimp only; split <;> trivial⟩
  -- the look before the ban
  · refine ⟨invariant,?_⟩
    split
    · trivial
    case isFalse checked =>
      intro time seen
      exact unbanTime_le_of_checked checked (Option.some.inj seen)
  · exact ⟨invariant,nofun⟩
  -- the user is not the root user
  · refine ⟨invariant,?_⟩
    split
    · exact knows
    · trivial
  · refine ⟨invariant,?_⟩
    split
    · exact knows
    · trivial
  -- the ban and its record
  · exact ⟨invariant.ban (unraced rfl) knows,by dsimp only; split <;> trivial⟩
  · exact ⟨invariant.recordManualBan _,trivial⟩
  -- the administrator
  · exact ⟨invariant.enable process,List.mem_cons_self⟩
  · case _ time => exact ⟨invariant.recordManualUnban knows time.2,trivial⟩
  · exact ⟨invariant.leaveUnrecorded process,trivial⟩
  · exact ⟨BanInvariant.disable,trivial⟩
  · exact ⟨invariant.recordManualBan _,trivial⟩
  · exact ⟨invariant,knows⟩

theorem banStep_sound (system : BanSystem) (event : BanEvent createdAt)
    (sound : Sound (BanInvariant createdAt) (BanActor.Knows createdAt) system)
    (unraced : BansUnraced system event) :
    Sound (BanInvariant createdAt) (BanActor.Knows createdAt) (banStep createdAt system event) := by
  apply sound_step BansUnraced KeepsUnderway _ _ _ system event sound unraced
  · intro process before after actor keeps knows
    cases actor with
    | enabled => exact keeps knows
    | rechecked | banning => exact knows
    | _ => trivial
  · intro system process choice sound unraced
    have guard : choice = .next → UnracedBan system.shared (system.locals process) := by
      rintro rfl
      exact unraced
    obtain ⟨invariant,knows⟩ := banAct_sound sound.shared (sound.locals process) guard
    exact ⟨invariant,knows,fun other different => banAct_underway different _ _ _⟩
  · intro system change sound _
    cases change with
    | disable =>
      refine ⟨sound.shared.disableOther,fun process started => ?_⟩
      simpa [change,disableUserPermanently_underway] using started
    | recordBan time => exact ⟨sound.shared.recordManualBan time,fun _ started => started⟩
    | setRole =>
      exact ⟨⟨sound.shared.wins,sound.shared.underway,sound.shared.recorded⟩,
        fun _ started => started⟩

/-- As long as no re-enable comes between the last look of a worker and its ban, or has
done only its first half at that ban, a user who was re-enabled after the creation of the
task is never left disabled by its verdict. -/
theorem reenable_wins_over_verdict (grace : Option GraceTimes) (root : Bool)
    (disabledBy : Option DisabledBy) (events : List (BanEvent createdAt))
    (unraced : Guarded (banStep createdAt) BansUnraced (BanSystem.start grace root disabledBy)
      events) :
    Always (banStep createdAt) (·.shared.ReenableWins) (BanSystem.start grace root disabledBy)
      events := by
  refine always_of_guarded (Sound (BanInvariant createdAt) (BanActor.Knows createdAt)) ?_
    banStep_sound ?_ unraced
  · exact fun system sound => sound.shared.wins
  · constructor
    · exact ⟨fun reenabled => absurd reenabled Bool.false_ne_true,fun started => absurd rfl started,
        fun reenabled => absurd reenabled Bool.false_ne_true⟩
    · exact fun _ => trivial

/-- A worker bans the user, an administrator re-enables them, and a second worker stops at
its first look. -/
theorem reenable_wins_after_ban :
    Always (banStep 100) (·.shared.ReenableWins) (BanSystem.start none false none)
      [.act 0 .process, .act 0 .next, .act 0 .next, .act 0 (.violation true), .act 0 .next,
        .act 0 .next, .act 0 .next, .act 0 (.recordBan 110), .act 1 .reenable,
        .act 1 (.recordUnban ⟨120, by decide⟩), .act 2 .process, .act 2 .next, .act 2 .next] :=
  reenable_wins_over_verdict none false none _ (by decide +kernel)

/-- An administrator re-enables the user after the last look of the worker. -/
theorem verdict_wins_over_reenable :
    ¬ Always (banStep 100) (·.shared.ReenableWins) (BanSystem.start none false none)
      [.act 0 .process, .act 0 .next, .act 0 .next, .act 0 (.violation true), .act 0 .next,
        .act 0 .next, .act 1 .reenable, .act 1 (.recordUnban ⟨120, by decide⟩), .act 0 .next] := by
  intro always
  exact absurd (always _ List.prefix_rfl) (by decide +kernel)

end

end NewApi
