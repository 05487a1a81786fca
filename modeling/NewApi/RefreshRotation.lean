import NewApi.UserSessionCalls
import Mathlib.Data.List.Nodup

/-!
# Rotation of refresh secrets

The secrets of a session form one chain. The two keyed digests are taken to have no collision among
the secrets that occur in a run.
-/

namespace NewApi

open GuardedRuns Interleaving SessionShared List

section

variable (config : SessionConfig) (issued : String)

def refreshChain (rotations : Nat) : String :=
  config.deriveNextRefreshSecret^[rotations] issued

theorem refreshChain_succ (rotations : Nat) :
    refreshChain config issued (rotations + 1) =
      config.deriveNextRefreshSecret (refreshChain config issued rotations) :=
  Function.iterate_succ_apply' _ _ _

def presentedSecret : SessionEvent → Option String
  | .act _ (.refresh secret) => some secret
  | _ => none

/-- No secret of the chain or of the run has the digest of another. -/
structure CollisionFree (events : List SessionEvent) : Prop where
  presented : ∀ secret ∈ events.filterMap presentedSecret, ∀ index ≤ events.length,
    config.presentedHash secret = config.presentedHash (refreshChain config issued index) →
      secret = refreshChain config issued index
  chain : ∀ first ≤ events.length, ∀ second ≤ events.length,
    config.presentedHash (refreshChain config issued first) =
      config.presentedHash (refreshChain config issued second) → first = second

/-- The row of a session whose first secret has just been issued. -/
def UserSession.issue (session : UserSession) : UserSession :=
  { session with refreshHash := config.presentedHash issued, previousRefreshHash := "" }

def precedingHash : Nat → String
  | 0 => ""
  | rotations + 1 => config.presentedHash (refreshChain config issued rotations)

/-- The rotated secrets are the chain so far, and the row has its last two digests. -/
structure Chained (shared : SessionShared) : Prop where
  rotations : shared.rotations.reverse =
    (List.range shared.rotations.length).map (refreshChain config issued)
  current : shared.row.refreshHash =
    config.presentedHash (refreshChain config issued shared.rotations.length)
  previous : shared.row.previousRefreshHash = precedingHash config issued shared.rotations.length

end

def UserSessionCall.refresh? : UserSessionCall → Option Refresh
  | .rotating refresh _ | .rotationCaptured refresh _ _ | .swapping refresh _ _ _
  | .reusing refresh _ | .refreshed refresh _ _ => some refresh
  | .planning (.reuseFence refresh _) _ _ | .scripting (.reuseFence refresh _) _ _ _
  | .planning (.rotated refresh _) _ _ | .scripting (.rotated refresh _) _ _ _
  | .completing (.rotated refresh _) _ _ | .confirming (.rotated refresh _) _ => some refresh
  | _ => none

/-- A revocation by another caller gives another reason. -/
def OtherReason (_system : SessionSystem) : SessionEvent → Prop
  | .act _ (.revoke reason) => reason ≠ "refresh_reuse"
  | _ => True

section

variable (config : SessionConfig) (start : SessionSystem) (issued : String)
  (events : List SessionEvent)

def RowSeen (events : List SessionEvent) (session : UserSession) : Prop :=
  ∃ seen, seen <+: events ∧ (run (sessionStep config) start seen).shared.row = session

/-- The row that was read had the presented digest as the one before its current
digest, and the window of that digest was over. -/
structure PresentedPreceding (events : List SessionEvent) (refresh : Refresh)
    (read : UserSession) : Prop where
  seen : RowSeen config start events read
  usable : read.inactive refresh.now = false
  preceding : ∃ index, read.refreshHash =
      config.presentedHash (refreshChain config issued (index + 1)) ∧
    config.presentedHash refresh.secret = config.presentedHash (refreshChain config issued index)
  previous : read.previousRefreshHash = config.presentedHash refresh.secret
  afterWindow : read.previousValidUntil < refresh.now

/-- Every answer to a refresh is the successor of the presented secret, and its digest
was the current one of an active row. -/
def AnsweredWithSuccessor (system : SessionSystem) : Prop :=
  ∀ process refresh token digest, system.locals process = .refreshed refresh token digest →
    token = config.deriveNextRefreshSecret refresh.secret ∧ digest = config.presentedHash token ∧
      ∃ session, RowSeen config start events session ∧ session.status = .active ∧
        session.refreshHash = digest

structure WritesAsPresented (seen : List SessionEvent) (system : SessionSystem)
    (event : SessionEvent) : Prop where
  /-- A revocation for reuse is by a call that has read the row with the presented digest
  as the preceding one. -/
  reuse : (sessionStep config system event).shared.row.revokedReason = "refresh_reuse" →
    system.shared.row.revokedReason ≠ "refresh_reuse" →
      ∃ process choice refresh read, event = .act process choice ∧
        system.locals process = .reusing refresh read ∧
        PresentedPreceding config start issued seen refresh read
  /-- Another digest than the current one and the preceding one changes nothing. -/
  others : ∀ process choice refresh, event = .act process choice →
    (system.locals process).refresh? = some refresh →
    (sessionStep config system event).shared.row ≠ system.shared.row →
      system.shared.row.refreshHash = config.presentedHash refresh.secret ∨
        ∃ read, PresentedPreceding config start issued seen refresh read

/-- The answer that a call is on its way to. -/
structure KnownAnswer (refresh : Refresh) (digest : String) : Prop where
  successor : digest = config.nextHash refresh.secret
  current : ∃ session, RowSeen config start events session ∧ session.status = .active ∧
    session.refreshHash = digest

def KnownRotationPurpose : WritePurpose → Prop
  | .rotated refresh digest => KnownAnswer config start events refresh digest
  | .reuseFence refresh read => PresentedPreceding config start issued events refresh read
  | .revokeFence _ _ reason => reason ≠ "refresh_reuse"
  | _ => True

def KnownRotation (_process : Nat) (_shared : SessionShared) : UserSessionCall → Prop
  | .rotating refresh _ | .rotationCaptured refresh _ _ =>
    refresh.secret ∈ events.filterMap presentedSecret
  | .swapping refresh _ _ session =>
    refresh.secret ∈ events.filterMap presentedSecret ∧
      session.refreshHash = config.presentedHash refresh.secret
  | .reusing refresh read => PresentedPreceding config start issued events refresh read
  | .planning purpose _ _ | .scripting purpose _ _ _ | .completing purpose _ _
  | .confirming purpose _ => KnownRotationPurpose config start issued events purpose
  | .refreshed refresh token digest =>
    token = config.deriveNextRefreshSecret refresh.secret ∧
      KnownAnswer config start events refresh digest
  | .revoking _ reason | .revokeFenced _ _ reason | .revokeRead _ _ reason =>
    reason ≠ "refresh_reuse"
  | _ => True

structure NextStep (system : SessionSystem) (event : SessionEvent) : Prop where
  step : ∃ seen, seen ++ [event] <+: events ∧ run (sessionStep config) start seen = system
  reason : OtherReason system event

variable {config start issued events} {system : SessionSystem} {event : SessionEvent}

section

variable (next : NextStep config start events system event)

include next

theorem NextStep.seen : RowSeen config start events system.shared.row := by
  obtain ⟨seen,isPrefix,rfl⟩ := next.step
  exact ⟨seen,(prefix_append seen [event]).trans isPrefix,rfl⟩

theorem NextStep.seen_after :
    RowSeen config start events (sessionStep config system event).shared.row := by
  obtain ⟨seen,isPrefix,rfl⟩ := next.step
  refine ⟨seen ++ [event],isPrefix,?_⟩
  rw [run_append]
  rfl

theorem NextStep.mem : event ∈ events := by
  obtain ⟨seen,isPrefix,-⟩ := next.step
  exact isPrefix.subset (by simp)

end

variable {before after shared : SessionShared} {refresh : Refresh} {process : Nat}
  {purpose : WritePurpose}

theorem SessionEffect.rotations_le {call : UserSessionCall}
    (effect : SessionEffect config before call after) :
    after.rotations.length ≤ before.rotations.length + 1 := by
  cases effect with
  | swap => exact le_rfl
  | _ => exact Nat.le_succ _

theorem run_rotations_le (config : SessionConfig) (system : SessionSystem)
    (events : List SessionEvent) :
    (run (sessionStep config) system events).shared.rotations.length ≤
      system.shared.rotations.length + events.length := by
  induction events generalizing system with
  | nil => exact le_rfl
  | cons event events ih =>
    have first : (sessionStep config system event).shared.rotations.length ≤
        system.shared.rotations.length + 1 := by
      cases event with
      | act process choice => exact (sessionAct_effect config process _ _ choice).rotations_le
      | change => exact Nat.le_succ _
    have rest := ih (sessionStep config system event)
    rw [run_cons,length_cons]
    omega

/-- The chain has not been followed further than the run is long. -/
theorem NextStep.rotations_le (next : NextStep config start events system event)
    (unused : start.shared.rotations = []) : system.shared.rotations.length ≤ events.length := by
  obtain ⟨seen,isPrefix,rfl⟩ := next.step
  have bound := run_rotations_le config start seen
  have shorter := isPrefix.length_le
  rw [unused] at bound
  simp only [length_nil,length_append] at bound shorter
  omega

theorem Chained.rotateRow {session : UserSession} (chained : Chained config issued shared)
    (read : session.refreshHash = config.presentedHash refresh.secret)
    (secret : refresh.secret = refreshChain config issued shared.rotations.length) :
    Chained config issued (shared.rotateRow config refresh session) := by
  constructor
  · simp only [SessionShared.rotateRow,reverse_cons,length_cons,range_succ,
      map_append,map_cons,map_nil,chained.rotations,secret]
  · simp only [SessionShared.rotateRow,length_cons,refreshChain_succ,
      ← secret]
    rfl
  · simp only [SessionShared.rotateRow,UserSession.rotate,length_cons,precedingHash,read,
      secret]

theorem Chained.of_row (chained : Chained config issued before)
    (rotations : after.rotations = before.rotations)
    (current : after.row.refreshHash = before.row.refreshHash)
    (previous : after.row.previousRefreshHash = before.row.previousRefreshHash) :
    Chained config issued after := by
  constructor
  · rw [rotations]
    exact chained.rotations
  · rw [rotations,current]
    exact chained.current
  · rw [rotations,previous]
    exact chained.previous

theorem SessionEffect.chained {call : UserSessionCall}
    (effect : SessionEffect config before call after)
    (collisionFree : CollisionFree config issued events)
    (short : before.rotations.length ≤ events.length)
    (known : KnownRotation config start issued events process before call)
    (chained : Chained config issued before) : Chained config issued after := by
  cases effect with
  | swap refresh rounds deadline session calls usable current =>
    subst calls
    apply chained.rotateRow known.2
    exact collisionFree.presented _ known.1 _ short (current.symm.trans chained.current)
  | nothing => exact chained
  | _ => exact chained.of_row rfl rfl rfl

theorem Chained.presentedPreceding (chained : Chained config issued shared)
    (seen : RowSeen config start events shared.row)
    (judged : judgeRotation (config.presentedHash refresh.secret) refresh.now shared.row = .reuse) :
    PresentedPreceding config start issued events refresh shared.row := by
  obtain ⟨usable,rotated,previous,afterWindow⟩ := judgeRotation_reuse judged
  refine ⟨seen,usable,?_,previous,afterWindow⟩
  have current := chained.current
  have preceding := chained.previous
  cases count : shared.rotations.length with
  | zero =>
    rw [count] at preceding
    exact absurd preceding rotated
  | succ index =>
    rw [count] at current preceding
    exact ⟨index,current,previous.symm.trans preceding⟩

theorem decideRotation_knownRotation (chained : Chained config issued shared)
    (seen : RowSeen config start events shared.row)
    (presented : refresh.secret ∈ events.filterMap presentedSecret) (rounds : Nat)
    (deadline : Int) :
    KnownRotation config start issued events process shared
      (decideRotation config shared.row refresh rounds deadline) := by
  unfold decideRotation
  split
  · trivial
  · exact ⟨presented,(judgeRotation_swap ‹_›).2⟩
  · trivial
  · split_ifs with valid
    · have active := UserSession.status_of_not_inactive (judgeRotation_race ‹_›)
      exact ⟨rfl,valid.symm,shared.row,seen,active,rfl⟩
    · trivial
  · exact chained.presentedPreceding seen ‹_›

section

variable (known : KnownRotationPurpose config start issued events purpose)

include known

theorem confirmed_knownRotation :
    KnownRotation config start issued events process shared (config.confirmed purpose) := by
  cases purpose with
  | rotated => exact ⟨rfl,known⟩
  | _ => trivial

theorem afterWrite_knownRotation (entry : UserSession) (error : Option SessionCacheError) :
    KnownRotation config start issued events process shared
      (config.afterWrite purpose entry error) := by
  apply config.afterWrite_rule purpose entry error trivial trivial
  · rintro refresh read rfl
    exact known
  · rintro candidate now reason rfl
    exact known
  · exact known
  · exact confirmed_knownRotation known

theorem runScript_knownRotation (entry : UserSession) (deadline : Option Int)
    (expiration : SessionExpiration) :
    let result := shared.runScript config purpose entry deadline expiration
    KnownRotation config start issued events process result.1 result.2 := by
  fun_cases runScript config shared purpose entry deadline expiration with
  | case1 => exact known
  | case2 result runs | case3 result refused => exact afterWrite_knownRotation known _ _

end

theorem sessionAct_knownRotation {choice : SessionChoice}
    (next : NextStep config start events system (.act process choice))
    (chained : Chained config issued system.shared)
    (known : KnownRotation config start issued events process system.shared
      (system.locals process)) :
    let result := system.shared.act config process (system.locals process) choice
    KnownRotation config start issued events process result.1 result.2 := by
  have seen := next.seen
  have seenAfter := next.seen_after
  have mem := next.mem
  have reason := next.reason
  simp only [sessionStep,step] at seenAfter
  generalize system.locals process = call at *
  revert seenAfter
  fun_cases act config process system.shared call choice
  all_goals intro seenAfter
  all_goals try trivial
  -- What is left are the writes of the cache and the rounds of a rotation, in the order
  -- of the definition.
  · exact afterWrite_knownRotation known _ _
  · exact runScript_knownRotation known _ _ _
  · exact afterWrite_knownRotation known _ _
  · exact afterWrite_knownRotation known _ _
  · exact afterWrite_knownRotation known _ _
  · exact confirmed_knownRotation known
  · exact mem_filterMap.mpr ⟨_,mem,rfl⟩
  · exact decideRotation_knownRotation chained seen known _ _
  · have swaps := ‹(!_ && _) = true›
    simp only [Bool.and_eq_true,Bool.not_eq_true'] at swaps
    have active := UserSession.status_of_not_inactive swaps.1
    exact ⟨rfl,_,seenAfter,active,rfl⟩
  · exact known.1

abbrev RotationsSound (config : SessionConfig) (start : SessionSystem) (issued : String)
    (events : List SessionEvent) : SessionSystem → Prop :=
  Sound (Chained config issued) (KnownRotation config start issued events)

theorem rotationsSound_step (unused : start.shared.rotations = [])
    (collisionFree : CollisionFree config issued events)
    (next : NextStep config start events system event)
    (sound : RotationsSound config start issued events system) :
    RotationsSound config start issued events (sessionStep config system event) := by
  apply sound_step (NextStep config start events) (fun _ _ _ => True) _ _ _ system event sound next
  · exact fun process before after call _ known => by cases call <;> exact known
  · intro system process choice sound next
    have known := sound.locals process
    have effect := sessionAct_effect config process system.shared (system.locals process) choice
    exact ⟨effect.chained collisionFree (next.rotations_le unused) known sound.shared,
      sessionAct_knownRotation next sound.shared known,fun _ _ => trivial⟩
  · intro system nanoseconds sound next
    exact ⟨sound.shared.of_row rfl rfl rfl,fun _ => trivial⟩

theorem rotationsSound_start (clock : Int) (session : UserSession) :
    RotationsSound config start issued events
      (SessionSystem.start config clock (session.issue config issued)) := by
  refine ⟨⟨rfl,rfl,rfl⟩,fun process => ?_⟩
  by_cases creator : process = 0
  · subst creator
    trivial
  · simp only [SessionSystem.start,Function.update_of_ne creator]
    trivial

section

variable {call : UserSessionCall} (effect : SessionEffect config before call after)
  (known : KnownRotation config start issued events process before call)

include effect known

theorem SessionEffect.reuse_presented (reused : after.row.revokedReason = "refresh_reuse")
    (fresh : before.row.revokedReason ≠ "refresh_reuse") :
    ∃ refresh read, call = .reusing refresh read ∧
      PresentedPreceding config start issued events refresh read := by
  cases effect with
  | reuse refresh session calls =>
    subst calls
    exact ⟨refresh,session,rfl,known⟩
  | revoke candidate now reason calls =>
    subst calls
    exact absurd reused known
  | _ => exact absurd reused fresh

theorem SessionEffect.refresh_presented
    (presents : call.refresh? = some refresh) (changed : after.row ≠ before.row) :
    before.row.refreshHash = config.presentedHash refresh.secret ∨
      ∃ read, PresentedPreceding config start issued events refresh read := by
  cases effect with
  | swap own rounds deadline session calls usable current =>
    subst calls
    cases presents
    exact .inl current
  | reuse own session calls =>
    subst calls
    cases presents
    exact .inr ⟨session,known⟩
  | advance expectedVersion expectedAuth deadline session calls active
  | revoke candidate now reason calls =>
    subst calls
    cases presents
  | _ => exact absurd rfl changed

end

variable {seen : List SessionEvent}

theorem CollisionFree.of_prefix (collisionFree : CollisionFree config issued events)
    (isPrefix : seen <+: events) : CollisionFree config issued seen := by
  have shorter := isPrefix.length_le
  constructor
  · intro secret presented index bound
    have mem := (isPrefix.filterMap presentedSecret).subset presented
    exact collisionFree.presented secret mem index (le_trans bound shorter)
  · intro first firstBound second secondBound
    exact collisionFree.chain first (le_trans firstBound shorter) second
      (le_trans secondBound shorter)

theorem Chained.nodup (chained : Chained config issued shared)
    (collisionFree : CollisionFree config issued events)
    (short : shared.rotations.length ≤ events.length) : shared.rotations.Nodup := by
  rw [← nodup_reverse,chained.rotations]
  apply List.Nodup.map_on _ nodup_range
  intro first firstMem second secondMem same
  have firstBound := mem_range.mp firstMem
  have secondBound := mem_range.mp secondMem
  exact collisionFree.chain first (by omega) second (by omega) (congrArg config.presentedHash same)

theorem RotationsSound.answered (sound : RotationsSound config start issued events system) :
    AnsweredWithSuccessor config start events system := by
  intro process refresh token digest answered
  have known := sound.locals process
  rw [answered] at known
  obtain ⟨successor,answer⟩ := known
  exact ⟨successor,answer.successor.trans (successor ▸ rfl),answer.current⟩

theorem RotationsSound.writes (sound : RotationsSound config start issued events system)
    (event : SessionEvent) : WritesAsPresented config start issued events system event := by
  cases event with
  | act process choice =>
    have known := sound.locals process
    have effect := sessionAct_effect config process system.shared (system.locals process) choice
    constructor
    · intro reused fresh
      obtain ⟨refresh,read,calls,presented⟩ := effect.reuse_presented known reused fresh
      exact ⟨process,choice,refresh,read,rfl,calls,presented⟩
    · rintro other otherChoice refresh ⟨⟩ presents changed
      exact effect.refresh_presented known presents changed
  | change =>
    constructor
    · exact fun reused fresh => absurd reused fresh
    · exact nofun

end

/-- Digests that are the secrets themselves, each secret extending the one before. -/
def extendingConfig : SessionConfig where
  redisKeyCacheSeconds := 60
  refreshReplayWindow := 30
  hashRefreshSecret := id
  deriveNextRefreshSecret secret := secret ++ "+"

def extendingSession : UserSession :=
  ⟨1, 1, .active, "", "", 0, 0, 1000, 0, ""⟩

def extendingStart : SessionSystem :=
  SessionSystem.start extendingConfig 0 (extendingSession.issue extendingConfig "s")

def rotationEvents (process : Nat) (secret : String) : List SessionEvent :=
  [.act process (.refresh secret), .act process .next, .act process .next, .act process .next]

/-- A revocation for reuse presents the digest before the current one of that moment. -/
def ReusePrecedesCurrent (config : SessionConfig) (system : SessionSystem) (event : SessionEvent) :
    Prop :=
  (sessionStep config system event).shared.row.revokedReason = "refresh_reuse" →
    system.shared.row.revokedReason ≠ "refresh_reuse" →
      ∃ process choice refresh read, event = .act process choice ∧
        system.locals process = .reusing refresh read ∧
        system.shared.row.previousRefreshHash = config.presentedHash refresh.secret

/-- The second secret is rotated between the read and the update of a call that presents
the first one after its window. -/
def overtakenReuse : List SessionEvent :=
  rotationEvents 1 "s" ++ .change 31000000000 :: (rotationEvents 3 "s+").take 3 ++
    rotationEvents 2 "s" ++ [.act 2 .next, .act 3 .next]

end NewApi
