import NewApi.UserSessionCalls

/-!
# Revoked sessions stay revoked

What keeps a delayed fill from outliving the tombstone is the deadline that it has captured before
its read.
-/

namespace NewApi

open GuardedRuns Interleaving SessionShared UserSession

section

variable (config : SessionConfig)

/-- No deadline of an active snapshot is later: the row was active when it was read. -/
def SessionShared.limit (shared : SessionShared) : Int :=
  config.cacheDeadline (shared.revokedClock.getD shared.clock)

def KnownPurpose (shared : SessionShared) (entry : UserSession) : WritePurpose → Prop
  | .fill late => late = false
  | .reuseFence _ session => session.expiresAt = shared.row.expiresAt
  | .revokeFence candidate _ _ => candidate.expiresAt = shared.row.expiresAt
  | .revokeTombstone => entry.status ≠ .active ∧ shared.revokedClock.isSome
  | _ => True

structure KnownEntry (shared : SessionShared) (purpose : WritePurpose) (entry : UserSession)
    (deadline : Option Int) : Prop where
  purpose : KnownPurpose shared entry purpose
  expiresAt : entry.expiresAt = shared.row.expiresAt
  deadline : entry.status = .active → ∀ cacheDeadline ∈ deadline, cacheDeadline ≤ shared.limit config

def KnownExpiration (shared : SessionShared) (entry : UserSession) : SessionExpiration → Prop
  | .pexpireat milliseconds =>
    entry.status = .active ∧ milliseconds ≤ unixMilli (shared.limit config) ∧
      milliseconds ≤ shared.row.expiresAt * 1000
  | .pexpire milliseconds =>
    entry.status ≠ .active ∧
      OutlastsFrom config.ttlSeconds shared.row.expiresAt shared.clock milliseconds

def KnownSession (_process : Nat) (shared : SessionShared) : UserSessionCall → Prop
  | .looking late | .missed late => late = true → shared.tombstone.isSome
  | .captured late deadline =>
    (late = true → shared.tombstone.isSome) ∧ deadline ≤ config.cacheDeadline shared.clock
  | .loaded late deadline session =>
    session.expiresAt = shared.row.expiresAt ∧
      (session.status = .active → late = false ∧ deadline ≤ shared.limit config)
  | .planning purpose entry deadline => KnownEntry config shared purpose entry deadline
  | .scripting purpose entry deadline expiration =>
    KnownEntry config shared purpose entry deadline ∧ KnownExpiration config shared entry expiration
  | .completing purpose entry _ | .confirming purpose entry => KnownPurpose shared entry purpose
  | .rotationCaptured _ _ deadline | .advancing _ _ _ deadline _ =>
    deadline ≤ config.cacheDeadline shared.clock
  | .swapping _ _ deadline session | .advanceRead _ _ deadline session =>
    session.expiresAt = shared.row.expiresAt ∧ deadline ≤ shared.limit config
  | .reusing _ session => session.expiresAt = shared.row.expiresAt
  | .revokeFenced candidate _ _ | .revokeRead candidate _ _ =>
    candidate.expiresAt = shared.row.expiresAt
  | .answered late => late = false
  | _ => True

/-- After the final tombstone at `revokedAt` the cache holds no active entry, and it
holds a denial until every deadline has passed. -/
structure Tombstoned (shared : SessionShared) (revokedAt : Int) : Prop where
  committed : ∃ committedAt, shared.revokedClock = some committedAt ∧ committedAt ≤ revokedAt
  past : revokedAt ≤ shared.clock
  silent : ∀ cached ∈ shared.cache, cached.entry.status ≠ .active
  stands : unixMilli shared.clock ≤ tombstoneEnd config.ttlSeconds shared.row.expiresAt revokedAt →
    ∃ cached ∈ shared.cache,
      tombstoneEnd config.ttlSeconds shared.row.expiresAt revokedAt ≤ cached.expiresMs

structure SessionGlobal (shared : SessionShared) : Prop where
  revoked : ∀ committedAt ∈ shared.revokedClock,
    shared.row.status ≠ .active ∧ committedAt ≤ shared.clock
  tombstone : ∀ revokedAt ∈ shared.tombstone, Tombstoned config shared revokedAt

/-- What every step leaves in place. -/
structure KeepsSession (_process : Nat) (before after : SessionShared) : Prop where
  clock : before.clock ≤ after.clock
  expiresAt : after.row.expiresAt = before.row.expiresAt
  limit : before.limit config ≤ after.limit config
  revoked : before.revokedClock.isSome → after.revokedClock.isSome
  tombstone : before.tombstone.isSome → after.tombstone.isSome

end

section

variable {config : SessionConfig} {shared : SessionShared}

theorem cacheDeadline_mono {earlier later : Int} (ordered : earlier ≤ later) :
    config.cacheDeadline earlier ≤ config.cacheDeadline later := by
  unfold SessionConfig.cacheDeadline
  omega

variable (sound : SessionGlobal config shared)

include sound

theorem SessionGlobal.limit_le :
    shared.limit config ≤ config.cacheDeadline shared.clock := by
  apply cacheDeadline_mono
  cases revoked : shared.revokedClock with
  | none => exact le_rfl
  | some committedAt => exact (sound.revoked committedAt revoked).2

theorem SessionGlobal.not_revoked
    (active : shared.row.status = .active) : shared.revokedClock = none := by
  cases revoked : shared.revokedClock with
  | none => rfl
  | some committedAt => exact absurd active (sound.revoked committedAt revoked).1

theorem SessionGlobal.le_limit (active : shared.row.status = .active) {deadline : Int}
    (captured : deadline ≤ config.cacheDeadline shared.clock) : deadline ≤ shared.limit config := by
  rwa [limit,sound.not_revoked active]

theorem SessionGlobal.not_tombstoned
    (active : shared.row.status = .active) : shared.tombstone = none := by
  cases written : shared.tombstone with
  | none => rfl
  | some revokedAt =>
    obtain ⟨committedAt,revoked,-⟩ := (sound.tombstone revokedAt written).committed
    exact nomatch (sound.not_revoked active).symm.trans revoked

theorem SessionGlobal.late_inactive {late : Bool}
    (known : late = true → shared.tombstone.isSome) (active : shared.row.status = .active) :
    late = false := by
  cases late with
  | false => rfl
  | true => simp [sound.not_tombstoned active] at known

theorem SessionGlobal.late_silent {late : Bool}
    (known : late = true → shared.tombstone.isSome) {cached : CachedSession}
    (found : shared.cache = some cached) (active : cached.entry.status = .active) :
    late = false := by
  cases late with
  | false => rfl
  | true =>
    obtain ⟨revokedAt,written⟩ := Option.isSome_iff_exists.mp (known rfl)
    exact absurd active ((sound.tombstone revokedAt written).silent cached found)

end

section

variable {config : SessionConfig} {process : Nat} {before after : SessionShared}
  {entry : UserSession}

section

variable (keeps : KeepsSession config process before after) {purpose : WritePurpose}

include keeps

theorem knownPurpose_stable (known : KnownPurpose before entry purpose) :
    KnownPurpose after entry purpose := by
  cases purpose with
  | fill => exact known
  | reuseFence refresh session | revokeFence candidate now reason =>
    exact known.trans keeps.expiresAt.symm
  | revokeTombstone => exact ⟨known.1,keeps.revoked known.2⟩
  | _ => trivial

variable {deadline : Option Int}

theorem knownEntry_stable (known : KnownEntry config before purpose entry deadline) :
    KnownEntry config after purpose entry deadline where
  purpose := knownPurpose_stable keeps known.purpose
  expiresAt := known.expiresAt.trans keeps.expiresAt.symm
  deadline active cacheDeadline given :=
    le_trans (known.deadline active cacheDeadline given) keeps.limit

theorem knownExpiration_stable {expiration : SessionExpiration}
    (known : KnownExpiration config before entry expiration) :
    KnownExpiration config after entry expiration := by
  cases expiration with
  | pexpireat =>
    obtain ⟨active,withinLimit,beforeExpiry⟩ := known
    exact ⟨active,le_trans withinLimit (unixMilli_mono keeps.limit),keeps.expiresAt ▸ beforeExpiry⟩
  | pexpire =>
    exact ⟨known.1,keeps.expiresAt ▸ known.2.mono keeps.clock⟩

end

theorem knownSession_stable (process : Nat) {before after : SessionShared} {call : UserSessionCall}
    (keeps : KeepsSession config process before after)
    (known : KnownSession config process before call) : KnownSession config process after call := by
  have expiresAt := keeps.expiresAt.symm
  have deadlines : config.cacheDeadline before.clock ≤ config.cacheDeadline after.clock :=
    cacheDeadline_mono keeps.clock
  cases call with
  | looking late | missed late => exact fun isLate => keeps.tombstone (known isLate)
  | captured =>
    exact ⟨fun isLate => keeps.tombstone (known.1 isLate),le_trans known.2 deadlines⟩
  | loaded =>
    refine ⟨known.1.trans expiresAt,fun active => ?_⟩
    exact ⟨(known.2 active).1,le_trans (known.2 active).2 keeps.limit⟩
  | planning => exact knownEntry_stable keeps known
  | scripting =>
    exact ⟨knownEntry_stable keeps known.1,knownExpiration_stable keeps known.2⟩
  | completing purpose entry deadline | confirming purpose entry =>
    exact knownPurpose_stable keeps known
  | rotationCaptured refresh rounds deadline
  | advancing => exact le_trans known deadlines
  | swapping refresh rounds deadline session
  | advanceRead =>
    exact ⟨known.1.trans expiresAt,le_trans known.2 keeps.limit⟩
  | reusing refresh session | revokeFenced candidate now reason | revokeRead candidate now reason =>
    exact known.trans expiresAt
  | answered => exact known
  | _ => trivial

end

section

variable {config : SessionConfig} {shared : SessionShared} {entry : UserSession}
  {expiration : SessionExpiration}

theorem plan_known {purpose : WritePurpose}
    (known : KnownEntry config shared purpose entry deadline)
    (planned : planUserSessionCache config.ttlSeconds shared.clock entry deadline = .ok expiration) :
    KnownExpiration config shared entry expiration := by
  by_cases active : entry.status = .active
  · obtain ⟨cacheDeadline,milliseconds,given,rfl,beforeDeadline,beforeExpiry⟩ :=
      plan_active active planned
    have withinLimit := known.deadline active cacheDeadline given
    exact ⟨active,le_trans beforeDeadline (unixMilli_mono withinLimit),
      known.expiresAt ▸ beforeExpiry⟩
  · obtain ⟨milliseconds,rfl,outlasts⟩ := plan_deny active planned
    exact ⟨active,known.expiresAt ▸ outlasts⟩

theorem script_deny {clock milliseconds : Int} {cache : Option CachedSession}
    (runs : (sessionScript clock cache entry (.pexpire milliseconds)).1 = true) :
    (sessionScript clock cache entry (.pexpire milliseconds)).2 =
      some ⟨entry, unixMilli clock + milliseconds⟩ := by
  unfold sessionScript at *
  split_ifs at *
  rfl

variable {before after : SessionShared} {call : UserSessionCall}

theorem SessionEffect.keeps (effect : SessionEffect config before call after)
    (sound : SessionGlobal config before) (process : Nat) :
    KeepsSession config process before after := by
  cases effect with
  | nothing | script | swap | advance => exact ⟨le_rfl,rfl,le_rfl,id,id⟩
  | tombstone => exact ⟨le_rfl,rfl,le_rfl,id,fun _ => rfl⟩
  | reuse | revoke => exact ⟨le_rfl,rfl,sound.limit_le,fun _ => rfl,id⟩

variable {revokedAt : Int}

/-- A script after the final tombstone leaves no active entry, and replaces a denial
only by one that lasts as long. -/
theorem Tombstoned.script (tombstoned : Tombstoned config shared revokedAt)
    (known : KnownExpiration config shared entry expiration) :
    Tombstoned config
      (shared.withCache (sessionScript shared.clock shared.cache entry expiration).2) revokedAt := by
  obtain ⟨committed,past,silent,stands⟩ := tombstoned
  fun_cases sessionScript shared.clock shared.cache entry expiration with
  | case1 | case2 => exact ⟨committed,past,silent,stands⟩
  | case3 allowed newer milliseconds =>
    obtain ⟨active,withinLimit,beforeExpiry⟩ := known
    obtain ⟨committedAt,revoked,ordered⟩ := committed
    -- A denial would have stopped the script, so the tombstone has expired.
    have ended : tombstoneEnd config.ttlSeconds shared.row.expiresAt revokedAt <
        unixMilli shared.clock := by
      by_contra early
      obtain ⟨cached,found,-⟩ := stands (not_lt.mp early)
      rw [Option.mem_def.mp found] at allowed
      exact silent cached found (by simpa [active] using allowed)
    have expired : milliseconds ≤ unixMilli shared.clock := by
      apply deadline_passed _ beforeExpiry ordered ended
      simpa [limit,SessionConfig.cacheDeadline,revoked] using withinLimit
    rw [if_pos expired]
    exact ⟨⟨committedAt,revoked,ordered⟩,past,nofun,
      fun early => absurd early (not_le.mpr ended)⟩
  | case4 =>
    refine ⟨committed,past,?_,fun early => ⟨_,rfl,tombstone_lasts known.2 past early⟩⟩
    rintro cached ⟨⟩
    exact known.1

theorem Tombstoned.written (sound : SessionGlobal config shared)
    (purpose : KnownPurpose shared entry .revokeTombstone)
    (known : KnownExpiration config shared entry expiration)
    (runs : (sessionScript shared.clock shared.cache entry expiration).1 = true) :
    Tombstoned config
      ((shared.withCache (sessionScript shared.clock shared.cache entry expiration).2).markTombstone
        .revokeTombstone) shared.clock := by
  cases expiration with
  | pexpireat => exact absurd known.1 purpose.1
  | pexpire =>
    rw [script_deny runs]
    obtain ⟨committedAt,revoked⟩ := Option.isSome_iff_exists.mp purpose.2
    refine ⟨⟨committedAt,revoked,(sound.revoked committedAt revoked).2⟩,le_rfl,?_,?_⟩
    · rintro cached ⟨⟩
      exact purpose.1
    · exact fun early => ⟨_,rfl,tombstone_lasts known.2 le_rfl early⟩

theorem Tombstoned.of_row (tombstoned : Tombstoned config shared revokedAt)
    (sameClock : after.clock = shared.clock) (sameCache : after.cache = shared.cache)
    (sameRevoked : after.revokedClock = shared.revokedClock)
    (sameExpiry : after.row.expiresAt = shared.row.expiresAt) :
    Tombstoned config after revokedAt := by
  obtain ⟨committed,past,silent,stands⟩ := tombstoned
  constructor
  · rw [sameRevoked]; exact committed
  · rw [sameClock]; exact past
  · rw [sameCache]; exact silent
  · rw [sameClock,sameCache,sameExpiry]; exact stands

theorem SessionEffect.global (effect : SessionEffect config before call after) {process : Nat}
    (sound : SessionGlobal config before) (known : KnownSession config process before call) :
    SessionGlobal config after := by
  cases effect with
  | nothing => exact sound
  | script purpose entry deadline expiration calls =>
    subst calls
    exact ⟨sound.revoked,fun revokedAt written => (sound.tombstone revokedAt written).script known.2⟩
  | tombstone entry deadline expiration calls runs =>
    subst calls
    refine ⟨sound.revoked,?_⟩
    rintro revokedAt ⟨⟩
    exact Tombstoned.written sound known.1.purpose known.2 runs
  | swap refresh rounds deadline session calls usable current
  | advance =>
    exact ⟨sound.revoked,fun revokedAt written =>
      (sound.tombstone revokedAt written).of_row rfl rfl rfl rfl⟩
  | reuse refresh session calls usable =>
    have unwritten := sound.not_tombstoned (status_of_not_inactive usable)
    refine ⟨?_,fun revokedAt written => nomatch unwritten.symm.trans written⟩
    rintro committedAt ⟨⟩
    exact ⟨nofun,le_rfl⟩
  | revoke candidate now reason calls active =>
    have unwritten := sound.not_tombstoned active
    refine ⟨?_,fun revokedAt written => nomatch unwritten.symm.trans written⟩
    rintro committedAt ⟨⟩
    exact ⟨nofun,le_rfl⟩

/-- While time passes, a denial does not expire before it may. -/
theorem surroundings_global (sound : SessionGlobal config shared) (nanoseconds : Nat)
    : SessionGlobal config (shared.surroundings nanoseconds) := by
  have later : shared.clock ≤ shared.clock + nanoseconds := by omega
  constructor
  · intro committedAt revoked
    obtain ⟨denied,ordered⟩ := sound.revoked committedAt revoked
    exact ⟨denied,le_trans ordered later⟩
  · intro revokedAt written
    obtain ⟨committed,past,silent,stands⟩ := sound.tombstone revokedAt written
    refine ⟨committed,le_trans past later,?_,?_⟩
    · intro cached found
      exact silent cached (Option.filter_eq_some_iff.mp found).1
    · intro early
      obtain ⟨cached,found,lasts⟩ := stands (le_trans (unixMilli_mono later) early)
      refine ⟨cached,Option.filter_eq_some_iff.mpr ⟨found,?_⟩,lasts⟩
      exact decide_eq_true (le_trans early lasts)

theorem surroundings_keeps (process nanoseconds : Nat) :
    KeepsSession config process shared (shared.surroundings nanoseconds) := by
  have later : shared.clock ≤ shared.clock + nanoseconds := by omega
  refine ⟨later,rfl,?_,id,id⟩
  apply cacheDeadline_mono
  cases revoked : shared.revokedClock with
  | none | some committedAt => simp [surroundings,revoked]

variable {process : Nat} {purpose : WritePurpose}

theorem confirmed_known (known : KnownPurpose shared entry purpose) :
    KnownSession config process shared (config.confirmed purpose) := by
  cases purpose with
  | fill => exact known
  | _ => trivial

theorem afterWrite_known (known : KnownPurpose shared entry purpose)
    (error : Option SessionCacheError) :
    KnownSession config process shared (config.afterWrite purpose entry error) := by
  apply config.afterWrite_rule purpose entry error trivial trivial
  · rintro refresh session rfl
    exact known
  · rintro candidate now reason rfl
    exact known
  · exact known
  · exact confirmed_known known

theorem runScript_known
    (sound : SessionGlobal config shared) (known : KnownPurpose shared entry purpose) :
    let result := shared.runScript config purpose entry deadline expiration
    KnownSession config process result.1 result.2 := by
  have keeps := (runScript_effect config shared purpose entry deadline expiration).keeps sound process
  revert keeps
  fun_cases runScript config shared purpose entry deadline expiration with
  | case1 => exact fun keeps => knownPurpose_stable keeps known
  | case2 => exact fun keeps => afterWrite_known (knownPurpose_stable keeps known) none
  | case3 => exact fun _ => afterWrite_known known _

theorem decideRotation_known (sound : SessionGlobal config shared) (refresh : Refresh)
    (rounds : Nat) {deadline : Int} (captured : deadline ≤ config.cacheDeadline shared.clock) :
    KnownSession config process shared
      (decideRotation config shared.row refresh rounds deadline) := by
  unfold decideRotation
  split
  · trivial
  · have usable := (judgeRotation_swap ‹_›).1
    exact ⟨rfl,sound.le_limit (status_of_not_inactive usable) captured⟩
  · trivial
  · split_ifs <;> trivial
  · exact ⟨rfl,rfl,by simp⟩

theorem sessionAct_known (choice : SessionChoice)
    (sound : SessionGlobal config shared) (known : KnownSession config process shared call) :
    let result := shared.act config process call choice
    KnownSession config process result.1 result.2 := by
  have keeps := (sessionAct_effect config process shared call choice).keeps sound process
  revert keeps
  fun_cases act config process shared call choice
  all_goals intro keeps
  all_goals try trivial
  -- What is left are the steps that learn something, in the order of the definition.
  · exact id
  · have usable := Bool.eq_false_iff.mpr ‹¬ inactive _ _ = true›
    exact sound.late_silent known ‹_› (status_of_not_inactive usable)
  · exact ⟨rfl,fun active => ⟨sound.late_inactive known.1 active,sound.le_limit active known.2⟩⟩
  · exact ⟨trivial,known.1,by simp⟩
  · have usable := Bool.eq_false_iff.mpr ‹¬ inactive _ _ = true›
    obtain ⟨notLate,withinLimit⟩ := known.2 (status_of_not_inactive usable)
    refine ⟨notLate,known.1,?_⟩
    rintro - cacheDeadline ⟨⟩
    exact withinLimit
  · exact afterWrite_known known.purpose _
  · exact ⟨known,plan_known known ‹_›⟩
  · exact runScript_known sound known.1.purpose
  · exact afterWrite_known known.1.purpose _
  · exact afterWrite_known (knownPurpose_stable keeps known.1.purpose) _
  · exact afterWrite_known known _
  · exact confirmed_known known
  · exact le_refl (config.cacheDeadline shared.clock)
  · exact decideRotation_known sound _ _ known
  · refine ⟨trivial,known.1,?_⟩
    rintro - cacheDeadline ⟨⟩
    exact known.2
  · exact ⟨trivial,known,by simp⟩
  · exact le_refl (config.cacheDeadline shared.clock)
  · have allowed := ‹¬ (_ || _) = true›
    simp only [Bool.or_eq_true,decide_eq_true_eq,not_or,not_not] at allowed
    exact ⟨rfl,sound.le_limit allowed.1.1.1 known⟩
  · refine ⟨trivial,known.1,?_⟩
    rintro - cacheDeadline ⟨⟩
    exact known.2
  · exact ⟨rfl,rfl,by simp⟩
  · exact ⟨⟨by rintro ⟨⟩,rfl⟩,known,by simp⟩

end

/-- No call that has started after the final tombstone was answered with an active
session. -/
def NoLateAnswer (system : SessionSystem) : Prop :=
  ∀ process, system.locals process ≠ .answered true

abbrev SessionsSound (config : SessionConfig) : SessionSystem → Prop :=
  Sound (SessionGlobal config) (KnownSession config)

theorem sessionsSound_step (config : SessionConfig) (system : SessionSystem) (event : SessionEvent)
    (sound : SessionsSound config system) : SessionsSound config (sessionStep config system event) := by
  apply sound_step (fun _ _ => True) (KeepsSession config) knownSession_stable _ _ system event sound
    trivial
  · intro system process choice sound _
    have known := sound.locals process
    have effect := sessionAct_effect config process system.shared (system.locals process) choice
    exact ⟨effect.global sound.shared known,sessionAct_known choice sound.shared known,
      fun other _ => effect.keeps sound.shared other⟩
  · intro system nanoseconds sound _
    exact ⟨surroundings_global sound.shared nanoseconds,
      fun process => surroundings_keeps process nanoseconds⟩

theorem sessionsSound_start (config : SessionConfig) (clock : Int) (session : UserSession) :
    SessionsSound config (SessionSystem.start config clock session) := by
  refine ⟨⟨nofun,nofun⟩,fun process => ?_⟩
  by_cases creator : process = 0
  · subst creator
    refine ⟨trivial,rfl,?_⟩
    rintro - cacheDeadline ⟨⟩
    exact le_refl (config.cacheDeadline clock)
  · simp only [SessionSystem.start,Function.update_of_ne creator]
    trivial

theorem revoked_session_stays_revoked (config : SessionConfig) (clock : Int) (session : UserSession)
    (events : List SessionEvent) :
    Always (sessionStep config) NoLateAnswer (SessionSystem.start config clock session) events := by
  refine always_of_guarded (SessionsSound config) ?_ ?_ (sessionsSound_start config clock session)
    (guarded_true _ events)
  · intro system sound process answered
    have known := sound.locals process
    rw [answered] at known
    exact nomatch known
  · intro system event sound _
    exact sessionsSound_step config system event sound

-- A fill that was delayed past the tombstone is confirmed against the row, and a call
-- that starts then is turned away.
example :
    let config : SessionConfig := ⟨60, 30, id, fun secret => secret ++ "+"⟩
    let session : UserSession := ⟨1, 1, .active, "s", "", 0, 0, 1000, 0, ""⟩
    let reads : List SessionEvent := [.act 1 .get, .act 1 .next, .act 1 .next, .act 1 .next]
    let revokes : List SessionEvent := .act 2 (.revoke "logout") :: List.replicate 7 (.act 2 .next)
    let resumes : List SessionEvent := .change 61000000000 :: List.replicate 3 (.act 1 .next)
    let late : List SessionEvent := .act 3 .get :: List.replicate 6 (.act 3 .next)
    let final := run (sessionStep config) (SessionSystem.start config 0 session)
      (reads ++ revokes ++ resumes ++ late)
    final.shared.tombstone = some 0 ∧ final.locals 1 = .refused ∧ final.locals 2 = .done ∧
      final.locals 3 = .refused := by
  decide +kernel

end NewApi
