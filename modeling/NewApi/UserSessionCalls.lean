import NewApi.Interleaving
import NewApi.UserAuthCache
import NewApi.UserSession

/-!
# The calls on one user session

A step is one database statement, one Redis script or one look at the clock.
-/

namespace NewApi

open GuardedRuns Interleaving

/-- The time to live of a cached session, and the two keyed digests of the refresh
secrets of one session. -/
structure SessionConfig where
  redisKeyCacheSeconds : Int
  refreshReplayWindow : Int
  hashRefreshSecret : String → String
  deriveNextRefreshSecret : String → String

namespace SessionConfig

def ttlSeconds (config : SessionConfig) : Int :=
  userCacheTTLSeconds config.redisKeyCacheSeconds

def cacheDeadline (config : SessionConfig) (clock : Int) : Int :=
  clock + config.ttlSeconds * 1000000000

def presentedHash (config : SessionConfig) (secret : String) : String :=
  config.hashRefreshSecret secret

def nextHash (config : SessionConfig) (secret : String) : String :=
  config.hashRefreshSecret (config.deriveNextRefreshSecret secret)

end SessionConfig

/-- The secret that a call presents, and the time that it was given. -/
structure Refresh where
  secret : String
  now : Int
deriving DecidableEq, Repr

inductive WritePurpose where
  | created
  | fill (late : Bool)
  /-- The tombstone of a row that a reader found inactive. -/
  | expired
  /-- The digest is the one in the row when the call had written it. -/
  | rotated (refresh : Refresh) (digest : String)
  | advanced
  | reuseFence (refresh : Refresh) (session : UserSession)
  | reuseTombstone
  | revokeFence (candidate : UserSession) (now : Int) (reason : String)
  | revokeTombstone
deriving DecidableEq, Repr

inductive UserSessionCall where
  | idle
  -- `GetUserSessionCached`; a late call has started after the final tombstone
  | looking (late : Bool)
  | missed (late : Bool)
  | captured (late : Bool) (deadline : Int)
  | loaded (late : Bool) (deadline : Int) (session : UserSession)
  -- `writeUserSessionCache` and `confirmUserSessionActiveSnapshot`
  | planning (purpose : WritePurpose) (entry : UserSession) (deadline : Option Int)
  | scripting (purpose : WritePurpose) (entry : UserSession) (deadline : Option Int)
      (expiration : SessionExpiration)
  | completing (purpose : WritePurpose) (entry : UserSession) (deadline : Int)
  | confirming (purpose : WritePurpose) (entry : UserSession)
  -- `RotateUserSessionRefresh`
  | rotating (refresh : Refresh) (rounds : Nat)
  | rotationCaptured (refresh : Refresh) (rounds : Nat) (deadline : Int)
  | swapping (refresh : Refresh) (rounds : Nat) (deadline : Int) (session : UserSession)
  | reusing (refresh : Refresh) (session : UserSession)
  -- `AdvanceUserSessionAuthVersion`
  | advancing (expectedVersion expectedAuth nextAuth : Int) (deadline now : Int)
  | advanceRead (expectedVersion expectedAuth : Int) (deadline : Int) (session : UserSession)
  -- `RevokeUserSession`
  | revoking (now : Int) (reason : String)
  | revokeFenced (candidate : UserSession) (now : Int) (reason : String)
  | revokeRead (candidate : UserSession) (now : Int) (reason : String)
  -- the answers
  | answered (late : Bool)
  | refreshed (refresh : Refresh) (token digest : String)
  | done
  | refused
deriving DecidableEq, Repr

inductive SessionChoice where
  | get
  | refresh (secret : String)
  | advanceVersion (expectedVersion expectedAuth nextAuth : Int)
  | revoke (reason : String)
  | next
  /-- The statement or the script fails. -/
  | fail
  /-- The script runs and its answer is lost. -/
  | lose
deriving DecidableEq, Repr

structure SessionShared where
  clock : Int
  row : UserSession
  cache : Option CachedSession
  /-- When the row left the active state. -/
  revokedClock : Option Int
  /-- When a `RevokeUserSession` call has written its final tombstone. -/
  tombstone : Option Int
  /-- The secrets that have been rotated, the last one first. -/
  rotations : List String
deriving DecidableEq, Repr

inductive RotationDecision where
  | inactive
  | swap
  | invalid
  | race
  | reuse
deriving DecidableEq, Repr

/-- What a round of `RotateUserSessionRefresh` makes of the row it has read. -/
def judgeRotation (presentedHash : String) (now : Int) (session : UserSession) :
    RotationDecision :=
  if session.inactive now then .inactive
  else if session.refreshHash = presentedHash then .swap
  else if session.previousRefreshHash = "" || session.previousRefreshHash ≠ presentedHash then
    .invalid
  else if now ≤ session.previousValidUntil then .race
  else .reuse

section

variable {presentedHash : String} {now : Int} {session : UserSession}

theorem judgeRotation_swap (judged : judgeRotation presentedHash now session = .swap) :
    session.inactive now = false ∧ session.refreshHash = presentedHash := by
  unfold judgeRotation at judged
  split_ifs at judged with inactive current
  exact ⟨Bool.eq_false_iff.mpr inactive,current⟩

theorem judgeRotation_race (judged : judgeRotation presentedHash now session = .race) :
    session.inactive now = false := by
  unfold judgeRotation at judged
  split_ifs at judged with inactive current unknown window
  exact Bool.eq_false_iff.mpr inactive

/-- Reuse is the digest before the current one, presented after its window. -/
theorem judgeRotation_reuse (judged : judgeRotation presentedHash now session = .reuse) :
    session.inactive now = false ∧ session.previousRefreshHash ≠ "" ∧
      session.previousRefreshHash = presentedHash ∧ session.previousValidUntil < now := by
  unfold judgeRotation at judged
  split_ifs at judged with inactive current unknown window
  simp only [Bool.or_eq_true,decide_eq_true_eq,not_or,not_not] at unknown
  exact ⟨Bool.eq_false_iff.mpr inactive,unknown.1,unknown.2,not_le.mp window⟩

end

def UserSession.rotate (session : UserSession) (presentedHash nextHash : String)
    (validUntil now : Int) : UserSession :=
  { session with
    previousRefreshHash := presentedHash
    previousValidUntil := validUntil
    refreshHash := nextHash
    lastActiveAt := now }

def UserSession.advance (session : UserSession) (version userAuthVersion now : Int) : UserSession :=
  { session with version, userAuthVersion, lastActiveAt := now }

namespace SessionConfig

variable (config : SessionConfig)

/-- The answer that follows the confirmation of a snapshot. -/
def confirmed : WritePurpose → UserSessionCall
  | .fill late => .answered late
  | .rotated refresh digest =>
    .refreshed refresh (config.deriveNextRefreshSecret refresh.secret) digest
  | _ => .done

def afterWrite (purpose : WritePurpose) (entry : UserSession) (error : Option SessionCacheError) :
    UserSessionCall :=
  match purpose, error with
  | .expired, _ => .refused
  | .reuseFence refresh session, none => .reusing refresh session
  | .reuseFence _ _, some _ => .refused
  -- `ErrUserSessionRefreshReuse`, whether or not the tombstone was written
  | .reuseTombstone, _ => .refused
  | .revokeFence candidate now reason, none => .revokeFenced candidate now reason
  | .revokeFence _ _ _, some _ => .refused
  | .revokeTombstone, _ => .done
  | .advanced, none => .done
  | .advanced, some .observationStale => .confirming .advanced entry
  | .advanced, some _ => .refused
  | purpose, some .observationStale => .confirming purpose entry
  | _, some .inactive => .refused
  -- A failed write is only logged.
  | purpose, _ => config.confirmed purpose

/-- Whatever holds of every way to go on holds after a write. -/
theorem afterWrite_rule {Property : UserSessionCall → Prop} (purpose : WritePurpose)
    (entry : UserSession) (error : Option SessionCacheError) (refused : Property .refused)
    (done : Property .done) (reusing : ∀ refresh session, purpose = .reuseFence refresh session →
      Property (.reusing refresh session))
    (fenced : ∀ candidate now reason, purpose = .revokeFence candidate now reason →
      Property (.revokeFenced candidate now reason))
    (confirming : Property (.confirming purpose entry))
    (confirmed : Property (config.confirmed purpose)) :
    Property (config.afterWrite purpose entry error) := by
  fun_cases afterWrite config purpose entry error
  all_goals first
    | exact refused
    | exact done
    | exact reusing _ _ rfl
    | exact fenced _ _ _ rfl
    | exact confirming
    | exact confirmed

end SessionConfig

namespace SessionShared

variable (config : SessionConfig)

def confirms (shared : SessionShared) (entry : UserSession) : Bool :=
  0 < entry.version && 0 < entry.userAuthVersion && !shared.row.inactive (unix shared.clock) &&
    shared.row.version = entry.version && shared.row.userAuthVersion = entry.userAuthVersion

def withCache (shared : SessionShared) (cache : Option CachedSession) : SessionShared :=
  { shared with cache }

def withRow (shared : SessionShared) (row : UserSession) : SessionShared :=
  { shared with row }

def revokeRow (shared : SessionShared) (now : Int) (reason : String) : SessionShared :=
  { shared with
    row := shared.row.deny .revoked now reason
    revokedClock := some shared.clock }

def rotateRow (shared : SessionShared) (refresh : Refresh) (read : UserSession) : SessionShared :=
  { shared with
    row := shared.row.rotate read.refreshHash (config.nextHash refresh.secret)
      (refresh.now + config.refreshReplayWindow) refresh.now
    rotations := refresh.secret :: shared.rotations }

/-- The final tombstone of a revocation has been written. -/
def markTombstone (shared : SessionShared) (purpose : WritePurpose) : SessionShared :=
  if purpose = .revokeTombstone then { shared with tombstone := some shared.clock } else shared

/-- The script and what its answer leads to. -/
def runScript (shared : SessionShared) (purpose : WritePurpose) (entry : UserSession)
    (deadline : Option Int) (expiration : SessionExpiration) : SessionShared × UserSessionCall :=
  let result := sessionScript shared.clock shared.cache entry expiration
  if result.1 then
    match deadline with
    | some cacheDeadline =>
      (shared.withCache result.2, .completing purpose entry cacheDeadline)
    | none => ((shared.withCache result.2).markTombstone purpose, config.afterWrite purpose entry none)
  else (shared, config.afterWrite purpose entry (some .inactive))

def decideRotation (session : UserSession) (refresh : Refresh) (rounds : Nat) (deadline : Int) :
    UserSessionCall :=
  match judgeRotation (config.presentedHash refresh.secret) refresh.now session with
  | .inactive => .refused
  | .swap => .swapping refresh rounds deadline session
  | .invalid => .refused
  | .race =>
    -- `RefreshLoginSession` answers a racer only with the token that is now valid.
    if config.nextHash refresh.secret = session.refreshHash then
      .refreshed refresh (config.deriveNextRefreshSecret refresh.secret) session.refreshHash
    else .refused
  | .reuse =>
    .planning (.reuseFence refresh session)
      (session.cacheEntry.deny .revoking refresh.now "refresh_reuse") none

def act (_process : Nat) (shared : SessionShared) :
    UserSessionCall → SessionChoice → SessionShared × UserSessionCall
  | .idle, .get => (shared, .looking shared.tombstone.isSome)
  | .looking late, .next =>
    match shared.cache with
    | none => (shared, .missed late)
    | some cached =>
      if cached.entry.version ≤ 0 || cached.entry.userAuthVersion ≤ 0 then (shared, .missed late)
      else if cached.entry.inactive (unix shared.clock) then (shared, .refused)
      else (shared, .answered late)
  | .looking late, .fail => (shared, .missed late)
  | .missed late, .next => (shared, .captured late (config.cacheDeadline shared.clock))
  | .captured late deadline, .next => (shared, .loaded late deadline shared.row)
  | .loaded late deadline session, .next =>
    if session.inactive (unix shared.clock) then
      (shared, .planning .expired { session.cacheEntry with status := .revoked } none)
    else (shared, .planning (.fill late) session.cacheEntry (some deadline))
  | .planning purpose entry deadline, .next =>
    match planUserSessionCache config.ttlSeconds shared.clock entry deadline with
    | .error error => (shared, config.afterWrite purpose entry (some error))
    | .ok expiration => (shared, .scripting purpose entry deadline expiration)
  | .scripting purpose entry deadline expiration, .next =>
    shared.runScript config purpose entry deadline expiration
  | .scripting purpose entry _ _, .fail =>
    (shared, config.afterWrite purpose entry (some .redis))
  | .scripting purpose entry _ expiration, .lose =>
    (shared.withCache (sessionScript shared.clock shared.cache entry expiration).2,
      config.afterWrite purpose entry (some .redis))
  | .completing purpose entry deadline, .next =>
    (shared, config.afterWrite purpose entry
      (completeUserSessionCache shared.clock entry deadline))
  | .confirming purpose entry, .next =>
    if shared.confirms entry then (shared, config.confirmed purpose) else (shared, .refused)
  | .idle, .refresh secret =>
    if config.presentedHash secret = "" || config.nextHash secret = "" ||
        config.presentedHash secret = config.nextHash secret || config.refreshReplayWindow < 0 then
      (shared, .refused)
    else (shared, .rotating ⟨secret, unix shared.clock⟩ 3)
  | .rotating _ 0, .next => (shared, .refused)
  | .rotating refresh (rounds + 1), .next =>
    (shared, .rotationCaptured refresh rounds (config.cacheDeadline shared.clock))
  | .rotationCaptured refresh rounds deadline, .next =>
    (shared, decideRotation config shared.row refresh rounds deadline)
  | .swapping refresh rounds deadline session, .next =>
    if !shared.row.inactive refresh.now &&
        shared.row.refreshHash = config.presentedHash refresh.secret then
      let written := shared.rotateRow config refresh session
      (written, .planning (.rotated refresh written.row.refreshHash)
        (session.rotate session.refreshHash (config.nextHash refresh.secret)
          (refresh.now + config.refreshReplayWindow) refresh.now).cacheEntry (some deadline))
    else (shared, .rotating refresh rounds)
  | .reusing refresh session, .next =>
    if shared.row.inactive refresh.now then (shared, .refused)
    else
      (shared.revokeRow refresh.now "refresh_reuse",
        .planning .reuseTombstone (session.cacheEntry.deny .revoked refresh.now "refresh_reuse") none)
  | .idle, .advanceVersion expectedVersion expectedAuth nextAuth =>
    if expectedVersion ≤ 0 || expectedAuth ≤ 0 || nextAuth ≤ expectedAuth then (shared, .refused)
    else (shared, .advancing expectedVersion expectedAuth nextAuth
      (config.cacheDeadline shared.clock) (unix shared.clock))
  | .advancing expectedVersion expectedAuth nextAuth deadline now, .next =>
    if shared.row.status ≠ .active || shared.row.expiresAt ≤ now ||
        shared.row.version ≠ expectedVersion || shared.row.userAuthVersion ≠ expectedAuth then
      (shared, .refused)
    else (shared, .advanceRead expectedVersion expectedAuth deadline
      (shared.row.advance (expectedVersion + 1) nextAuth now))
  | .advanceRead expectedVersion expectedAuth deadline session, .next =>
    if shared.row.status = .active && shared.row.version = expectedVersion &&
        shared.row.userAuthVersion = expectedAuth then
      (shared.withRow (shared.row.advance session.version session.userAuthVersion
        session.lastActiveAt), .planning .advanced session.cacheEntry (some deadline))
    else (shared, .refused)
  | .idle, .revoke reason => (shared, .revoking (unix shared.clock) reason)
  | .revoking now reason, .next =>
    if shared.row.inactive now then (shared, .refused)
    else (shared, .planning (.revokeFence shared.row now reason)
      (shared.row.cacheEntry.deny .revoking now reason) none)
  | .revokeFenced candidate now reason, .next =>
    if shared.row.inactive now then (shared, .refused)
    else (shared, .revokeRead candidate now reason)
  | .revokeRead candidate now reason, .next =>
    if shared.row.status = .active then
      (shared.revokeRow now reason,
        .planning .revokeTombstone (candidate.cacheEntry.deny .revoked now reason) none)
    else (shared, .refused)
  -- An error of the database ends the call.
  | .captured _ _, .fail => (shared, .refused)
  | .confirming _ _, .fail => (shared, .refused)
  | .rotationCaptured _ _ _, .fail => (shared, .refused)
  | .swapping _ _ _ _, .fail => (shared, .refused)
  | .reusing _ _, .fail => (shared, .refused)
  | .advancing _ _ _ _ _, .fail => (shared, .refused)
  | .advanceRead _ _ _ _, .fail => (shared, .refused)
  | .revoking _ _, .fail => (shared, .refused)
  | .revokeFenced _ _ _, .fail => (shared, .refused)
  | .revokeRead _ _ _, .fail => (shared, .refused)
  | call, _ => (shared, call)

def surroundings (shared : SessionShared) (nanoseconds : Nat) : SessionShared :=
  { shared with
    clock := shared.clock + nanoseconds
    cache := expireSession (shared.clock + nanoseconds) shared.cache }

end SessionShared

abbrev SessionSystem := System SessionShared UserSessionCall

abbrev SessionEvent := Event SessionChoice Nat

def sessionStep (config : SessionConfig) : SessionSystem → SessionEvent → SessionSystem :=
  step (SessionShared.act config) SessionShared.surroundings

section

variable (config : SessionConfig)

/-- What a statement does to the row and the key. -/
inductive SessionEffect (shared : SessionShared) (call : UserSessionCall) : SessionShared → Prop
  | nothing : SessionEffect shared call shared
  | script (purpose : WritePurpose) (entry : UserSession) (deadline : Option Int)
    (expiration : SessionExpiration) (calls : call = .scripting purpose entry deadline expiration) :
    SessionEffect shared call
      (shared.withCache (sessionScript shared.clock shared.cache entry expiration).2)
  | tombstone (entry : UserSession) (deadline : Option Int) (expiration : SessionExpiration)
    (calls : call = .scripting .revokeTombstone entry deadline expiration)
    (runs : (sessionScript shared.clock shared.cache entry expiration).1 = true) :
    SessionEffect shared call
      ((shared.withCache (sessionScript shared.clock shared.cache entry expiration).2).markTombstone
        .revokeTombstone)
  | swap (refresh : Refresh) (rounds : Nat) (deadline : Int) (session : UserSession)
    (calls : call = .swapping refresh rounds deadline session)
    (usable : shared.row.inactive refresh.now = false)
    (current : shared.row.refreshHash = config.presentedHash refresh.secret) :
    SessionEffect shared call (shared.rotateRow config refresh session)
  | reuse (refresh : Refresh) (session : UserSession) (calls : call = .reusing refresh session)
    (usable : shared.row.inactive refresh.now = false) :
    SessionEffect shared call (shared.revokeRow refresh.now "refresh_reuse")
  | advance (expectedVersion expectedAuth deadline : Int) (session : UserSession)
    (calls : call = .advanceRead expectedVersion expectedAuth deadline session)
    (active : shared.row.status = .active) :
    SessionEffect shared call (shared.withRow (shared.row.advance session.version
      session.userAuthVersion session.lastActiveAt))
  | revoke (candidate : UserSession) (now : Int) (reason : String)
    (calls : call = .revokeRead candidate now reason) (active : shared.row.status = .active) :
    SessionEffect shared call (shared.revokeRow now reason)

theorem runScript_effect (shared : SessionShared) (purpose : WritePurpose) (entry : UserSession)
    (deadline : Option Int) (expiration : SessionExpiration) :
    SessionEffect config shared (.scripting purpose entry deadline expiration)
      (shared.runScript config purpose entry deadline expiration).1 := by
  fun_cases SessionShared.runScript config shared purpose entry deadline expiration with
  | case1 => exact .script _ _ _ _ rfl
  | case2 result runs =>
    by_cases final : purpose = .revokeTombstone
    · subst final
      exact .tombstone _ _ _ rfl runs
    · simp only [SessionShared.markTombstone,if_neg final]
      exact .script _ _ _ _ rfl
  | case3 => exact .nothing

theorem sessionAct_effect (process : Nat) (shared : SessionShared) (call : UserSessionCall)
    (choice : SessionChoice) :
    SessionEffect config shared call (shared.act config process call choice).1 := by
  fun_cases SessionShared.act config process shared call choice
  all_goals try exact .nothing
  -- What is left are the scripts and the updates, in the order of the definition.
  · exact runScript_effect config _ _ _ _ _
  · exact .script _ _ _ _ rfl
  · have swaps := ‹(!_ && _) = true›
    simp only [Bool.and_eq_true,Bool.not_eq_true',decide_eq_true_eq] at swaps
    exact .swap _ _ _ _ rfl swaps.1 swaps.2
  · exact .reuse _ _ rfl (by simpa using ‹¬ shared.row.inactive _ = true›)
  · have matches_ := ‹(_ && _ && _) = true›
    simp only [Bool.and_eq_true,decide_eq_true_eq] at matches_
    exact .advance _ _ _ _ rfl matches_.1.1
  · exact .revoke _ _ _ rfl ‹shared.row.status = .active›

end

/-- `CreateUserSession` has inserted the row, and its process is about to fill the
cache. -/
def SessionSystem.start (config : SessionConfig) (clock : Int) (session : UserSession) :
    SessionSystem where
  shared :=
    { clock, row := session, cache := none, revokedClock := none, tombstone := none
      rotations := [] }
  locals := Function.update (fun _ => .idle) 0
    (.planning .created session.cacheEntry (some (config.cacheDeadline clock)))

end NewApi
