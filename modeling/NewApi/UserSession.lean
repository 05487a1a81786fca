import Mathlib.Order.MinMax

/-!
# User sessions and their cache entries

The clock counts nanoseconds, as `time.Now` does; the row counts seconds and Redis milliseconds.
-/

namespace NewApi

def unix (clock : Int) : Int :=
  clock / 1000000000

def unixMilli (clock : Int) : Int :=
  clock / 1000000

inductive UserSessionStatus where
  | active
  | revoking
  | revoked
deriving DecidableEq, Repr

structure UserSession where
  version : Int
  userAuthVersion : Int
  status : UserSessionStatus
  refreshHash : String
  previousRefreshHash : String
  previousValidUntil : Int
  lastActiveAt : Int
  expiresAt : Int
  revokedAt : Int
  revokedReason : String
deriving DecidableEq, Repr

namespace UserSession

/-- The test that every reader makes of a row or an entry. -/
def inactive (session : UserSession) (now : Int) : Bool :=
  session.status ≠ .active || session.revokedAt ≠ 0 || session.expiresAt ≤ now

def cacheEntry (session : UserSession) : UserSession :=
  { session with refreshHash := "", previousRefreshHash := "", previousValidUntil := 0 }

/-- The row or the entry of a revocation, pending or done. -/
def deny (session : UserSession) (status : UserSessionStatus) (now : Int) (reason : String) :
    UserSession :=
  { session with status, revokedAt := now, revokedReason := reason }

variable (session : UserSession)

theorem status_of_not_inactive {session : UserSession} {now : Int}
    (usable : session.inactive now = false) : session.status = .active := by
  simp only [inactive,Bool.or_eq_false_iff,decide_eq_false_iff_not,not_not] at usable
  exact usable.1.1

end UserSession

/-- The hash of a session, and the last millisecond in which it exists. -/
structure CachedSession where
  entry : UserSession
  expiresMs : Int
deriving DecidableEq, Repr

inductive SessionCacheError where
  | invalid
  | inactive
  | observationStale
  | redis
deriving DecidableEq, Repr

/-- `PEXPIREAT` for an active entry, `PEXPIRE` for a tombstone. -/
inductive SessionExpiration where
  | pexpireat (milliseconds : Int)
  | pexpire (milliseconds : Int)
deriving DecidableEq, Repr

/-- The first half of `writeUserSessionCache`, up to the script. -/
def planUserSessionCache (ttlSeconds clock : Int) (entry : UserSession) (deadline : Option Int) :
    Except SessionCacheError SessionExpiration :=
  let sessionExpiresAt := entry.expiresAt * 1000000000
  let sessionTTL := sessionExpiresAt - clock
  if entry.status = .active then
    match deadline with
    | none => .error .invalid
    | some cacheDeadline =>
      let cacheExpiresAt :=
        if sessionExpiresAt < cacheDeadline then sessionExpiresAt else cacheDeadline
      if cacheDeadline - clock ≤ 0 then .error .observationStale
      else if sessionTTL ≤ 0 then .error .inactive
      else if cacheExpiresAt - clock < 1000000 then .error .observationStale
      else .ok (.pexpireat (unixMilli cacheExpiresAt))
  else
    let shorter := min sessionTTL (ttlSeconds * 1000000000)
    let ttl := if shorter ≤ 0 then 1000000000 else shorter
    let milliseconds := ttl / 1000000
    .ok (.pexpire (if milliseconds ≤ 0 then 1 else milliseconds))

/-- The script of `writeUserSessionCache`. An expiry that has passed deletes the hash
at once. -/
def sessionScript (clock : Int) (cache : Option CachedSession) (entry : UserSession)
    (expiration : SessionExpiration) : Bool × Option CachedSession :=
  if entry.status = .active && cache.any (·.entry.status ≠ .active) then (false, cache)
  else if entry.version < (cache.map (·.entry.version)).getD 0 then (false, cache)
  else
    match expiration with
    | .pexpireat milliseconds =>
      (true, if milliseconds ≤ unixMilli clock then none else some ⟨entry, milliseconds⟩)
    | .pexpire milliseconds => (true, some ⟨entry, unixMilli clock + milliseconds⟩)

/-- The checks of `writeUserSessionCache` after the script of an active entry. -/
def completeUserSessionCache (clock : Int) (entry : UserSession) (cacheDeadline : Int) :
    Option SessionCacheError :=
  if cacheDeadline ≤ clock then some .observationStale
  else if entry.expiresAt * 1000000000 ≤ clock then some .inactive
  else none

/-- A hash exists through the millisecond of its expiry. -/
def expireSession (clock : Int) (cache : Option CachedSession) : Option CachedSession :=
  cache.filter (unixMilli clock ≤ ·.expiresMs)

section

variable {ttlSeconds clock : Int} {entry : UserSession}

theorem unixMilli_mono {earlier later : Int} (ordered : earlier ≤ later) :
    unixMilli earlier ≤ unixMilli later :=
  Int.ediv_le_ediv (by decide) ordered

variable {expiresAt : Int} {deadline : Option Int} {revokedAt milliseconds : Int}
  {expiration : SessionExpiration}

theorem plan_active (active : entry.status = .active)
    (planned : planUserSessionCache ttlSeconds clock entry deadline = .ok expiration) :
    ∃ cacheDeadline milliseconds, deadline = some cacheDeadline ∧
      expiration = .pexpireat milliseconds ∧ milliseconds ≤ unixMilli cacheDeadline ∧
      milliseconds ≤ entry.expiresAt * 1000 := by
  simp only [planUserSessionCache,active,if_true] at planned
  cases deadline with
  | none => cases planned
  | some cacheDeadline =>
    dsimp only at planned
    split_ifs at planned with late ended session close close
    · refine ⟨cacheDeadline,_,rfl,(Except.ok.inj planned).symm,?_,?_⟩
      · exact unixMilli_mono (le_of_lt session)
      · simp only [unixMilli]
        omega
    · refine ⟨cacheDeadline,_,rfl,(Except.ok.inj planned).symm,le_rfl,?_⟩
      simp only [unixMilli]
      omega

/-- A tombstone written from `clock` on outlasts the time to live, or the session. -/
def OutlastsFrom (ttlSeconds expiresAt clock milliseconds : Int) : Prop :=
  ttlSeconds * 1000 ≤ milliseconds ∨ expiresAt * 1000 - 1 ≤ unixMilli clock + milliseconds ∨
    expiresAt * 1000000000 ≤ clock

theorem OutlastsFrom.mono {later : Int}
    (outlasts : OutlastsFrom ttlSeconds expiresAt clock milliseconds) (ordered : clock ≤ later) :
    OutlastsFrom ttlSeconds expiresAt later milliseconds := by
  have grows := unixMilli_mono ordered
  unfold OutlastsFrom at *
  omega

theorem plan_deny (denied : entry.status ≠ .active)
    (planned : planUserSessionCache ttlSeconds clock entry deadline = .ok expiration) :
    ∃ milliseconds, expiration = .pexpire milliseconds ∧
      OutlastsFrom ttlSeconds entry.expiresAt clock milliseconds := by
  simp only [planUserSessionCache,denied] at planned
  refine ⟨_,(Except.ok.inj planned).symm,?_⟩
  unfold OutlastsFrom unixMilli
  split_ifs <;> omega

/-- The millisecond up to which the tombstone of a revocation at `clock` lasts. -/
def tombstoneEnd (ttlSeconds expiresAt clock : Int) : Int :=
  min (unixMilli clock + ttlSeconds * 1000) (expiresAt * 1000 - 1)

theorem tombstone_lasts (outlasts : OutlastsFrom ttlSeconds expiresAt clock milliseconds)
    (later : revokedAt ≤ clock)
    (before : unixMilli clock ≤ tombstoneEnd ttlSeconds expiresAt revokedAt) :
    tombstoneEnd ttlSeconds expiresAt revokedAt ≤ unixMilli clock + milliseconds := by
  unfold tombstoneEnd OutlastsFrom unixMilli at *
  omega

theorem deadline_passed {committedAt : Int}
    (beforeDeadline : milliseconds ≤ unixMilli (committedAt + ttlSeconds * 1000000000))
    (beforeExpiry : milliseconds ≤ expiresAt * 1000) (ordered : committedAt ≤ revokedAt)
    (ended : tombstoneEnd ttlSeconds expiresAt revokedAt < unixMilli clock) :
    milliseconds ≤ unixMilli clock := by
  unfold tombstoneEnd unixMilli at *
  omega

end

end NewApi
