import Mathlib.Algebra.Order.Ring.Int

/-! # The cached user and its authentication fence -/

namespace NewApi

/-- The fields of the hash that are written as a whole or one at a time. -/
inductive UserField where
  | group
  | email
  | status
  | role
  | username
  | setting
deriving DecidableEq, Repr

/-- The user row as far as the hash holds it. The quota has scripts of its own. -/
structure AuthUser where
  authVersion : Int
  fields : UserField → String

def AuthUser.setField (user : AuthUser) (field : UserField) (value : String) : AuthUser :=
  { user with fields := Function.update user.fields field value }

structure CachedUser where
  user : AuthUser
  expiresAt : Nat

structure AuthFence where
  version : Int
  expiresAt : Nat
deriving DecidableEq, Repr

structure AuthCache where
  hash : Option CachedUser
  fence : Option AuthFence
  committed : Option Int

def userCacheTTLSeconds (redisKeyCacheSeconds : Int) : Nat :=
  if redisKeyCacheSeconds ≤ 0 then 60 else redisKeyCacheSeconds.toNat

def userAuthFenceTTLSeconds (redisKeyCacheSeconds : Int) : Nat :=
  userCacheTTLSeconds redisKeyCacheSeconds + max (userCacheTTLSeconds redisKeyCacheSeconds) 60

/-- The answer of a cache write: stale snapshots are turned away as pending. -/
inductive CacheWrite where
  | written
  | pending
  | invalid
deriving DecidableEq, Repr

namespace AuthCache

def pending (cache : AuthCache) : Int :=
  (cache.fence.map AuthFence.version).getD 0

def committedVersion (cache : AuthCache) : Int :=
  cache.committed.getD 0

def current (cache : AuthCache) : Int :=
  (cache.hash.map (fun hash => hash.user.authVersion)).getD 0

def floor (cache : AuthCache) : Int :=
  max (max 0 cache.pending) cache.committedVersion

/-- Some key knows a newer version. -/
def Outdates (cache : AuthCache) (incoming : Int) : Prop :=
  incoming < cache.pending ∨ incoming < cache.committedVersion ∨ incoming < cache.current

instance (cache : AuthCache) (incoming : Int) : Decidable (cache.Outdates incoming) :=
  inferInstanceAs (Decidable (_ ∨ _ ∨ _))

/-- Record a committed version and drop the fence it makes obsolete. -/
def promote (cache : AuthCache) (incoming : Int) : AuthCache :=
  { cache with
    committed := if cache.committedVersion < incoming then some incoming else cache.committed
    fence := if 0 < cache.pending ∧ cache.pending ≤ incoming then none else cache.fence }

/-- The script of `writeUserCache`. A refresh without the quota writes no new hash. -/
def writeUserCache (cache : AuthCache) (user : AuthUser) (includeQuota : Bool) (expiresAt : Nat) :
    CacheWrite × AuthCache :=
  if user.authVersion ≤ 0 then (.invalid, cache)
  else if cache.Outdates user.authVersion then (.pending, cache)
  else if !includeQuota && cache.hash.isNone then (.written, cache.promote user.authVersion)
  else (.written, { cache.promote user.authVersion with hash := some ⟨user, expiresAt⟩ })

/-- The script of `SetUserAuthVersionFence`. A fence that exists always has a time to
live, so a higher one is left alone. -/
def setUserAuthVersionFence (cache : AuthCache) (incoming : Int) (expiresAt : Nat) : AuthCache :=
  if cache.pending ≤ incoming then { cache with fence := some ⟨incoming, expiresAt⟩ } else cache

def publishCommittedUserAuthVersion (cache : AuthCache) (incoming : Int) : AuthCache :=
  cache.promote incoming

def updateUserCacheFieldAtVersion (cache : AuthCache) (field : UserField) (value : String)
    (incoming : Int) : AuthCache :=
  if cache.Outdates incoming then cache
  else
    let promoted := cache.promote incoming
    match cache.hash with
    | none => promoted
    | some hash =>
      if hash.user.authVersion = incoming then
        { promoted with hash := some { hash with user := hash.user.setField field value } }
      else promoted

def expire (cache : AuthCache) (now : Nat) : AuthCache :=
  { cache with
    hash := cache.hash.filter (now < ·.expiresAt)
    fence := cache.fence.filter (now < ·.expiresAt) }

def invalidate (cache : AuthCache) : AuthCache :=
  { cache with hash := none }

/-- `cacheGetUserBase`, after its two reads. -/
def accepts (cache : AuthCache) (user : AuthUser) : Bool :=
  0 < user.authVersion && cache.floor ≤ user.authVersion

/-! ### What a script does to the versions -/

/-- The committed version only grows, and a new hash is not older than it was. -/
structure Advances (before after : AuthCache) : Prop where
  committed : before.committedVersion ≤ after.committedVersion
  hash : ∀ new, after.hash = some new →
    (∃ old, before.hash = some old ∧ old.user.authVersion = new.user.authVersion) ∨
      before.committedVersion ≤ new.user.authVersion

/-- Nothing in the cache is newer than the database, and the hash not newer than the
committed version. -/
structure Bounded (bound : Int) (cache : AuthCache) : Prop where
  committed : cache.committedVersion ≤ bound
  hash : ∀ cached, cache.hash = some cached → cached.user.authVersion ≤ cache.committedVersion

theorem Bounded.mono {first second : Int} (grows : first ≤ second) {cache : AuthCache}
    (bounded : cache.Bounded first) : cache.Bounded second :=
  ⟨bounded.committed.trans grows,bounded.hash⟩

variable (cache : AuthCache)

theorem Advances.refl : Advances cache cache :=
  ⟨le_rfl,fun new found => .inl ⟨new,found,rfl⟩⟩

theorem Advances.trans {first second third : AuthCache} (earlier : Advances first second)
    (later : Advances second third) : Advances first third := by
  refine ⟨earlier.committed.trans later.committed,fun new found => ?_⟩
  rcases later.hash new found with ⟨middle,present,same⟩ | newer
  · rcases earlier.hash middle present with ⟨old,before,equal⟩ | newer
    · exact .inl ⟨old,before,equal.trans same⟩
    · exact .inr (same ▸ newer)
  · exact .inr (earlier.committed.trans newer)

/-- The cached version never goes down, not even over an expiry. -/
theorem Advances.version_le {before after : AuthCache} (advances : Advances before after)
    {bound : Int} (bounded : before.Bounded bound) {old new : CachedUser}
    (cachedBefore : before.hash = some old) (cachedAfter : after.hash = some new) :
    old.user.authVersion ≤ new.user.authVersion := by
  rcases advances.hash new cachedAfter with ⟨same,present,equal⟩ | newer
  · rw [cachedBefore] at present
    rw [Option.some.inj present]
    exact le_of_eq equal
  · exact (bounded.hash old cachedBefore).trans newer

@[simp]
theorem promote_committedVersion (incoming : Int) :
    (cache.promote incoming).committedVersion = max cache.committedVersion incoming := by
  by_cases older : cache.committedVersion < incoming
  · rw [max_eq_right (le_of_lt older),promote,if_pos older]
    rfl
  · rw [max_eq_left (not_lt.mp older),promote,if_neg older]
    rfl

theorem promote_pending (incoming : Int) :
    (cache.promote incoming).pending = cache.pending ∨ cache.pending ≤ incoming := by
  by_cases obsolete : 0 < cache.pending ∧ cache.pending ≤ incoming
  · exact .inr obsolete.2
  · left
    unfold promote
    rw [if_neg obsolete]
    rfl

theorem floor_le_promote (incoming : Int) :
    cache.floor ≤ (cache.promote incoming).floor := by
  simp only [floor,promote_committedVersion]
  rcases promote_pending cache incoming with same | obsolete
  · rw [same]
    exact max_le_max le_rfl (le_max_left _ _)
  · apply max_le
    · apply max_le
      · exact le_max_of_le_left (le_max_left _ _)
      · exact le_max_of_le_right (obsolete.trans (le_max_right _ _))
    · exact le_max_of_le_right (le_max_left _ _)

/-- A script that writes versions up to the bound: it keeps the floor and the bound. -/
structure Runs (bound : Int) (before after : AuthCache) : Prop where
  advances : Advances before after
  floor_le : before.floor ≤ after.floor
  bounded : before.Bounded bound → after.Bounded bound

theorem Runs.refl (bound : Int) (cache : AuthCache) : Runs bound cache cache :=
  ⟨Advances.refl cache,le_rfl,id⟩

section

variable {bound incoming : Int} (cache : AuthCache)

theorem promote_runs (known : incoming ≤ bound) :
    Runs bound cache (cache.promote incoming) := by
  refine ⟨⟨?_,fun new found => .inl ⟨new,found,rfl⟩⟩,floor_le_promote cache incoming,
    fun bounded => ⟨?_,fun cached found => ?_⟩⟩
  · rw [promote_committedVersion]
    exact le_max_left _ _
  · rw [promote_committedVersion]
    exact max_le bounded.committed known
  · rw [promote_committedVersion]
    exact le_max_of_le_left (bounded.hash cached found)

theorem writeHash_runs {written : CachedUser} (known : written.user.authVersion ≤ bound)
    (upToDate : ¬ cache.Outdates written.user.authVersion) :
    Runs bound cache { cache.promote written.user.authVersion with hash := some written } := by
  have promoted := promote_runs cache known
  simp only [Outdates,not_or,not_lt] at upToDate
  refine ⟨⟨promoted.advances.committed,fun new found => .inr ?_⟩,promoted.floor_le,
    fun bounded => ⟨(promoted.bounded bounded).committed,fun cached found => ?_⟩⟩
  · rw [← Option.some.inj found]
    exact upToDate.2.1
  · rw [← Option.some.inj found]
    exact (le_max_right _ _).trans_eq (promote_committedVersion cache _).symm

theorem writeUserCache_runs {user : AuthUser} (known : user.authVersion ≤ bound)
    (includeQuota : Bool) (expiresAt : Nat) :
    Runs bound cache (cache.writeUserCache user includeQuota expiresAt).2 := by
  unfold writeUserCache
  split_ifs with invalid outdated refresh
  · exact Runs.refl bound cache
  · exact Runs.refl bound cache
  · exact promote_runs cache known
  · exact writeHash_runs cache known outdated

theorem updateField_runs (known : incoming ≤ bound) (field : UserField) (value : String) :
    Runs bound cache (cache.updateUserCacheFieldAtVersion field value incoming) := by
  unfold updateUserCacheFieldAtVersion
  split_ifs with outdated
  · exact Runs.refl bound cache
  · cases cache.hash with
    | none => exact promote_runs cache known
    | some hash =>
      dsimp only
      split_ifs with same
      · subst same
        exact writeHash_runs cache (show (hash.user.setField field value).authVersion ≤ bound
          from known) outdated
      · exact promote_runs cache known

theorem setFence_runs (incoming : Int) (expiresAt : Nat) :
    Runs bound cache (cache.setUserAuthVersionFence incoming expiresAt) := by
  unfold setUserAuthVersionFence
  split_ifs with higher
  · refine ⟨⟨le_rfl,fun new found => .inl ⟨new,found,rfl⟩⟩,?_,
      fun bounded => ⟨bounded.committed,bounded.hash⟩⟩
    exact max_le_max (max_le_max le_rfl higher) le_rfl
  · exact Runs.refl bound cache

theorem expire_advances (now : Nat) : Advances cache (cache.expire now) :=
  ⟨le_rfl,fun new found => .inl ⟨new,(Option.filter_eq_some_iff.mp found).1,rfl⟩⟩

theorem invalidate_advances : Advances cache cache.invalidate :=
  ⟨le_rfl,nofun⟩

variable {cache} in
theorem Bounded.of_hash_subset (bounded : cache.Bounded bound) {after : AuthCache}
    (committed : after.committed = cache.committed)
    (kept : ∀ cached, after.hash = some cached → cache.hash = some cached) :
    after.Bounded bound := by
  have same : after.committedVersion = cache.committedVersion := by
    simp only [committedVersion,committed]
  refine ⟨same ▸ bounded.committed,fun cached found => ?_⟩
  rw [same]
  exact bounded.hash cached (kept cached found)

/-- An expiry lowers the floor only when it takes the fence. -/
theorem floor_le_expire (now : Nat) :
    cache.floor ≤ (cache.expire now).floor ∨ cache.fence ≠ none ∧ (cache.expire now).fence = none := by
  cases fence : cache.fence with
  | none =>
    simp [floor,pending,committedVersion,expire,fence]
  | some standing =>
    by_cases alive : now < standing.expiresAt
    · left
      have kept : (cache.expire now).fence = cache.fence := by simp [expire,fence,alive]
      simp only [floor,pending,kept]
      rfl
    · right
      simpa [expire,fence] using alive

end

end AuthCache

end NewApi
