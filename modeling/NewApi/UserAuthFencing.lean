import NewApi.Interleaving
import NewApi.UserAuthCache

/-! # Restrictive transactions against delayed cache fills -/

namespace NewApi

open GuardedRuns Interleaving

structure AuthShared where
  now : Nat
  user : AuthUser
  /-- The version of the last restrictive transaction that has committed. -/
  restricted : Int
  /-- The transaction that has updated the row and not ended yet. -/
  holder : Option Nat
  cache : AuthCache

inductive AuthCall where
  | idle
  -- `IncrementUserAuthVersionWithTx` and the end of its transaction
  | selecting (rounds : Nat)
  | locked (read : Int) (rounds : Nat)
  | fenced (read : Int) (rounds : Nat)
  | updated (next : Int)
  | committed (own : AuthUser)
  | publishing (snapshot : AuthUser)
  -- `GetUserCache`
  | looking (since : Int)
  | found (user : AuthUser) (since : Int)
  | missed
  | read (user : AuthUser)
  | checked (user : AuthUser)
  | hit (user : AuthUser) (since : Int)
  | served (user : AuthUser)
  | blocked
  -- `updateUserCacheField`
  | fielding (version : Int) (field : UserField) (value : String)
  | done

inductive AuthChoice where
  | restrict
  | get
  | setField (field : UserField) (value : String)
  | advance
  | commit (fields : UserField → String)
  | rollback
  /-- `updateUserCache` with the row that the transaction has read back. -/
  | publishOwn
  /-- `publishCommittedUserAuthVersion`, after a deletion. -/
  | publishCommitted

inductive AuthChange where
  | tick (seconds : Nat)
  | invalidate
  /-- A change of the row that leaves the version alone. -/
  | edit (fields : UserField → String)

def nextAuthVersion (read : Int) : Int :=
  max read 1 + 1

namespace AuthShared

variable (redisKeyCacheSeconds : Int)

def withCache (shared : AuthShared) (cache : AuthCache) : AuthShared :=
  { shared with cache }

def writeUserCache (shared : AuthShared) (user : AuthUser) (includeQuota : Bool) :
    CacheWrite × AuthCache :=
  shared.cache.writeUserCache user includeQuota
    (shared.now + userCacheTTLSeconds redisKeyCacheSeconds)

def act (process : Nat) (shared : AuthShared) : AuthCall → AuthChoice → AuthShared × AuthCall
  | .idle, .restrict => (shared, .selecting 3)
  -- The loop gives up with a version conflict and the transaction rolls back.
  | .selecting 0, .advance => (shared, .done)
  | .selecting (rounds + 1), .advance => (shared, .locked shared.user.authVersion rounds)
  | .locked read rounds, .advance =>
    (shared.withCache (shared.cache.setUserAuthVersionFence (nextAuthVersion read)
      (shared.now + userAuthFenceTTLSeconds redisKeyCacheSeconds)), .fenced read rounds)
  | .fenced read rounds, .advance =>
    -- The update waits for a transaction that has already updated the row.
    if shared.holder.isSome then (shared, .fenced read rounds)
    else if shared.user.authVersion = read then
      ({ shared with holder := some process }, .updated (nextAuthVersion read))
    else (shared, .selecting rounds)
  | .updated next, .commit fields =>
    ({ shared with user := ⟨next, fields⟩, restricted := next, holder := none },
      .committed ⟨next, fields⟩)
  | .updated _, .rollback => ({ shared with holder := none }, .done)
  | .selecting _, .rollback => (shared, .done)
  | .locked _ _, .rollback => (shared, .done)
  | .fenced _ _, .rollback => (shared, .done)
  | .committed _, .advance => (shared, .publishing shared.user)
  | .committed own, .publishOwn =>
    (shared.withCache (shared.writeUserCache redisKeyCacheSeconds own false).2, .done)
  | .committed own, .publishCommitted =>
    (shared.withCache (shared.cache.publishCommittedUserAuthVersion own.authVersion), .done)
  | .publishing snapshot, .advance =>
    (shared.withCache (shared.writeUserCache redisKeyCacheSeconds snapshot false).2, .done)
  | .idle, .get => (shared, .looking shared.restricted)
  | .looking since, .advance =>
    match shared.cache.hash with
    | none => (shared, .missed)
    | some hash => (shared, .found hash.user since)
  | .found user since, .advance =>
    if shared.cache.accepts user then (shared, .hit user since) else (shared, .missed)
  | .missed, .advance => (shared, .read shared.user)
  | .read user, .advance =>
    if user.authVersion < shared.cache.floor then (shared, .blocked) else (shared, .checked user)
  | .checked user, .advance =>
    let written := shared.writeUserCache redisKeyCacheSeconds user true
    (shared.withCache written.2, if written.1 = .pending then .blocked else .served user)
  | .idle, .setField field value => (shared, .fielding shared.user.authVersion field value)
  | .fielding version field value, .advance =>
    (shared.withCache (shared.cache.updateUserCacheFieldAtVersion field value version), .done)
  | call, _ => (shared, call)

def surroundings (shared : AuthShared) : AuthChange → AuthShared
  | .tick seconds =>
    { shared with now := shared.now + seconds, cache := shared.cache.expire (shared.now + seconds) }
  | .invalidate => shared.withCache shared.cache.invalidate
  | .edit fields => { shared with user := { shared.user with fields } }

/-- `GetUserCache` without anything in between; nothing is the pending error. -/
def getUserCache (shared : AuthShared) : Option AuthUser :=
  match (shared.cache.hash.map CachedUser.user).filter shared.cache.accepts with
  | some user => some user
  | none =>
    if shared.user.authVersion < shared.cache.floor then none
    else if (shared.writeUserCache redisKeyCacheSeconds shared.user true).1 = .pending then none
    else some shared.user

end AuthShared

abbrev AuthSystem := System AuthShared AuthCall

abbrev AuthEvent := Event AuthChoice AuthChange

def authStep (redisKeyCacheSeconds : Int) : AuthSystem → AuthEvent → AuthSystem :=
  step (AuthShared.act redisKeyCacheSeconds) AuthShared.surroundings

def AuthSystem.start (user : AuthUser) : AuthSystem where
  shared := { now := 0, user, restricted := 0, holder := none, cache := ⟨none, none, none⟩ }
  locals := fun _ => .idle

/-- A hit is at least as new as every transaction committed before the call. -/
def NoStaleHit (system : AuthSystem) : Prop :=
  ∀ process user since, system.locals process = .hit user since → since ≤ user.authVersion

/-- Without a fence the cache stands in nobody's way. -/
def Unblocked (redisKeyCacheSeconds : Int) (system : AuthSystem) : Prop :=
  system.shared.cache.fence = none →
    (system.shared.getUserCache redisKeyCacheSeconds).isSome

/-- A transaction commits under its fence, and when a fence expires the committed
version has reached the last committed transaction. -/
def FencesStand (system : AuthSystem) : AuthEvent → Prop
  | .act process (.commit _) =>
    ∀ next, system.locals process = .updated next → next ≤ system.shared.cache.floor
  | .change (.tick seconds) =>
    system.shared.cache.fence ≠ none →
      (system.shared.cache.expire (system.shared.now + seconds)).fence = none →
        system.shared.restricted ≤ system.shared.cache.committedVersion
  | _ => True

section

/-- What a statement does to the row and the keys. -/
inductive StatementEffect (process : Nat) (shared : AuthShared) (call : AuthCall)
    (choice : AuthChoice) : AuthShared → Prop
  | nothing : StatementEffect process shared call choice shared
  | script (cache : AuthCache) (runs : AuthCache.Runs shared.user.authVersion shared.cache cache) :
    StatementEffect process shared call choice (shared.withCache cache)
  | hold (free : shared.holder = none) :
    StatementEffect process shared call choice { shared with holder := some process }
  | release (next : Int) (holds : call = .updated next) :
    StatementEffect process shared call choice { shared with holder := none }
  | commit (next : Int) (fields : UserField → String) (holds : call = .updated next)
    (chosen : choice = .commit fields) :
    StatementEffect process shared call choice
      { shared with user := ⟨next, fields⟩, restricted := next, holder := none }

/-- Versions read from the database are behind it, and an update in progress is one
ahead of it. -/
def KnownVersions (process : Nat) (shared : AuthShared) : AuthCall → Prop
  | .updated next => shared.holder = some process ∧ shared.user.authVersion < next
  | .committed user | .publishing user | .read user | .checked user =>
    user.authVersion ≤ shared.user.authVersion
  | .fielding version _ _ => version ≤ shared.user.authVersion
  | _ => True

variable (redisKeyCacheSeconds : Int) {process : Nat} {shared : AuthShared} {call : AuthCall}
  (choice : AuthChoice)

theorem act_effect (known : KnownVersions process shared call) :
    StatementEffect process shared call choice
      (shared.act redisKeyCacheSeconds process call choice).1 := by
  fun_cases AuthShared.act redisKeyCacheSeconds process shared call choice
  all_goals try exact .nothing
  -- What is left are the scripts and the statements of a transaction, in the order
  -- of the definition.
  · exact .script _ (AuthCache.setFence_runs _ _ _)
  · exact .hold (by simpa using ‹¬ shared.holder.isSome = true›)
  · exact .commit _ _ rfl rfl
  · exact .release _ rfl
  · exact .script _ (AuthCache.writeUserCache_runs _ known _ _)
  · exact .script _ (AuthCache.promote_runs _ known)
  · exact .script _ (AuthCache.writeUserCache_runs _ known _ _)
  · exact .script _ (AuthCache.writeUserCache_runs _ known _ _)
  · exact .script _ (AuthCache.updateField_runs _ known _ _)

theorem read_lt_nextAuthVersion (read : Int) : read < nextAuthVersion read := by
  unfold nextAuthVersion
  omega

theorem act_known (known : KnownVersions process shared call) :
    let result := shared.act redisKeyCacheSeconds process call choice
    KnownVersions process result.1 result.2 := by
  fun_cases AuthShared.act redisKeyCacheSeconds process shared call choice
  all_goals try trivial
  all_goals try exact le_refl shared.user.authVersion
  · exact ⟨rfl,read_lt_nextAuthVersion _⟩
  · exact le_refl _
  · split_ifs <;> trivial

end

/-- The database is ahead of everything that has been read from it. -/
structure Versioned (shared : AuthShared) : Prop where
  positive : 1 ≤ shared.user.authVersion
  bounded : shared.cache.Bounded shared.user.authVersion
  restricted : shared.restricted ≤ shared.user.authVersion

/-- Others raise the version, but not under the holder of the row. -/
structure KeepsVersions (process : Nat) (before after : AuthShared) : Prop where
  grows : before.user.authVersion ≤ after.user.authVersion
  holder : before.holder = some process →
    after.holder = some process ∧ after.user.authVersion = before.user.authVersion

section

theorem knownVersions_stable (process : Nat) {before after : AuthShared} {call : AuthCall}
    (keeps : KeepsVersions process before after) (known : KnownVersions process before call) :
    KnownVersions process after call := by
  cases call with
  | updated =>
    obtain ⟨stillHeld,same⟩ := keeps.holder known.1
    exact ⟨stillHeld,same ▸ known.2⟩
  | committed user | publishing user | read user | checked user | fielding version field value =>
    exact le_trans known keeps.grows
  | _ => trivial

variable {process : Nat} {before after shared : AuthShared} {call : AuthCall} {choice : AuthChoice}

theorem StatementEffect.versioned (effect : StatementEffect process before call choice after)
    (versioned : Versioned before) (known : KnownVersions process before call) :
    Versioned after := by
  cases effect with
  | nothing => exact versioned
  | script cache runs =>
    exact ⟨versioned.positive,runs.bounded versioned.bounded,versioned.restricted⟩
  | hold free | release next holds =>
    exact { versioned with }
  | commit next fields holds =>
    subst holds
    have newer : before.user.authVersion ≤ next := le_of_lt known.2
    exact ⟨versioned.positive.trans newer,versioned.bounded.mono newer,le_rfl⟩

theorem StatementEffect.keepsVersions (effect : StatementEffect process before call choice after)
    (known : KnownVersions process before call) {other : Nat} (different : other ≠ process) :
    KeepsVersions other before after := by
  -- The row is held by this process, or by nobody that a statement takes it from.
  have notHeld (own : before.holder = some process) (held : before.holder = some other) : False :=
    different (Option.some.inj (held.symm.trans own))
  cases effect with
  | nothing | script cache runs => exact ⟨le_rfl,fun held => ⟨held,rfl⟩⟩
  | hold free => exact ⟨le_rfl,fun held => nomatch free.symm.trans held⟩
  | release next holds =>
    subst holds
    exact ⟨le_rfl,fun held => (notHeld known.1 held).elim⟩
  | commit next fields holds =>
    subst holds
    exact ⟨le_of_lt known.2,fun held => (notHeld known.1 held).elim⟩

theorem surroundings_versioned (versioned : Versioned shared) (change : AuthChange) :
    Versioned (shared.surroundings change) ∧
      ∀ process, KeepsVersions process shared (shared.surroundings change) := by
  constructor
  · cases change with
    | tick =>
      exact
        { versioned with
          bounded := versioned.bounded.of_hash_subset rfl fun _ found =>
            (Option.filter_eq_some_iff.mp found).1 }
    | invalidate => exact { versioned with bounded := versioned.bounded.of_hash_subset rfl nofun }
    | edit => exact { versioned with }
  · intro process
    cases change <;> exact ⟨le_rfl,fun held => ⟨held,rfl⟩⟩

abbrev VersionsSound : AuthSystem → Prop :=
  Sound Versioned KnownVersions

theorem versionsSound_step (redisKeyCacheSeconds : Int) (system : AuthSystem) (event : AuthEvent)
    (sound : VersionsSound system) : VersionsSound (authStep redisKeyCacheSeconds system event) := by
  apply sound_step (fun _ _ => True) KeepsVersions knownVersions_stable _ _ system event sound trivial
  · intro system process choice sound _
    have known := sound.locals process
    have effect := act_effect redisKeyCacheSeconds choice known
    exact ⟨effect.versioned sound.shared known,act_known redisKeyCacheSeconds choice known,
      fun other different => effect.keepsVersions known different⟩
  · intro system change sound _
    exact surroundings_versioned sound.shared change

theorem versionsSound_start {user : AuthUser} (initialized : 1 ≤ user.authVersion) :
    VersionsSound (AuthSystem.start user) := by
  have nonneg : 0 ≤ user.authVersion := le_trans (by decide) initialized
  exact ⟨⟨initialized,⟨nonneg,nofun⟩,nonneg⟩,fun _ => trivial⟩

/-- The floor has reached every committed transaction. -/
structure Fenced (shared : AuthShared) : Prop extends Versioned shared where
  floor : shared.restricted ≤ shared.cache.floor

/-- A lookup has started after the transactions it must not miss. -/
def KnownSince (shared : AuthShared) : AuthCall → Prop
  | .looking since | .found _ since => since ≤ shared.restricted
  | .hit user since => since ≤ user.authVersion
  | _ => True

def KnownHits (process : Nat) (shared : AuthShared) (call : AuthCall) : Prop :=
  KnownVersions process shared call ∧ KnownSince shared call

structure KeepsHits (process : Nat) (before after : AuthShared) : Prop extends
    KeepsVersions process before after where
  restricted : before.restricted ≤ after.restricted

theorem knownHits_stable (process : Nat) {before after : AuthShared} {call : AuthCall}
    (keeps : KeepsHits process before after) (known : KnownHits process before call) :
    KnownHits process after call := by
  refine ⟨knownVersions_stable process keeps.toKeepsVersions known.1,?_⟩
  have since := known.2
  cases call with
  | looking | found => exact le_trans since keeps.restricted
  | hit => exact since
  | _ => trivial

theorem act_since (redisKeyCacheSeconds : Int) (choice : AuthChoice)
    (floor : shared.restricted ≤ shared.cache.floor) (known : KnownSince shared call) :
    let result := shared.act redisKeyCacheSeconds process call choice
    KnownSince result.1 result.2 := by
  fun_cases AuthShared.act redisKeyCacheSeconds process shared call choice
  all_goals try trivial
  · exact le_refl shared.restricted
  · have accepted := ‹shared.cache.accepts _ = true›
    simp only [AuthCache.accepts,Bool.and_eq_true,decide_eq_true_eq] at accepted
    exact le_trans known (le_trans floor accepted.2)
  · split_ifs <;> trivial

theorem StatementEffect.restricted_le (effect : StatementEffect process before call choice after)
    (versioned : Versioned before) (known : KnownVersions process before call) :
    before.restricted ≤ after.restricted := by
  cases effect with
  | commit next fields holds =>
    subst holds
    exact le_trans versioned.restricted (le_of_lt known.2)
  | _ => exact le_refl before.restricted

theorem StatementEffect.floor_le (effect : StatementEffect process before call choice after)
    (floor : before.restricted ≤ before.cache.floor)
    (commits : ∀ next fields, call = .updated next → choice = .commit fields →
      next ≤ before.cache.floor) :
    after.restricted ≤ after.cache.floor := by
  cases effect with
  | script cache runs => exact le_trans floor runs.floor_le
  | commit next fields holds chosen => exact commits next fields holds chosen
  | _ => exact floor

theorem surroundings_fenced {system : AuthSystem} (fenced : Fenced system.shared)
    {change : AuthChange} (stands : FencesStand system (.change change)) :
    Fenced (system.shared.surroundings change) ∧
      ∀ process, KeepsHits process system.shared (system.shared.surroundings change) := by
  obtain ⟨versioned,keeps⟩ := surroundings_versioned fenced.toVersioned change
  have restricted : system.shared.restricted = (system.shared.surroundings change).restricted := by
    cases change <;> rfl
  refine ⟨⟨versioned,?_⟩,fun process => ⟨keeps process,le_of_eq restricted⟩⟩
  cases change with
  | tick seconds =>
    rcases system.shared.cache.floor_le_expire (system.shared.now + seconds) with
      kept | ⟨standing,gone⟩
    · exact le_trans fenced.floor kept
    · -- The fence is gone, so the committed version has to carry the floor.
      have reached := stands standing gone
      exact le_trans reached (le_max_right _ _)
  | invalidate | edit fields => exact fenced.floor

abbrev HitsSound : AuthSystem → Prop :=
  Sound Fenced KnownHits

theorem hitsSound_step (redisKeyCacheSeconds : Int) (system : AuthSystem) (event : AuthEvent)
    (sound : HitsSound system) (stands : FencesStand system event) :
    HitsSound (authStep redisKeyCacheSeconds system event) := by
  apply sound_step FencesStand KeepsHits knownHits_stable _ _ system event sound stands
  · intro system process choice sound stands
    have known := sound.locals process
    have effect := act_effect redisKeyCacheSeconds choice known.1
    have versioned := sound.shared.toVersioned
    refine ⟨⟨effect.versioned versioned known.1,?_⟩,⟨act_known redisKeyCacheSeconds choice known.1,
      act_since redisKeyCacheSeconds choice sound.shared.floor known.2⟩,
      fun other different => ⟨effect.keepsVersions known.1 different,
        effect.restricted_le versioned known.1⟩⟩
    apply effect.floor_le sound.shared.floor
    rintro next fields holds rfl
    exact stands next holds
  · intro system change sound stands
    exact surroundings_fenced sound.shared stands

theorem noStaleHit_of_sound (system : AuthSystem) (sound : HitsSound system) :
    NoStaleHit system := by
  intro process user since hit
  have known := (sound.locals process).2
  rw [hit] at known
  exact known

end

section

theorem StatementEffect.advances {process : Nat} {before after : AuthShared} {call : AuthCall}
    {choice : AuthChoice} (effect : StatementEffect process before call choice after) :
    AuthCache.Advances before.cache after.cache := by
  cases effect with
  | script cache runs => exact runs.advances
  | _ => exact AuthCache.Advances.refl before.cache

variable {system : AuthSystem} (redisKeyCacheSeconds : Int)

theorem step_advances (sound : VersionsSound system) (event : AuthEvent) :
    AuthCache.Advances system.shared.cache
      (authStep redisKeyCacheSeconds system event).shared.cache := by
  cases event with
  | act process choice =>
    exact (act_effect redisKeyCacheSeconds choice (sound.locals process)).advances
  | change change =>
    cases change with
    | tick => exact AuthCache.expire_advances _ _
    | invalidate => exact AuthCache.invalidate_advances _
    | edit => exact AuthCache.Advances.refl _

theorem versionsSound_run (sound : VersionsSound system) (events : List AuthEvent) :
    VersionsSound (run (authStep redisKeyCacheSeconds) system events) := by
  induction events generalizing system with
  | nil => exact sound
  | cons event events ih => exact ih (versionsSound_step redisKeyCacheSeconds system event sound)

theorem run_advances (sound : VersionsSound system) (events : List AuthEvent) :
    AuthCache.Advances system.shared.cache
      (run (authStep redisKeyCacheSeconds) system events).shared.cache := by
  induction events generalizing system with
  | nil => exact AuthCache.Advances.refl _
  | cons event events ih =>
    apply (step_advances redisKeyCacheSeconds sound event).trans
    exact ih (versionsSound_step redisKeyCacheSeconds system event sound)

/-- Without a fence the row is as new as the floor, so it is served and cached. -/
theorem unblocked_of_sound (system : AuthSystem) (sound : VersionsSound system)
    : Unblocked redisKeyCacheSeconds system := by
  intro unfenced
  obtain ⟨positive,⟨committed,hash⟩,-⟩ := sound.shared
  have noPending : system.shared.cache.pending = 0 := by
    simp [AuthCache.pending,unfenced]
  have reached : ¬ system.shared.user.authVersion < system.shared.cache.floor := by
    simp only [AuthCache.floor]
    omega
  have current : system.shared.cache.current ≤ system.shared.user.authVersion := by
    unfold AuthCache.current
    cases found : system.shared.cache.hash with
    | none => exact le_trans (by decide) positive
    | some cached => exact le_trans (hash cached found) committed
  have upToDate : ¬ system.shared.cache.Outdates system.shared.user.authVersion := by
    unfold AuthCache.Outdates
    omega
  have written : (system.shared.writeUserCache redisKeyCacheSeconds system.shared.user true).1 ≠
      .pending := by
    unfold AuthShared.writeUserCache AuthCache.writeUserCache
    split_ifs <;> simp
  unfold AuthShared.getUserCache
  split
  · rfl
  · rw [if_neg reached,if_neg written]
    rfl

end

/-- No hit misses a committed transaction as long as the fences stand until the
committed version has caught up. The committed version and the cached one never go
down, and without a fence nobody is turned away. -/
theorem user_auth_fencing (redisKeyCacheSeconds : Int) (user : AuthUser)
    (initialized : 1 ≤ user.authVersion) (events : List AuthEvent) :
    (Guarded (authStep redisKeyCacheSeconds) FencesStand (.start user) events →
      Always (authStep redisKeyCacheSeconds) NoStaleHit (.start user) events) ∧
    (∀ seen, seen <+: events →
      let before := (run (authStep redisKeyCacheSeconds) (.start user) seen).shared.cache
      let after := (run (authStep redisKeyCacheSeconds) (.start user) events).shared.cache
      before.committedVersion ≤ after.committedVersion ∧
        ∀ old new, before.hash = some old → after.hash = some new →
          old.user.authVersion ≤ new.user.authVersion) ∧
    Always (authStep redisKeyCacheSeconds) (Unblocked redisKeyCacheSeconds) (.start user)
      events := by
  have start := versionsSound_start initialized
  refine ⟨fun stands => ?_,?_,fun seen _ => ?_⟩
  · apply always_of_guarded HitsSound noStaleHit_of_sound (hitsSound_step redisKeyCacheSeconds) _
      stands
    exact ⟨⟨start.shared,le_refl 0⟩,fun _ => ⟨trivial,trivial⟩⟩
  · rintro seen ⟨later,rfl⟩
    have sound := versionsSound_run redisKeyCacheSeconds start seen
    have advances := run_advances redisKeyCacheSeconds sound later
    rw [← run_append] at advances
    exact ⟨advances.committed,
      fun old new before after => advances.version_le sound.shared.bounded before after⟩
  · exact unblocked_of_sound redisKeyCacheSeconds _
      (versionsSound_run redisKeyCacheSeconds start seen)

def sampleUser : AuthUser := ⟨1, fun _ => ""⟩

def restrictEvents (process : Nat) : List AuthEvent :=
  [.act process .restrict, .act process .advance, .act process .advance, .act process .advance,
    .act process (.commit sampleUser.fields)]

def lookupEvents (process : Nat) : List AuthEvent :=
  [.act process .get, .act process .advance, .act process .advance]

/-- A transaction commits, is published and outlives its fence. -/
theorem user_auth_fencing_published :
    Always (authStep 60) NoStaleHit (.start sampleUser)
      (restrictEvents 1 ++ [.act 1 .advance, .act 1 .advance, .change (.tick 120)] ++
        lookupEvents 2) := by
  apply (user_auth_fencing 60 sampleUser (by decide) _).1
  refine ⟨trivial,trivial,trivial,trivial,fun next holds => ?_,trivial,trivial,
    fun standing => absurd rfl standing,trivial,trivial,trivial,trivial⟩
  have same : AuthCall.updated 2 = .updated next := holds
  rw [← AuthCall.updated.inj same]
  decide

/-- A fill that has read the row before the transaction, and two transactions: the
fence of the second turns the publication of the first away. -/
def overtakenEvents : List AuthEvent :=
  lookupEvents 0 ++ [.act 0 .advance] ++ restrictEvents 1 ++
    [.act 2 .restrict, .act 2 .advance, .act 2 .advance, .act 1 .advance, .act 1 .advance,
      .act 2 .rollback]

/-- The first transaction was published while its fence stood. After the expiry the
old snapshot is cached again and answers a lookup. -/
theorem stale_hit_after_rollback :
    (run (authStep 60) (.start sampleUser) overtakenEvents).locals 1 = .done ∧
      (run (authStep 60) (.start sampleUser) overtakenEvents).shared.cache.fence ≠ none ∧
      ¬ NoStaleHit (run (authStep 60) (.start sampleUser)
        (overtakenEvents ++ [.change (.tick 120), .act 0 .advance] ++ lookupEvents 3)) := by
  refine ⟨rfl,by decide,fun fresh => ?_⟩
  have stale := fresh 3 sampleUser 2 rfl
  exact absurd stale (by decide)

end NewApi
