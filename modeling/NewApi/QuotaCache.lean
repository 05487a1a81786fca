import NewApi.CachedCounter
import NewApi.GuardedRuns
import Mathlib.Algebra.Order.Ring.Rat

/-!
# The quota of a user or a token and its copy in Redis

The cache write of an increase or a decrease comes from a goroutine of its own.
-/

namespace NewApi

open GuardedRuns

inductive QuotaAccount where
  | user
  | token
deriving DecidableEq, Repr

inductive QuotaCall where
  /-- `GetUserCache`, `GetTokenByKey`. -/
  | hydrate (fromDatabase : Bool)
  /-- `TryReserveUserQuota`, `TryReserveTokenQuota`. -/
  | reserve (amount : Int) (unlimited : Bool)
  /-- `IncreaseUserQuota`, `IncreaseTokenQuota`. -/
  | increase (amount : Int)
  /-- `DecreaseUserQuota`, `DecreaseTokenQuota`. -/
  | decrease (amount : Int)
  /-- `TransferAffQuotaToQuota`. -/
  | transfer (amount : Int)
deriving DecidableEq, Repr

/-- What a call does next. A hydration that a reservation has asked for knows
the amount to reserve. -/
inductive QuotaPhase where
  | reserve (amount : Int)
  | lookup (reserving : Option Int)
  | read (reserving : Option Int)
  | fill (snapshot : Int) (reserving : Option Int)
  | retry (amount : Int)
  /-- The cached quota has been reserved, the database has not. -/
  | persist (amount : Int)
  | fallback (amount : Int)
  /-- The writes of a change, with those that have been made. -/
  | change (delta : Int) (inDatabase inCache : Bool)
  | transfer (amount : Int)
  | done
deriving DecidableEq, Repr

/-- The start of a call, with the checks it makes before its first statement. -/
def QuotaCall.begin (account : QuotaAccount) (quotaPerUnit : Rat) : QuotaCall → QuotaPhase
  | .hydrate fromDatabase => if fromDatabase then .read none else .lookup none
  | .reserve amount unlimited =>
    if amount ≤ 0 then .done
    else if account = .token ∧ unlimited then .change (-amount) false false
    else .reserve amount
  | .increase amount => if amount < 0 then .done else .change amount false false
  | .decrease amount => if amount < 0 then .done else .change (-amount) false false
  | .transfer amount =>
    if account = .token ∨ (amount : Rat) < quotaPerUnit then .done else .transfer amount

/-- The quota columns of the row, and the quota field of the hash. -/
structure QuotaStore where
  database : Int
  affQuota : Int
  cache : Option Int
deriving DecidableEq, Repr

inductive CacheQuotaResult where
  | insufficient
  | ok
  | miss
deriving DecidableEq, Repr

def reserveScript (cache : Option Int) (amount : Int) : CacheQuotaResult × Option Int :=
  match cache with
  | none => (.miss, none)
  | some quota => if quota < amount then (.insufficient, some quota) else (.ok, some (quota - amount))

/-- `userQuotaDeltaScript`, `tokenQuotaDeltaScript`: a missing hash is left alone. -/
def deltaScript (cache : Option Int) (delta : Int) : Option Int :=
  cache.map (· + delta)

/-- The quota part of `writeUserCache` and of `cacheInitToken`: a hash that exists
keeps its quota. -/
def fillScript (cache : Option Int) (snapshot : Int) : Option Int :=
  some (cache.getD snapshot)

/-- After a successful hydration the reservation is tried once more. -/
def afterHydration : Option Int → QuotaPhase
  | none => .done
  | some amount => .retry amount

/-- A user whose hash is fenced is not hydrated, and the reservation goes to the
database. A fenced token is only not cached. -/
def afterBlockedFill (account : QuotaAccount) : Option Int → QuotaPhase
  | none => .done
  | some amount => if account = .user then .fallback amount else .retry amount

def changed (delta : Int) (inDatabase inCache : Bool) : QuotaPhase :=
  if inDatabase && inCache then .done else .change delta inDatabase inCache

/-- One statement of a call. The answer says whether a fence stands in the way of
a lookup or a fill, and which of its two writes a change makes. -/
def advanceCall (account : QuotaAccount) (store : QuotaStore) (answer : Bool) :
    QuotaPhase → QuotaStore × QuotaPhase
  | .reserve amount =>
    match reserveScript store.cache amount with
    | (.ok, cache) => ({ store with cache }, .persist amount)
    | (.insufficient, _) => (store, .done)
    | (.miss, _) =>
      (store, if account = .user then .lookup (some amount) else .read (some amount))
  | .lookup reserving =>
    if store.cache.isSome && !answer then (store, afterHydration reserving)
    else (store, .read reserving)
  | .read reserving => (store, .fill store.database reserving)
  | .fill snapshot reserving =>
    if answer then (store, afterBlockedFill account reserving)
    else ({ store with cache := fillScript store.cache snapshot }, afterHydration reserving)
  | .retry amount =>
    match reserveScript store.cache amount with
    | (.ok, cache) => ({ store with cache }, .persist amount)
    | (.insufficient, _) => (store, .done)
    | (.miss, _) => (store, .fallback amount)
  | .persist amount => ({ store with database := store.database - amount }, .done)
  | .fallback amount =>
    if amount ≤ store.database then ({ store with database := store.database - amount }, .done)
    else (store, .done)
  | .change delta inDatabase inCache =>
    if answer && !inDatabase then
      ({ store with database := store.database + delta }, changed delta true inCache)
    else if !answer && !inCache then
      ({ store with cache := deltaScript store.cache delta }, changed delta inDatabase true)
    else (store, .change delta inDatabase inCache)
  | .transfer amount =>
    if store.affQuota < amount then (store, .done)
    else
      ({ store with
        affQuota := store.affQuota - amount
        database := store.database + amount }, .done)
  | .done => (store, .done)

structure QuotaCacheState extends QuotaStore where
  calls : List QuotaPhase
deriving DecidableEq, Repr

inductive QuotaEvent where
  | start (call : QuotaCall)
  | advance (index : Nat) (answer : Bool)
  | expire
deriving DecidableEq, Repr

namespace QuotaCacheState

def step (account : QuotaAccount) (quotaPerUnit : Rat) (state : QuotaCacheState) :
    QuotaEvent → QuotaCacheState
  | .start call => { state with calls := state.calls ++ [call.begin account quotaPerUnit] }
  | .advance index answer =>
    match state.calls[index]? with
    | none => state
    | some phase =>
      let (store, next) := advanceCall account state.toQuotaStore answer phase
      { toQuotaStore := store, calls := state.calls.set index next }
  | .expire => { state with cache := none }

def Quiescent (state : QuotaCacheState) : Prop :=
  ∀ call ∈ state.calls, call = .done

/-- Once no call is under way, a cached quota is the one of the database. -/
def Coherent (state : QuotaCacheState) : Prop :=
  state.Quiescent → ∀ quota, state.cache = some quota → quota = state.database

end QuotaCacheState

def QuotaPhase.ahead : QuotaPhase → Int
  | .persist amount => -amount
  | .change delta inDatabase inCache =>
    (if inCache then delta else 0) - (if inDatabase then delta else 0)
  | _ => 0

namespace QuotaCacheState

/-- A fill of an empty cache takes the current quota, and no call is between its two
writes. A write that reaches the database only finds no cached quota. -/
def RaceFreeCall (state : QuotaCacheState) (answer : Bool) : QuotaPhase → Prop
  | .fill snapshot _ =>
    answer = false → state.cache = none →
      snapshot = state.database ∧ ∀ call ∈ state.calls, call.ahead = 0
  | .fallback amount => amount ≤ state.database → state.cache = none
  | .transfer amount => amount ≤ state.affQuota → state.cache = none
  | _ => True

def RaceFree (state : QuotaCacheState) : QuotaEvent → Prop
  | .advance index answer => ∀ phase ∈ state.calls[index]?, state.RaceFreeCall answer phase
  | _ => True

instance (state : QuotaCacheState) : Decidable state.Quiescent :=
  inferInstanceAs (Decidable (∀ call ∈ state.calls, call = .done))

instance (state : QuotaCacheState) (answer : Bool) : DecidablePred (state.RaceFreeCall answer)
  | .fill snapshot _ =>
    inferInstanceAs (Decidable (answer = false → state.cache = none →
      snapshot = state.database ∧ ∀ call ∈ state.calls, call.ahead = 0))
  | .fallback amount => inferInstanceAs (Decidable (amount ≤ state.database → state.cache = none))
  | .transfer amount => inferInstanceAs (Decidable (amount ≤ state.affQuota → state.cache = none))
  | .reserve _ | .lookup _ | .read _ | .retry _ | .persist _ | .change _ _ _ | .done =>
    isTrue trivial

instance (state : QuotaCacheState) : DecidablePred state.RaceFree
  | .advance index answer =>
    inferInstanceAs (Decidable (∀ phase ∈ state.calls[index]?, state.RaceFreeCall answer phase))
  | .start _ | .expire => isTrue trivial

end QuotaCacheState

open QuotaCacheState

section

open CachedCounter

def QuotaCacheState.counter (state : QuotaCacheState) : CachedCounter Int :=
  ⟨state.database, state.cache, (state.calls.map QuotaPhase.ahead).sum⟩

@[simp]
theorem ahead_begin (account : QuotaAccount) (quotaPerUnit : Rat) (call : QuotaCall) :
    (call.begin account quotaPerUnit).ahead = 0 := by
  cases call <;> simp only [QuotaCall.begin] <;> split_ifs <;> rfl

@[simp]
theorem ahead_afterHydration (reserving : Option Int) : (afterHydration reserving).ahead = 0 := by
  cases reserving <;> rfl

@[simp]
theorem ahead_afterBlockedFill (account : QuotaAccount) (reserving : Option Int) :
    (afterBlockedFill account reserving).ahead = 0 := by
  cases reserving with
  | none => rfl
  | some =>
    simp only [afterBlockedFill]
    split_ifs <;> rfl

@[simp]
theorem ahead_changed (delta : Int) (inDatabase inCache : Bool) :
    (changed delta inDatabase inCache).ahead =
      (if inCache then delta else 0) - (if inDatabase then delta else 0) := by
  cases inDatabase <;> cases inCache <;> simp [changed,QuotaPhase.ahead]

/-- A reservation in the cache, whichever phase it comes from. -/
theorem reserveScript_accounted {database affQuota : Int} {cache : Option Int} {others : Int}
    (accounted : Accounted ⟨database, cache, others⟩) (amount : Int) (onMiss : QuotaPhase) :
    let result : QuotaStore × QuotaPhase := match reserveScript cache amount with
      | (.ok, cache) => (⟨database, affQuota, cache⟩, .persist amount)
      | (.insufficient, _) => (⟨database, affQuota, cache⟩, .done)
      | (.miss, _) => (⟨database, affQuota, cache⟩, onMiss)
    Accounted ⟨result.1.database, result.1.cache, others + result.2.ahead⟩ := by
  cases cache with
  | none => exact Accounted.of_missing _ _
  | some quota =>
    by_cases short : quota < amount
    · simpa [reserveScript,short,QuotaPhase.ahead] using accounted
    · simpa [reserveScript,short,QuotaPhase.ahead,sub_eq_add_neg] using
        accounted.forward (-amount)

theorem advanceCall_accounted {account : QuotaAccount} {store : QuotaStore} {answer : Bool}
    {phase : QuotaPhase} {others : Int}
    (accounted : Accounted ⟨store.database, store.cache, others + phase.ahead⟩)
    (fills : ∀ snapshot reserving, phase = .fill snapshot reserving → answer = false →
      store.cache = none → snapshot = store.database ∧ others = 0)
    (fallsBack : ∀ amount, phase = .fallback amount → amount ≤ store.database →
      store.cache = none)
    (transfers : ∀ amount, phase = .transfer amount → amount ≤ store.affQuota →
      store.cache = none) :
    let result := advanceCall account store answer phase
    Accounted ⟨result.1.database, result.1.cache, others + result.2.ahead⟩ := by
  obtain ⟨database,affQuota,cache⟩ := store
  cases phase with
  | reserve amount | retry amount =>
    simp only [QuotaPhase.ahead,add_zero] at accounted
    exact reserveScript_accounted accounted amount _
  | lookup =>
    simp only [QuotaPhase.ahead] at accounted
    simp only [advanceCall]
    split_ifs
    · simpa using accounted
    · simpa [QuotaPhase.ahead] using accounted
  | read reserving | done => exact accounted
  | fill snapshot reserving =>
    simp only [QuotaPhase.ahead] at accounted
    simp only [advanceCall]
    split_ifs with blocked
    · simpa using accounted
    · cases cache with
      | some => simpa [fillScript] using accounted
      | none =>
        obtain ⟨current,settled⟩ := fills snapshot reserving rfl (by simpa using blocked) rfl
        intro copied present
        simp only [fillScript,Option.some.injEq] at present
        simp [← present,current,settled]
  | persist amount =>
    have written := accounted.write (-amount)
    simpa [advanceCall,QuotaPhase.ahead,sub_eq_add_neg] using written
  | fallback amount =>
    simp only [advanceCall]
    split_ifs with enough
    · have missing : cache = none := fallsBack amount rfl enough
      rw [missing]
      exact Accounted.of_missing _ _
    · simpa [QuotaPhase.ahead] using accounted
  | change delta inDatabase inCache =>
    simp only [advanceCall]
    split_ifs with toDatabase toCache
    · have notYet : inDatabase = false := by simp at toDatabase; exact toDatabase.2
      have written := accounted.write delta
      simp only [QuotaPhase.ahead,notYet,add_sub_assoc] at written
      simpa using written
    · have notYet : inCache = false := by simp at toCache; exact toCache.2
      have forwarded := accounted.forward delta
      simp only [QuotaPhase.ahead,notYet] at forwarded
      have same : others + ((if false = true then delta else 0) -
          (if inDatabase = true then delta else 0)) + delta =
          others + (changed delta inDatabase true).ahead := by
        simp
        omega
      rw [same] at forwarded
      exact forwarded
    · exact accounted
  | transfer amount =>
    simp only [advanceCall]
    split_ifs with short
    · simpa [QuotaPhase.ahead] using accounted
    · have missing : cache = none := transfers amount rfl (not_lt.mp short)
      rw [missing]
      exact Accounted.of_missing _ _

theorem sum_ahead_eq_zero {calls : List QuotaPhase} (settled : ∀ call ∈ calls, call.ahead = 0) :
    (calls.map QuotaPhase.ahead).sum = 0 := by
  apply List.sum_eq_zero
  intro ahead member
  obtain ⟨call,inside,rfl⟩ := List.mem_map.mp member
  exact settled call inside

theorem step_accounted {account : QuotaAccount} {quotaPerUnit : Rat} (state : QuotaCacheState)
    (event : QuotaEvent) (accounted : state.counter.Accounted) (raceFree : state.RaceFree event) :
    (state.step account quotaPerUnit event).counter.Accounted := by
  cases event with
  | start =>
    simpa [step,counter] using accounted
  | expire => exact Accounted.of_missing _ _
  | advance index =>
    cases found : state.calls[index]? with
    | none =>
      simp only [step,found]
      exact accounted
    | some phase =>
      -- The sum splits into the ahead of this call and the rest.
      have split : (state.calls.map QuotaPhase.ahead).sum =
          ((state.calls.map QuotaPhase.ahead).sum - phase.ahead) + phase.ahead := by omega
      simp only [QuotaCacheState.RaceFree,found] at raceFree
      simp only [step,found,counter,
        sum_map_set QuotaPhase.ahead _ found]
      apply advanceCall_accounted
      · rwa [← split]
      · rintro snapshot reserving rfl unblocked missing
        obtain ⟨current,settled⟩ := raceFree _ rfl unblocked missing
        refine ⟨current,?_⟩
        rw [sum_ahead_eq_zero settled]
        rfl
      · rintro amount rfl enough
        exact raceFree _ rfl enough
      · rintro amount rfl enough
        exact raceFree _ rfl enough

theorem coherent_of_accounted {state : QuotaCacheState} (accounted : state.counter.Accounted) :
    state.Coherent := by
  intro quiescent quota present
  apply accounted.eq_value _ present
  apply sum_ahead_eq_zero
  intro call member
  rw [quiescent call member]
  rfl

end

/-- The store before any call, with nothing cached or the database's quota. -/
def QuotaCacheState.idle (database affQuota : Int) (cached : Bool) : QuotaCacheState where
  database
  affQuota
  cache := if cached then some database else none
  calls := []

/-- In every race-free run the cached quota is the one of the database whenever no
call is under way. -/
theorem quota_cache_coherent (account : QuotaAccount) (quotaPerUnit : Rat)
    (database affQuota : Int) (cached : Bool) (events : List QuotaEvent)
    (raceFree : Guarded (QuotaCacheState.step account quotaPerUnit) QuotaCacheState.RaceFree
      (.idle database affQuota cached) events) :
    Always (QuotaCacheState.step account quotaPerUnit) QuotaCacheState.Coherent
      (.idle database affQuota cached) events := by
  apply always_of_guarded (fun state => state.counter.Accounted)
    (fun _ => coherent_of_accounted) step_accounted _ raceFree
  intro quota present
  cases cached with
  | false => cases present
  | true => exact (Option.some.inj present).symm.trans (add_zero database).symm

def reserveEvents : List QuotaEvent :=
  [.start (.reserve 30 false), .advance 0 false, .advance 0 false, .advance 0 false,
    .start (.increase 5), .advance 0 false, .advance 0 false, .advance 1 false, .advance 0 false,
    .advance 1 true]

theorem quota_cache_coherent_reserve :
    (run (QuotaCacheState.step .user 500000) (.idle 100 0 false) reserveEvents).cache = some 75 ∧
      (run (QuotaCacheState.step .user 500000) (.idle 100 0 false) reserveEvents).Coherent := by
  refine ⟨by decide +kernel,?_⟩
  apply quota_cache_coherent .user 500000 100 0 false reserveEvents _ _ List.prefix_rfl
  decide +kernel

/-- A transfer leaves the cached quota behind, and a hydration that reads before an
increase and fills after it caches the old quota. -/
theorem quota_cache_stale :
    ¬ QuotaCacheState.Coherent (run (QuotaCacheState.step .user 500000) (.idle 100 500000 true)
      [.start (.transfer 500000), .advance 0 false]) ∧
    ¬ QuotaCacheState.Coherent (run (QuotaCacheState.step .token 500000) (.idle 100 0 false)
      [.start (.hydrate true), .advance 0 false, .start (.increase 5), .advance 1 false,
        .advance 1 true, .advance 0 false]) := by
  constructor
  all_goals
    intro coherent
    have stale := coherent (by decide) 100 rfl
    exact absurd stale (by decide)

end NewApi
