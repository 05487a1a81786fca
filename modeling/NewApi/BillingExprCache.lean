import NewApi.Interleaving
import NewApi.TextQuota

/-!
# The variables of a billing expression

`UsedVars` looks an expression up again after compiling it. Other calls may empty the cache before.
-/

namespace NewApi

open GuardedRuns Interleaving

/-- The compiler: the identifiers in the tree of an expression that compiles. No two expressions
share a hash. -/
structure ExprCompiler (Key : Type) where
  hash : String → Key
  identifiers : String → Option (List String)
  hash_injective : Function.Injective hash
  empty_fails : identifiers "" = none

def maxCacheSize : Nat := 256

/-- The variables of each entry of `cache`. -/
abbrev ExprCache (Key : Type) := AList fun _ : Key => List String

inductive ExprRequest where
  | usedVars (expr : String)
  | evaluate (expr : String)
deriving DecidableEq

inductive ExprCall where
  | finished
  | usedVars (expr : String)
  | compile (expr : String) (waits : Bool)
  | store (expr : String) (vars : List String) (waits : Bool)
  | lookAgain (expr : String)
  | returned (expr : String) (result : Option (List String))
deriving DecidableEq

section

variable {Key : Type} [DecidableEq Key] (compiler : ExprCompiler Key)

/-- A full cache is replaced by an empty one first. -/
def ExprCache.store (cache : ExprCache Key) (key : Key) (vars : List String) : ExprCache Key :=
  (if cache.entries.length ≥ maxCacheSize then ∅ else cache).insert key vars

def ExprCall.start : ExprRequest → ExprCall
  | .usedVars expr => if expr = "" then .returned expr none else .usedVars expr
  | .evaluate expr => .compile expr false

def exprAct (cache : ExprCache Key) (call : ExprCall) (request : ExprRequest) :
    ExprCache Key × ExprCall :=
  match call with
  | .finished | .returned _ _ => (cache, .start request)
  | .usedVars expr =>
    match cache.lookup (compiler.hash expr) with
    | some vars => (cache, .returned expr (some vars))
    | none => (cache, .compile expr true)
  | .compile expr waits =>
    match cache.lookup (compiler.hash expr), compiler.identifiers expr with
    | some _, _ => (cache, if waits then .lookAgain expr else .finished)
    | none, none => (cache, if waits then .returned expr none else .finished)
    | none, some vars => (cache, .store expr vars waits)
  | .store expr vars waits =>
    (cache.store (compiler.hash expr) vars, if waits then .lookAgain expr else .finished)
  | .lookAgain expr => (cache, .returned expr (cache.lookup (compiler.hash expr)))

/-- Any number of calls, and `InvalidateCache` at any time. -/
def exprStep : System (ExprCache Key) ExprCall → Event ExprRequest Unit →
    System (ExprCache Key) ExprCall :=
  Interleaving.step (fun _ => exprAct compiler) fun _ _ => ∅

def noCalls : System (ExprCache Key) ExprCall := ⟨∅, fun _ => .finished⟩

def TieredVar.name : TieredVar → String
  | .cr => "cr" | .cc => "cc" | .cc1h => "cc1h" | .img => "img" | .ai => "ai"
  | .imgO => "img_o" | .ao => "ao"

/-- Reading the returned map; a nil map has no entry. -/
def pricedVars (usedVars : Option (List String)) (variable_ : TieredVar) : Bool :=
  (usedVars.getD []).contains variable_.name

/-- A call of `UsedVars` has returned the identifiers of its expression, so that the tokens of
just the variables in it are taken off the prompt and the completion. -/
def Answered (call : ExprCall) : Prop :=
  ∀ expr result vars, call = .returned expr result → compiler.identifiers expr = some vars →
    result = some vars ∧ ∀ usage isClaude,
      buildTieredTokenParams usage isClaude (pricedVars result) =
        buildTieredTokenParams usage isClaude fun variable_ => vars.contains variable_.name

def StillCached (system : System (ExprCache Key) ExprCall) : Event ExprRequest Unit → Prop
  | .act process _ => ∀ expr, system.locals process = .lookAgain expr →
    (system.shared.lookup (compiler.hash expr)).isSome
  | .change _ => True

end

section

variable {Key : Type} {compiler : ExprCompiler Key} {call : ExprCall}

def KnownExpr (compiler : ExprCompiler Key) : ExprCall → Prop
  | .store expr vars _ => compiler.identifiers expr = some vars
  | .lookAgain expr => (compiler.identifiers expr).isSome
  | .returned expr result => ∀ vars, compiler.identifiers expr = some vars → result = some vars
  | _ => True

theorem KnownExpr.answered (known : KnownExpr compiler call) :
    Answered compiler call := by
  rintro expr result vars rfl compiles
  obtain rfl := known vars compiles
  exact ⟨rfl,fun _ _ => rfl⟩

theorem knownExpr_start (compiler : ExprCompiler Key) (request : ExprRequest) :
    KnownExpr compiler (.start request) := by
  cases request with
  | evaluate => trivial
  | usedVars expr =>
    by_cases empty : expr = ""
    · simp [ExprCall.start,empty,KnownExpr,compiler.empty_fails]
    · simp [ExprCall.start,empty,KnownExpr]

variable [DecidableEq Key] {cache : ExprCache Key}

def CacheSound (compiler : ExprCompiler Key) (cache : ExprCache Key) : Prop :=
  ∀ expr vars, cache.lookup (compiler.hash expr) = some vars →
    compiler.identifiers expr = some vars

theorem cacheSound_empty : CacheSound compiler ∅ := by
  intro expr vars found
  cases found

theorem cacheSound_store {expr : String} {vars : List String}
    (sound : CacheSound compiler cache) (compiles : compiler.identifiers expr = some vars) :
    CacheSound compiler (cache.store (compiler.hash expr) vars) := by
  intro other found lookup
  unfold ExprCache.store at lookup
  by_cases same : other = expr
  · subst same
    rw [AList.lookup_insert] at lookup
    rw [compiles,lookup]
  · rw [AList.lookup_insert_ne fun equal => same (compiler.hash_injective equal)] at lookup
    split at lookup
    · exact cacheSound_empty other found lookup
    · exact sound other found lookup

/-- A critical section keeps the cache sound, and the call is answered unless the entry is gone. -/
theorem exprAct_sound (request : ExprRequest)
    (sound : CacheSound compiler cache) (known : KnownExpr compiler call)
    (still : ∀ expr, call = .lookAgain expr → (cache.lookup (compiler.hash expr)).isSome) :
    CacheSound compiler (exprAct compiler cache call request).1 ∧
      KnownExpr compiler (exprAct compiler cache call request).2 := by
  have answers : ∀ {expr found}, cache.lookup (compiler.hash expr) = some found →
      KnownExpr compiler (.returned expr (some found)) := by
    intro expr found lookup vars compiles
    rw [← sound expr found lookup,compiles]
  cases call with
  | finished | returned expr result => exact ⟨sound,knownExpr_start compiler request⟩
  | usedVars =>
    simp only [exprAct]
    split
    next vars lookup => exact ⟨sound,answers lookup⟩
    next => exact ⟨sound,trivial⟩
  | compile expr waits =>
    simp only [exprAct]
    split
    next vars lookup =>
      refine ⟨sound,?_⟩
      cases waits
      · trivial
      · exact Option.isSome_of_eq_some (sound expr vars lookup)
    next fails =>
      refine ⟨sound,?_⟩
      cases waits
      · trivial
      · intro vars compiles
        rw [fails] at compiles
        cases compiles
    next vars compiles => exact ⟨sound,compiles⟩
  | store expr vars waits =>
    refine ⟨cacheSound_store sound known,?_⟩
    cases waits
    · trivial
    · exact Option.isSome_of_eq_some known
  | lookAgain expr =>
    obtain ⟨found,lookup⟩ := Option.isSome_iff_exists.mp (still expr rfl)
    refine ⟨sound,?_⟩
    simp only [exprAct,lookup]
    exact answers lookup

end

/-- In every interleaving all calls of `UsedVars` are answered exactly when each finds the entry
that it compiled still in the cache. -/
theorem usedVars_reliable_iff {Key : Type} [DecidableEq Key] (compiler : ExprCompiler Key)
    (events : List (Event ExprRequest Unit)) :
    Always (exprStep compiler) (fun system => ∀ process, Answered compiler (system.locals process))
        noCalls events ↔
      Guarded (exprStep compiler) (StillCached compiler) noCalls events := by
  have initially : Sound (CacheSound compiler) (fun _ _ => KnownExpr compiler) noCalls :=
    ⟨cacheSound_empty,fun _ => trivial⟩
  refine always_iff_guarded (fun _ sound process => (sound.locals process).answered) ?_ ?_
    initially events
  · refine sound_step (StillCached compiler) (fun _ _ _ => True) (fun _ _ _ _ _ known => known)
      (fun system process request sound still => ?_)
      fun system _ _ _ => ⟨cacheSound_empty,fun _ => trivial⟩
    obtain ⟨cacheSound,known⟩ := exprAct_sound request sound.shared (sound.locals process) still
    exact ⟨cacheSound,known,fun _ _ => trivial⟩
  · rintro system (⟨process,request⟩ | change) sound gone answered
    · simp only [StillCached,not_forall,Option.not_isSome_iff_eq_none] at gone
      obtain ⟨expr,looks,missing⟩ := gone
      have known := sound.locals process
      rw [looks] at known
      obtain ⟨vars,compiles⟩ := Option.isSome_iff_exists.mp known
      have empty : (exprStep compiler system (.act process request)).locals process =
          .returned expr none := by
        simp [exprStep,Interleaving.step,looks,exprAct,missing]
      cases (answered process expr none vars empty compiles).1
    · exact gone trivial

/-- The cache is cleared before the second look: the cached tokens are not taken off, and are paid
for twice. -/
theorem cleared_cache_answers_nil :
    let compiler : ExprCompiler String :=
      { hash := id
        identifiers := fun expr => if expr = "p + cr" then some ["p", "cr"] else none
        hash_injective := Function.injective_id
        empty_fails := by decide }
    let call : Event ExprRequest Unit := .act 0 (.usedVars "p + cr")
    (run (exprStep compiler) noCalls [call, call, call, call, .change (), call]).locals 0 =
        .returned "p + cr" none ∧
      (buildTieredTokenParams cachedUsage false (pricedVars none)).p = 1000 ∧
      (buildTieredTokenParams cachedUsage false (pricedVars (some ["p", "cr"]))).p = 200 := by
  decide +kernel

end NewApi
