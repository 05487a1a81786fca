import Mathlib.Algebra.Group.Pi.Basic
import Mathlib.Algebra.Ring.Int.Defs
import Mathlib.Data.List.AList
import NewApi.GuardedRuns

/-! # Batched updates -/

namespace NewApi

open GuardedRuns

inductive BatchUpdateType where
  | userQuota | tokenQuota | usedQuota | channelUsedQuota | requestCount
deriving DecidableEq, Repr

def batchUpdateTypes : List BatchUpdateType :=
  [.userQuota, .tokenQuota, .usedQuota, .channelUsedQuota, .requestCount]

inductive BatchTable where
  | users | tokens | channels
deriving DecidableEq, Repr

/-- The table of a record; those of one user are written by one statement. -/
def BatchUpdateType.table : BatchUpdateType → BatchTable
  | .tokenQuota => .tokens
  | .channelUsedQuota => .channels
  | .userQuota | .usedQuota | .requestCount => .users

abbrev BatchStores := BatchUpdateType → AList fun _ : Int => Int

def BatchStores.amount (stores : BatchStores) (kind : BatchUpdateType) (id : Int) : Int :=
  ((stores kind).lookup id).getD 0

/-- A pass looks for data, takes the stores of the types that are left, and writes. -/
inductive BatchPhase where
  | asleep
  | looking (rest : List BatchUpdateType)
  | taking (rest : List BatchUpdateType)
  | writing
deriving DecidableEq, Repr

/-- The types whose stores the pass does not hold. -/
def BatchPhase.untaken : BatchPhase → List BatchUpdateType
  | .asleep | .looking _ => batchUpdateTypes
  | .taking rest => rest
  | .writing => []

/-- The collected stores and those that the pass has taken, with the change of each column of the
database so far, the sum of its deltas, and the part of them whose statement failed. -/
structure BatchState where
  batchUpdateStores : BatchStores
  phase : BatchPhase
  stores : BatchStores
  applied : BatchUpdateType → Int → Int
  recorded : BatchUpdateType → Int → Int
  lost : BatchUpdateType → Int → Int

inductive BatchEvent where
  | addNewRecord (kind : BatchUpdateType) (id value : Int)
  /-- The updater goes on. The order of its writes is not fixed: the next one is for `id`. -/
  | batchUpdate (table : BatchTable) (id : Int) (written : Bool)
deriving DecidableEq, Repr

open BatchStores

namespace BatchState

def start : BatchState := ⟨fun _ => ∅, .asleep, fun _ => ∅, 0, 0, 0⟩

/-- One critical section or statement. The records of a statement that fails are gone. -/
def step (state : BatchState) : BatchEvent → BatchState
  | .addNewRecord kind id value =>
    let store := state.batchUpdateStores kind
    { state with
      batchUpdateStores := Function.update state.batchUpdateStores kind
        (store.insert id (match store.lookup id with | none => value | some old => old + value))
      recorded := state.recorded + fun other key => if other = kind ∧ key = id then value else 0 }
  | .batchUpdate table id written =>
    match state.phase with
    | .asleep => { state with phase := .looking batchUpdateTypes }
    | .looking [] => { state with phase := .asleep }
    | .looking (kind :: rest) =>
      if (state.batchUpdateStores kind).entries = [] then { state with phase := .looking rest }
      else { state with phase := .taking batchUpdateTypes, stores := fun _ => ∅ }
    | .taking [] => { state with phase := .writing }
    | .taking (kind :: rest) =>
      { state with
        batchUpdateStores := Function.update state.batchUpdateStores kind ∅
        phase := .taking rest
        stores := Function.update state.stores kind (state.batchUpdateStores kind) }
    | .writing =>
      if ∀ kind ∈ batchUpdateTypes, (state.stores kind).entries = [] then
        { state with phase := .asleep }
      else
        let change kind key :=
          if kind.table = table ∧ key = id then state.stores.amount kind key else 0
        let (applied, lost) := if written then (change, 0) else (0, change)
        { state with
          stores := fun kind =>
            if kind.table = table then (state.stores kind).erase id else state.stores kind
          applied := state.applied + applied
          lost := state.lost + lost }

def AtRest (state : BatchState) : Prop :=
  state.phase = .asleep ∧ ∀ kind ∈ batchUpdateTypes, (state.batchUpdateStores kind).entries = []

/-- Every delta is collected, taken, written or lost, and only in one place. -/
structure Accounted (state : BatchState) : Prop where
  distinct : state.phase.untaken.Nodup
  untaken : ∀ kind ∈ state.phase.untaken, state.stores kind = ∅
  balance : ∀ kind id, state.recorded kind id = state.applied kind id + state.lost kind id +
    state.batchUpdateStores.amount kind id + state.stores.amount kind id

theorem mem_batchUpdateTypes (kind : BatchUpdateType) : kind ∈ batchUpdateTypes := by
  cases kind <;> decide

theorem Accounted.step {state : BatchState} (accounted : state.Accounted) (event : BatchEvent) :
    (state.step event).Accounted := by
  obtain ⟨pending,phase,stores,applied,recorded,lost⟩ := state
  obtain ⟨distinct,untaken,balance⟩ := accounted
  cases event with
  | addNewRecord kind id =>
    refine ⟨distinct,untaken,fun other key => ?_⟩
    have before := balance other key
    by_cases here : other = kind ∧ key = id
    · obtain ⟨rfl,rfl⟩ := here
      cases found : (pending other).lookup key <;>
        simp [BatchState.step,amount,found] at before ⊢ <;> omega
    · by_cases same : other = kind
      · subst same
        have different : key ≠ id := fun sameKey => here ⟨rfl,sameKey⟩
        simpa [BatchState.step,amount,different]
          using before
      · simpa [BatchState.step,amount,same] using before
  | batchUpdate table id written =>
    cases phase with
    | asleep => exact ⟨distinct,untaken,balance⟩
    | looking rest =>
      cases rest with
      | nil => exact ⟨distinct,untaken,balance⟩
      | cons =>
        obtain rfl : stores = fun _ => ∅ :=
          funext fun other => untaken other (mem_batchUpdateTypes other)
        simp only [BatchState.step]
        split <;> exact ⟨distinct,untaken,balance⟩
    | taking rest =>
      cases rest with
      | nil => exact ⟨distinct,untaken,balance⟩
      | cons kind =>
        obtain ⟨fresh,restDistinct⟩ := List.nodup_cons.mp distinct
        refine ⟨restDistinct,fun other member => ?_,fun other key => ?_⟩
        · have different : other ≠ kind := fun same => fresh (same ▸ member)
          simpa [BatchState.step,different] using untaken other (List.mem_cons_of_mem kind member)
        · have before := balance other key
          by_cases same : other = kind
          · subst same
            have empty : stores other = ∅ := untaken other List.mem_cons_self
            simpa [BatchState.step,amount,empty] using before
          · simpa [BatchState.step,amount,same] using before
    | writing =>
      simp only [BatchState.step]
      split
      next nothingLeft =>
        exact ⟨(by decide : batchUpdateTypes.Nodup),
          fun kind member => AList.ext (nothingLeft kind member),balance⟩
      next =>
        refine ⟨List.nodup_nil,by rintro kind ⟨⟩,fun kind key => ?_⟩
        have before := balance kind key
        by_cases here : kind.table = table ∧ key = id
        · obtain ⟨rfl,rfl⟩ := here
          cases written <;> simp [amount] at before ⊢ <;> omega
        · have kept : ((if kind.table = table then (stores kind).erase id else stores kind).lookup
              key) = (stores kind).lookup key := by
            split
            next same => exact AList.lookup_erase_ne fun sameKey => here ⟨same,sameKey⟩
            next => rfl
          cases written <;> simpa [amount,here,kept] using before

end BatchState

open BatchState

/-- At rest the database has all deltas exactly when those that were lost cancel out. -/
theorem batch_updates_conserved_iff (events : List BatchEvent)
    (atRest : (run step start events).AtRest) :
    (∀ kind id, (run step start events).applied kind id =
        (run step start events).recorded kind id) ↔
      ∀ kind id, (run step start events).lost kind id = 0 := by
  have initially : start.Accounted := ⟨by decide,fun _ _ => rfl,fun _ _ => rfl⟩
  have accounted := run_invariant Accounted (fun _ event accounted _ => accounted.step event)
    initially (guarded_true start events)
  refine forall₂_congr fun kind id => ?_
  obtain ⟨asleep,nothing⟩ := atRest
  have untaken := accounted.untaken kind (by rw [asleep]; exact mem_batchUpdateTypes kind)
  have empty : _ = ∅ := AList.ext (nothing kind (mem_batchUpdateTypes kind))
  have balance := accounted.balance kind id
  simp only [BatchStores.amount,empty,untaken,AList.lookup_empty,Option.getD_none] at balance
  omega

def tokenPass (written : Bool) : List BatchEvent :=
  .addNewRecord .tokenQuota 1 7 :: List.replicate 11 (.batchUpdate .tokens 1 written)

theorem tokenPass_atRest (written : Bool) : (run step start (tokenPass written)).AtRest := by
  unfold AtRest
  cases written <;> decide +kernel

theorem written_delta_conserved :
    (run step start (tokenPass true)).applied .tokenQuota 1 =
      (run step start (tokenPass true)).recorded .tokenQuota 1 :=
  (batch_updates_conserved_iff _ (tokenPass_atRest true)).mpr (fun _ _ => rfl) _ _

/-- A statement that fails loses its delta for good. -/
theorem failed_delta_lost :
    (run step start (tokenPass false)).AtRest ∧
      (run step start (tokenPass false)).recorded .tokenQuota 1 = 7 ∧
      (run step start (tokenPass false)).applied .tokenQuota 1 = 0 :=
  ⟨tokenPass_atRest false,by decide +kernel⟩

end NewApi
