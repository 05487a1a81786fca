import Mathlib.Data.Option.Basic

/-!
# Transactions over an explicit state

A body rewrites a private copy, which replaces the shared state only when the body and the commit
both succeed.
-/

namespace NewApi.Transactions

universe u

variable {ε σ : Type*} {α β : Type u}

/-- Turn the outcome of a single statement into a step of a transaction body. -/
def attempt (fault : Option ε) (value : α) : Except ε α :=
  match fault with
  | some error => .error error
  | none => .ok value

@[simp]
theorem attempt_none (value : α) : attempt (none : Option ε) value = .ok value := rfl

@[simp]
theorem attempt_some (error : ε) (value : α) : attempt (some error) value = .error error := rfl

@[simp]
theorem attempt_eq_ok {fault : Option ε} {value result : α} :
    attempt fault value = .ok result ↔ fault = none ∧ value = result := by
  cases fault <;> simp

def transaction (beginFault commitFault : Option ε)
    (body : σ → Except ε (α × σ)) (state : σ) : Except ε α × σ :=
  match beginFault with
  | some error => (.error error, state)
  | none =>
    match body state with
    | .error error => (.error error, state)
    | .ok (value, after) =>
      match commitFault with
      | some error => (.error error, state)
      | none => (.ok value, after)

variable {beginFault commitFault : Option ε}

theorem transaction_congr {first second : σ → Except ε (α × σ)} {state : σ}
    (same : first state = second state) :
    transaction beginFault commitFault first state =
      transaction beginFault commitFault second state := by
  unfold transaction
  rw [same]

variable {body : σ → Except ε (α × σ)}

theorem transaction_ok_iff {before after : σ} {value : α} :
    transaction beginFault commitFault body before = (.ok value, after) ↔
      beginFault = none ∧ commitFault = none ∧ body before = .ok (value, after) := by
  unfold transaction
  cases beginFault with
  | some => simp
  | none =>
    cases bodyResult : body before with
    | error => simp
    | ok result =>
      obtain ⟨result,written⟩ := result
      cases commitFault <;> simp

theorem transaction_error_state {before after : σ} {error : ε}
    (failed : transaction beginFault commitFault body before = (.error error, after)) :
    after = before := by
  unfold transaction at failed
  cases beginFault with
  | some => simpa using (congrArg Prod.snd failed).symm
  | none =>
    cases bodyResult : body before with
    | error => simpa [bodyResult] using (congrArg Prod.snd failed).symm
    | ok result =>
      cases commitFault with
      | some => simpa [bodyResult] using (congrArg Prod.snd failed).symm
      | none => simp [bodyResult] at failed

theorem bind_succeeds_iff {first : Except ε α} {next : α → Except ε β} {result : β} :
    (first >>= next) = .ok result ↔ ∃ value, first = .ok value ∧ next value = .ok result := by
  cases first <;> simp [bind,Except.bind]

end NewApi.Transactions
