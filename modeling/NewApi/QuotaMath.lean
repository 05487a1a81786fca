import Mathlib.Data.Rat.Floor

/-!
# Quota conversions

A computed quota is a decimal number. It is rounded half away from zero and kept
inside the range of a 32-bit column: the checked conversion saturates and reports
it, the strict one refuses.
-/

namespace NewApi

def maxQuota : Int := 2147483647
def minQuota : Int := -2147483648

/-- `decimal.Round(0)`: half away from zero. -/
def roundHalfAway (value : Rat) : Int :=
  if 0 ≤ value then ⌊value + 1 / 2⌋ else -⌊-value + 1 / 2⌋

theorem roundHalfAway_intCast (value : Int) : roundHalfAway value = value := by
  have half : ∀ n : Int, ⌊(n : Rat) + 1 / 2⌋ = n := by
    intro n
    rw [Int.floor_eq_iff]
    constructor <;> norm_num
  unfold roundHalfAway
  split_ifs with nonneg
  · exact half value
  · have negated := half (-value)
    push_cast at negated
    rw [negated,neg_neg]

theorem roundHalfAway_nonneg {value : Rat} (nonneg : 0 ≤ value) : 0 ≤ roundHalfAway value := by
  rw [roundHalfAway,if_pos nonneg]
  apply Int.floor_nonneg.mpr
  linarith

/-- Why a conversion had to be saturated. A decimal is never NaN. -/
inductive QuotaClampKind where
  | overflow
  | underflow
deriving DecidableEq, Repr

structure QuotaClamp where
  op : String
  kind : QuotaClampKind
  original : Int
  clamped : Int
deriving DecidableEq, Repr

def saturateQuota (value : Int) (op : String) : Int × Option QuotaClamp :=
  if maxQuota ≤ value then
    (maxQuota, some { op := op, kind := .overflow, original := value, clamped := maxQuota })
  else if value ≤ minQuota then
    (minQuota, some { op := op, kind := .underflow, original := value, clamped := minQuota })
  else (value, none)

def strictQuota (checked : Int × Option QuotaClamp) : Except QuotaClamp Int :=
  match checked.2 with
  | some clamp => .error clamp
  | none => .ok checked.1

def quotaFromDecimalChecked (value : Rat) : Int × Option QuotaClamp :=
  saturateQuota (roundHalfAway value) "QuotaFromDecimal"

def quotaFromDecimalStrict (value : Rat) : Except QuotaClamp Int :=
  strictQuota (quotaFromDecimalChecked value)

theorem quotaFromDecimalStrict_eq_ok {value : Rat} {quota : Int} :
    quotaFromDecimalStrict value = .ok quota ↔
      roundHalfAway value = quota ∧ minQuota < quota ∧ quota < maxQuota := by
  unfold quotaFromDecimalStrict quotaFromDecimalChecked saturateQuota strictQuota
  split_ifs with tooLarge tooSmall
  · constructor
    · rintro ⟨⟩
    · omega
  · constructor
    · rintro ⟨⟩
    · omega
  · constructor
    · intro converted
      cases converted
      exact ⟨rfl,by omega,by omega⟩
    · rintro ⟨rfl,-,-⟩
      rfl

theorem quotaFromDecimalChecked_within {value : Rat} (nonneg : 0 ≤ value) :
    0 ≤ (quotaFromDecimalChecked value).1 ∧ (quotaFromDecimalChecked value).1 ≤ maxQuota := by
  have := roundHalfAway_nonneg nonneg
  unfold quotaFromDecimalChecked saturateQuota minQuota maxQuota
  split_ifs <;> dsimp only <;> omega

theorem roundHalfAway_mono {low high : Rat} (le : low ≤ high) :
    roundHalfAway low ≤ roundHalfAway high := by
  unfold roundHalfAway
  split_ifs with lowNonneg highNonneg highNonneg
  · exact Int.floor_le_floor (by linarith)
  · linarith
  · have negative : 0 ≤ ⌊-low + 1 / 2⌋ := Int.floor_nonneg.mpr (by linarith)
    have positive : 0 ≤ ⌊high + 1 / 2⌋ := Int.floor_nonneg.mpr (by linarith)
    omega
  · exact neg_le_neg (Int.floor_le_floor (by linarith))

end NewApi
