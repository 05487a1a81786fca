import Mathlib.Data.List.AList
import NewApi.QuotaMath
import NewApi.Errors

/-!
# The price of an asynchronous task

Products are exact here, and a Go map is ranged over in the order of its entries; the product does
not depend on it.
-/

namespace NewApi

open List

inductive GoFloat where
  | finite (value : Rat)
  | posInf
  | negInf
  | nan
deriving DecidableEq, Repr

/-- `int(value)` for a value in range: toward zero. -/
def truncate (value : Rat) : Int :=
  if 0 ≤ value then ⌊value⌋ else -⌊-value⌋

/-- `QuotaFromFloatChecked`. The bounds are whole, so a value is outside them exactly when its
whole part is; the clamp keeps the whole part. -/
def quotaFromFloatChecked (value : Rat) : Int × Option QuotaClamp :=
  saturateQuota (truncate value) "QuotaFromFloat"

def quotaFromFloat (value : Rat) : Int :=
  (quotaFromFloatChecked value).1

def quotaFromFloatStrict (value : Rat) : Except QuotaClamp Int :=
  strictQuota (quotaFromFloatChecked value)

/-- A Go map of ratios, with the order in which it is ranged over. -/
abbrev RatioTable := AList fun _ : String => GoFloat

def GoFloat.isPositive : GoFloat → Bool
  | .finite value => decide (0 < value)
  | .posInf => true
  | .negInf => false
  | .nan => false

def isValidOtherRatio (ratio : GoFloat) : Bool :=
  ratio.isPositive && decide (ratio ≠ .posInf)

/-- The number a valid ratio stands for. -/
def GoFloat.toRat : GoFloat → Rat
  | .finite value => value
  | _ => 1

/-- The ratios that `PriceData` keeps: only valid ones enter. -/
structure OtherRatios where
  table : RatioTable
  valid : ∀ entry ∈ table.entries, isValidOtherRatio entry.2 = true

namespace OtherRatios

def empty : OtherRatios where
  table := ∅
  valid := by simp

def add (ratios : OtherRatios) (key : String) (ratio : GoFloat) : OtherRatios :=
  if isValid : isValidOtherRatio ratio = true then
    { table := ratios.table.insert key ratio
      valid := by
        intro entry member
        rw [AList.entries_insert, mem_cons] at member
        rcases member with rfl | kept
        · exact isValid
        · exact ratios.valid entry ((kerase_sublist _ _).mem kept) }
  else ratios

def addAll (ratios : OtherRatios) (added : RatioTable) : OtherRatios :=
  added.entries.foldl (fun ratios entry => ratios.add entry.1 entry.2) ratios

end OtherRatios

def ratioProduct (table : RatioTable) : Rat :=
  (table.entries.map fun entry => entry.2.toRat).prod

theorem entries_perm_of_lookup {first second : RatioTable}
    (same : first.lookup = second.lookup) : first.entries.Perm second.entries := by
  apply lookup_ext first.nodupKeys second.nodupKeys
  intro key ratio
  have looked : first.entries.dlookup key = second.entries.dlookup key := congrFun same key
  rw [looked]

theorem ratioProduct_congr {first second : RatioTable} (same : first.lookup = second.lookup) :
    ratioProduct first = ratioProduct second :=
  ((entries_perm_of_lookup same).map _).prod_eq

structure PriceData where
  freeModel : Bool
  modelPrice : Rat
  modelRatio : Rat
  otherRatios : OtherRatios
  usePrice : Bool
  quota : Int
  groupRatio : Rat

namespace PriceData

def zero : PriceData where
  freeModel := false
  modelPrice := 0
  modelRatio := 0
  otherRatios := .empty
  usePrice := false
  quota := 0
  groupRatio := 0

variable (price : PriceData)

def addOtherRatio (key : String) (ratio : GoFloat) : PriceData :=
  { price with otherRatios := price.otherRatios.add key ratio }

def addOtherRatios (ratios : RatioTable) : PriceData :=
  { price with otherRatios := price.otherRatios.addAll ratios }

def replaceOtherRatios (ratios : RatioTable) : PriceData × Bool :=
  let replaced := OtherRatios.empty.addAll ratios
  ({ price with otherRatios := replaced }, !replaced.table.entries.isEmpty)

/-- The ratios that are multiplied with: a ratio of 1 is left out. -/
def factors : List Rat :=
  (price.otherRatios.table.entries.map fun entry => entry.2.toRat).filter fun ratio => ratio ≠ 1

def otherRatioMultiplier : Rat :=
  price.factors.foldl (fun multiplier ratio => multiplier * ratio) 1

def applyOtherRatiosToFloat (value : Rat) : Rat :=
  value * price.otherRatioMultiplier

def removeOtherRatiosFromFloat (value : Rat) : Rat :=
  price.factors.foldl (fun value ratio => value / ratio) value

theorem prod_filter_ne_one (ratios : List Rat) :
    (ratios.filter fun ratio => ratio ≠ 1).prod = ratios.prod := by
  induction ratios with
  | nil => rfl
  | cons ratio ratios induction =>
    by_cases one : ratio = 1
    · rw [filter_cons_of_neg (by simpa using one),induction,prod_cons,one,one_mul]
    · rw [filter_cons_of_pos (by simpa using one),prod_cons,prod_cons,induction]

theorem otherRatioMultiplier_eq :
    price.otherRatioMultiplier = ratioProduct price.otherRatios.table := by
  have folded : price.otherRatioMultiplier = price.factors.prod :=
    prod_eq_foldl.symm
  rw [folded,factors,prod_filter_ne_one]
  rfl

end PriceData

/-- What `ModelPriceHelperPerCall` reads of the settings at that time. `modelRatio` answers
`GetModelRatio`: the ratio, whether it is configured, and the name it was looked up under. -/
structure PriceSettings where
  groupRatio : Rat
  modelPrice : String → Option Rat
  defaultModelPrice : String → Option Rat
  modelRatio : String → Rat × Bool × String
  acceptUnsetRatioModel : Bool
  userIsAdmin : Bool
  quotaPerUnit : Rat
  enableFreeModelPreConsume : Bool
  /-- `QuotaClamp.Error`, which prints a float. -/
  clampText : QuotaClamp → String

def modelPriceNotConfiguredError (modelName : String) (isAdmin : Bool) : GoError :=
  if isAdmin then
    .message s!"模型 {modelName} 的价格未配置。请前往「系统设置 → 运营设置」开启自用模式，或在「系统设置 → 分组与模型定价设置」中为该模型配置价格；Model {modelName} price not configured. Go to System Settings → Operation Settings to enable self-use mode, or configure the model price in System Settings → Group & Model Pricing."
  else
    .message s!"模型 {modelName} 的价格尚未由管理员配置，暂时无法使用，请联系站点管理员开启该模型；Model {modelName} has not been priced by the administrator yet. Please contact the site administrator to enable this model."

def PriceSettings.unitPrice (settings : PriceSettings) (modelName : String) :
    Except GoError (Bool × Rat) :=
  match settings.modelPrice modelName with
  | some price => .ok (true, price)
  | none =>
    match settings.defaultModelPrice modelName with
    | some price => .ok (true, price)
    | none =>
      let (ratio, configured, matchName) := settings.modelRatio modelName
      if !configured && !settings.acceptUnsetRatioModel then
        .error (modelPriceNotConfiguredError matchName settings.userIsAdmin)
      else .ok (false, ratio)

def modelPriceHelperPerCall (settings : PriceSettings) (modelName : String) :
    Except GoError PriceData := do
  let (usePrice, unit) ← settings.unitPrice modelName
  let perCall := if usePrice then unit else unit / 2
  match quotaFromFloatStrict (perCall * settings.quotaPerUnit * settings.groupRatio) with
  | .error clamp => .error (.message (settings.clampText clamp))
  | .ok quota =>
    let free := !settings.enableFreeModelPreConsume &&
      decide (settings.groupRatio = 0 ∨ unit = 0)
    .ok
      { freeModel := free
        modelPrice := if usePrice then unit else -1
        modelRatio := if usePrice then 0 else unit
        otherRatios := .empty
        usePrice := usePrice
        quota := if free then 0 else quota
        groupRatio := settings.groupRatio }

theorem modelPriceHelperPerCall_ok {settings : PriceSettings} {modelName : String}
    {price : PriceData} (priced : modelPriceHelperPerCall settings modelName = .ok price) :
    price.otherRatios = .empty ∧ (price.freeModel = true → price.quota = 0) := by
  unfold modelPriceHelperPerCall at priced
  cases unit : settings.unitPrice modelName with
  | error => simp [unit,bind,Except.bind] at priced
  | ok =>
    simp only [unit,bind,Except.bind] at priced
    split at priced
    · cases priced
    · cases priced
      refine ⟨rfl,fun free => ?_⟩
      rw [if_pos free]

end NewApi
