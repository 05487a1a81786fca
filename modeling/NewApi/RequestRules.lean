import Mathlib.Data.Rat.Defs

/-!
# Tracing the request rules of a billing expression

A ternary between a number and 1 on a probe of the request is compiled as a call that also notes
whether it matched.
-/

namespace NewApi

/-- The literals of `IntegerNode` and `FloatNode`. -/
inductive ExprNumber where
  | integer (value : Int)
  | float (value : Rat)

namespace ExprNumber

def toFloat : ExprNumber → Rat
  | integer value => value
  | float value => value

/-- What the trace function of a multiplier returns when the rule does not match. -/
def unmatched : ExprNumber → ExprNumber
  | integer _ => integer 1
  | float _ => float 1

/-- An integer is compiled only between two integers. -/
def multiplierNode : ExprNumber → ExprNumber → ExprNumber
  | integer multiplier, integer _ => integer multiplier
  | multiplier, _ => float multiplier.toFloat

theorem multiplierNode_eq {multiplier fallback : ExprNumber}
    (kinds : multiplier.unmatched = fallback.unmatched) :
    multiplier.multiplierNode fallback = multiplier := by
  cases multiplier <;> cases fallback <;> simp_all [unmatched,multiplierNode,toFloat]

theorem unmatched_eq {fallback : ExprNumber} (one : fallback.toFloat = 1) :
    fallback.unmatched = fallback := by
  cases fallback <;> simp_all [unmatched,toFloat]

end ExprNumber

/-- Expression trees. The operands of a `node` are a chain of nodes that hand them on, a callee is
the first operand, and `trace` is the call that the patch puts in. -/
inductive BillingExpr (Op : Type) where
  | number (value : ExprNumber)
  | identifier (name : String)
  | noOperands
  | node (op : Op) (first rest : BillingExpr Op)
  | conditional (ternary : Bool) (cond exp1 exp2 : BillingExpr Op)
  | trace (ruleIndex : Nat) (cond : BillingExpr Op) (multiplier : ExprNumber)

namespace BillingExpr

variable {Op : Type}

def usesRequestProbe : BillingExpr Op → Bool
  | number _ | noOperands => false
  | identifier name => name ∈ ["param", "header", "hour", "minute", "weekday", "month", "day"]
  | node _ first rest => first.usesRequestProbe || rest.usesRequestProbe
  | conditional _ cond exp1 exp2 =>
    cond.usesRequestProbe || exp1.usesRequestProbe || exp2.usesRequestProbe
  | trace _ cond _ => cond.usesRequestProbe

def requestRuleNumber : BillingExpr Op → Option ExprNumber
  | number value => some value
  | _ => none

/-- The two numbers of a conditional that is a request rule. -/
def requestRule (ternary : Bool) (cond exp1 exp2 : BillingExpr Op) :
    Option (ExprNumber × ExprNumber) :=
  match exp1.requestRuleNumber, exp2.requestRuleNumber with
  | some multiplier, some fallback =>
    if ternary && cond.usesRequestProbe && fallback.toFloat = 1 then some (multiplier, fallback)
    else none
  | _, _ => none

/-- The visitor sees the children first and counts the rules. -/
def patch : BillingExpr Op → Nat → BillingExpr Op × Nat
  | node op first rest, rules =>
    let (first, rules) := first.patch rules
    let (rest, rules) := rest.patch rules
    (node op first rest, rules)
  | conditional ternary cond exp1 exp2, rules =>
    let (cond, rules) := cond.patch rules
    let (exp1, rules) := exp1.patch rules
    let (exp2, rules) := exp2.patch rules
    match requestRule ternary cond exp1 exp2 with
    | some (multiplier, fallback) => (trace rules cond (multiplier.multiplierNode fallback), rules + 1)
    | none => (conditional ternary cond exp1 exp2, rules)
  | trace ruleIndex cond multiplier, rules =>
    let (cond, rules) := cond.patch rules
    (trace ruleIndex cond multiplier, rules)
  | expr, rules => (expr, rules)

def rules : BillingExpr Op → Nat
  | number _ | identifier _ | noOperands => 0
  | node _ first rest => first.rules + rest.rules
  | conditional ternary cond exp1 exp2 => cond.rules + exp1.rules + exp2.rules +
      if (requestRule ternary cond exp1 exp2).isSome then 1 else 0
  | trace _ cond _ => cond.rules

/-- The two numbers of every rule are integers, or neither is. -/
def OneKind : BillingExpr Op → Prop
  | number _ | identifier _ | noOperands => True
  | node _ first rest => first.OneKind ∧ rest.OneKind
  | conditional ternary cond exp1 exp2 => cond.OneKind ∧ exp1.OneKind ∧ exp2.OneKind ∧
      ∀ rule ∈ requestRule ternary cond exp1 exp2, rule.1.unmatched = rule.2.unmatched
  | trace _ cond _ => cond.OneKind

theorem requestRule_some {ternary : Bool} {cond exp1 exp2 : BillingExpr Op}
    {multiplier fallback : ExprNumber}
    (rule : requestRule ternary cond exp1 exp2 = some (multiplier, fallback)) :
    exp1 = number multiplier ∧ exp2 = number fallback ∧ cond.usesRequestProbe ∧
      fallback.toFloat = 1 := by
  cases exp1 <;> cases exp2 <;> simp_all [requestRule,requestRuleNumber]
  grind

section

variable (expr : BillingExpr Op) (found : Nat)

@[simp]
theorem usesRequestProbe_patch :
    (expr.patch found).1.usesRequestProbe = expr.usesRequestProbe := by
  induction expr generalizing found with
  | conditional ternary cond exp1 exp2 ihCond =>
    simp only [patch]
    split
    next rule =>
      have probe := (requestRule_some rule).2.2.1
      rw [ihCond] at probe
      simp [usesRequestProbe,ihCond,probe]
    next => simp [usesRequestProbe, *]
  | _ => simp [patch,usesRequestProbe, *]

@[simp]
theorem requestRuleNumber_patch :
    (expr.patch found).1.requestRuleNumber = expr.requestRuleNumber := by
  cases expr with
  | conditional =>
    simp only [patch]
    split <;> rfl
  | _ => rfl

/-- Patching the parts makes no rule and hides none. -/
@[simp]
theorem requestRule_patch (ternary : Bool) (cond exp1 exp2 : BillingExpr Op) (n1 n2 n3 : Nat) :
    requestRule ternary (cond.patch n1).1 (exp1.patch n2).1 (exp2.patch n3).1 =
      requestRule ternary cond exp1 exp2 := by
  simp [requestRule]

theorem patch_rules : (expr.patch found).2 = found + expr.rules := by
  induction expr generalizing found with
  | conditional =>
    simp only [patch,rules]
    split <;> simp_all <;> omega
  | _ => simp [patch,rules,Nat.add_assoc, *]

end

end BillingExpr

/-- The documented evaluation: literals, identifiers, strict operators that may change the state
of the tiers, conditions that have to be booleans, and what a Go function takes for a `bool`. -/
structure ExprSemantics (Op State Error Value : Type) where
  number : ExprNumber → Value
  identifier : String → Value
  apply : Op → List Value → State → Except Error (List Value) × State
  condition : List Value → Option Bool
  boolArgument : List Value → Except Error Bool
  boolArgument_eq {values : List Value} {matched : Bool} :
    condition values = some matched → boolArgument values = .ok matched

/-- A run also keeps the matched rules. It fails with `none` on a condition that is no boolean. -/
abbrev ExprRun (State Error Value : Type) :=
  State × List Nat → Except (Option Error) (List Value) × State × List Nat

section

variable {Op State Error Value : Type}

def ExprRun.bind (run : ExprRun State Error Value)
    (next : List Value → ExprRun State Error Value) : ExprRun State Error Value := fun before =>
  match run before with
  | (.ok values, after) => next values after
  | (.error error, after) => (.error error, after)

variable (semantics : ExprSemantics Op State Error Value) (requestRules : Nat)

/-- The trace function for a table of `requestRules` rules. -/
def ExprSemantics.traceRule (ruleIndex : Nat) (multiplier : ExprNumber) (cond : List Value) :
    ExprRun State Error Value := fun before =>
  match semantics.boolArgument cond with
  | .error error => (.error (some error), before)
  | .ok true => (.ok [semantics.number multiplier], before.1,
      if ruleIndex < requestRules then ruleIndex :: before.2 else before.2)
  | .ok false => (.ok [semantics.number multiplier.unmatched], before)

/-- An observer that starts with a number counts the conditionals that are rules in the order of
the visitor and keeps those evaluated with a true condition. -/
def BillingExpr.eval : BillingExpr Op → Option Nat → ExprRun State Error Value
  | number value, _ => (.ok [semantics.number value], ·)
  | identifier name, _ => (.ok [semantics.identifier name], ·)
  | noOperands, _ => (.ok [], ·)
  | node op first rest, observer => (first.eval observer).bind fun value =>
    (rest.eval (observer.map (· + first.rules))).bind fun values before =>
      let (result, after) := semantics.apply op (value ++ values) before.1
      (result.mapError some, after, before.2)
  | conditional ternary cond exp1 exp2, observer => (cond.eval observer).bind fun value before =>
    match semantics.condition value with
    | none => (.error none, before)
    | some true => exp1.eval (observer.map (· + cond.rules)) (before.1,
        match observer, requestRule ternary cond exp1 exp2 with
        | some found, some _ => (found + cond.rules + exp1.rules + exp2.rules) :: before.2
        | _, _ => before.2)
    | some false => exp2.eval (observer.map (· + cond.rules + exp1.rules)) before
  | trace ruleIndex cond multiplier, observer =>
    (cond.eval observer).bind (semantics.traceRule requestRules ruleIndex multiplier)

/-- The second run is the first, unless a condition is no boolean there. -/
def ExprRun.Keeps (first second : ExprRun State Error Value) : Prop :=
  ∀ before, (first before).1 ≠ .error none → second before = first before

theorem ExprRun.Keeps.bind {first second : ExprRun State Error Value}
    {next next' : List Value → ExprRun State Error Value} (keeps : first.Keeps second)
    (later : ∀ values, (next values).Keeps (next' values)) :
    (first.bind next).Keeps (second.bind next') := by
  intro before boolean
  have same : second before = first before := by
    refine keeps before fun failed => boolean ?_
    rw [ExprRun.bind]
    split
    next ran => simp [ran] at failed
    next ran => simpa [ran] using failed
  simp only [ExprRun.bind,same] at boolean ⊢
  split
  next values after ran =>
    rw [ran] at boolean
    exact later values after boolean
  next => rfl

theorem BillingExpr.patch_keeps {expr : BillingExpr Op} {found : Nat} (kinds : expr.OneKind)
    (within : found + expr.rules ≤ requestRules) :
    (expr.eval semantics requestRules (some found)).Keeps
      ((expr.patch found).1.eval semantics requestRules none) := by
  induction expr generalizing found with
  | number | identifier | noOperands => exact fun _ _ => rfl
  | node op first rest ihFirst ihRest =>
    simp only [rules] at within
    simp only [patch,patch_rules]
    refine (ihFirst kinds.1 (by omega)).bind fun _ => ?_
    have later := @ihRest (found + first.rules) kinds.2 (by omega)
    exact later.bind fun _ _ _ => rfl
  | trace ruleIndex cond multiplier ih => exact (ih kinds within).bind fun _ _ _ => rfl
  | conditional ternary cond exp1 exp2 ihCond ihExp1 ihExp2 =>
    obtain ⟨kindCond,kind1,kind2,oneKind⟩ := kinds
    simp only [rules] at within
    simp only [patch,requestRule_patch,patch_rules]
    rcases rule : requestRule ternary cond exp1 exp2 with _ | ⟨multiplier,fallback⟩
    · refine (ihCond kindCond (by omega)).bind fun value before boolean => ?_
      rcases matched : semantics.condition value with _ | _ | _
      · rfl
      · rw [matched] at boolean
        exact ihExp2 kind2 (by omega) before boolean
      · simp only [matched,rule] at boolean ⊢
        exact ihExp1 kind1 (by omega) before boolean
    · obtain ⟨rfl,rfl,-,one⟩ := requestRule_some rule
      have sameKind := oneKind _ rule
      refine (ihCond kindCond (by omega)).bind fun value before boolean => ?_
      rcases matched : semantics.condition value with _ | _ | _
      · simp [matched] at boolean
      · simp only [ExprSemantics.traceRule,semantics.boolArgument_eq matched,
          ExprNumber.multiplierNode_eq sameKind,sameKind,ExprNumber.unmatched_eq one]
        rfl
      · have inTable : found + cond.rules < requestRules := by
          simp only [rule,Option.isSome_some,if_true] at within
          omega
        simp only [ExprSemantics.traceRule,semantics.boolArgument_eq matched,
          ExprNumber.multiplierNode_eq sameKind,rule,rules,Nat.add_zero,inTable]
        rfl

end

inductive SampleOp where
  | headerIs | typeIsInt

/-- `header(..) == ".."` holds and `type(..) == "int"` looks at the kind of a number. -/
def sampleSemantics : ExprSemantics SampleOp Unit Empty (ExprNumber ⊕ Bool) where
  number := .inl
  identifier _ := .inr false
  apply
    | .headerIs, _, tiers => (.ok [.inr true], tiers)
    | .typeIsInt, [.inl (.integer _)], tiers => (.ok [.inr true], tiers)
    | .typeIsInt, _, tiers => (.ok [.inr false], tiers)
  condition
    | [.inr matched] => some matched
    | _ => none
  boolArgument
    | [.inr matched] => .ok matched
    | _ => .ok false
  boolArgument_eq {values matched} isBool := by
    split at isBool <;> simp_all

/-- `type(header(..) == ".." ? 2 : 1.0) == "int" ? 5 : 7`. -/
def mixedKinds : BillingExpr SampleOp :=
  .conditional true
    (.node .typeIsInt
      (.conditional true (.node .headerIs (.identifier "header") .noOperands)
        (.number (.integer 2)) (.number (.float 1))) .noOperands)
    (.number (.integer 5)) (.number (.integer 7))

end NewApi
