import ValueAssertions.Pattern
import ValueAssertions.Value.Basic

/-!
# Conditions

A condition is a bare value, a list of clauses that must all hold, or a list of
alternatives of which one must hold.  A clause is an operator with its reference,
and a reference is one value or pattern, a list of alternatives, or a condition.

`Clause.build` checks a reference against the operator and gives it the form that
the operator expects; `Clause.Normal` says what that form is.
-/

namespace ValueAssertions

mutual

/-- What an operator compares a value with. -/
inductive Reference where
  /-- One value. -/
  | value (value : Value)
  /-- Any of several values. -/
  | values (values : List Value)
  /-- One pattern. -/
  | pattern (pattern : Pattern)
  /-- Any of several patterns. -/
  | patterns (patterns : List Pattern)
  /-- A condition on a part of the value. -/
  | condition (condition : Condition)

/-- An operator with its reference. -/
inductive Clause where
  | mk (operator : Operator) (reference : Reference)

/-- A constraint on a value. -/
inductive Condition where
  /-- Equality with a value. -/
  | literal (value : Value)
  /-- Clauses that must all hold, checked in order. -/
  | all (clauses : List Clause)
  /-- Alternatives, of which one must hold. -/
  | any (alternatives : List Condition)

end

instance : Inhabited Condition := ⟨.all []⟩

namespace Clause

/-- The operator of a clause. -/
def operator : Clause → Operator
  | .mk operator _ => operator

/-- The reference of a clause. -/
def reference : Clause → Reference
  | .mk _ reference => reference

end Clause

namespace Reference

/-- The values among which a value may be found. -/
def valueList : Reference → List Value
  | .value v => [v]
  | .values vs => vs
  | _ => []

/-- The patterns of which one may be found. -/
def patternList : Reference → List Pattern
  | .pattern p => [p]
  | .patterns ps => ps
  | _ => []

/-- The nested condition. -/
def condition? : Reference → Option Condition
  | .condition c => some c
  | _ => none

/-- Whether the reference is a list of alternatives. -/
def isList : Reference → Bool
  | .values _ => true
  | .patterns _ => true
  | _ => false

end Reference

/-! ## Equality -/

/-- Equality of lists of patterns. -/
def samePatterns : List Pattern → List Pattern → Bool
  | [], [] => true
  | a :: as, b :: bs => a == b && samePatterns as bs
  | _, _ => false

mutual

/-- Equality of references: values are compared as values, patterns by their
texts. -/
def Reference.same : Reference → Reference → Bool
  | .value a, .value b => a == b
  | .values as, .values bs => Value.sameItems as bs
  | .pattern a, .pattern b => a == b
  | .patterns as, .patterns bs => samePatterns as bs
  | .condition a, .condition b => a.same b
  | _, _ => false

/-- Equality of clauses. -/
def Clause.same : Clause → Clause → Bool
  | .mk o r, .mk p s => o == p && r.same s

/-- Equality of conditions. -/
def Condition.same : Condition → Condition → Bool
  | .literal a, .literal b => a == b
  | .all as, .all bs => sameClauses as bs
  | .any as, .any bs => sameConditions as bs
  | _, _ => false

/-- Equality of lists of clauses. -/
def sameClauses : List Clause → List Clause → Bool
  | [], [] => true
  | a :: as, b :: bs => a.same b && sameClauses as bs
  | _, _ => false

/-- Equality of lists of conditions. -/
def sameConditions : List Condition → List Condition → Bool
  | [], [] => true
  | a :: as, b :: bs => a.same b && sameConditions as bs
  | _, _ => false

end

instance : BEq Reference := ⟨Reference.same⟩

instance : BEq Clause := ⟨Clause.same⟩

instance : BEq Condition := ⟨Condition.same⟩

/-! ## Building clauses -/

/-- The literal pattern of a value that is text. -/
def patternOfValue (operator : Operator) : Value → Except ConditionError Pattern
  | .string source => Pattern.literal source
  | _ => .error (.invalidReference operator .notPatternText)

/-- The literal patterns of values that are texts, up to the first that is not. -/
def patternsOfValues (operator : Operator) : List Value → Except ConditionError (List Pattern)
  | [] => .ok []
  | v :: rest => do
    let pattern ← patternOfValue operator v
    return pattern :: (← patternsOfValues operator rest)

namespace Reference

/-- The form that `length` and `each` expect: values become literals. -/
def toNested (operator : Operator) : Reference → Except ConditionError Reference
  | .condition c => .ok (.condition c)
  | .value v => .ok (.condition (.literal v))
  | .values vs => .ok (.condition (.any (vs.map Condition.literal)))
  | _ => .error (.invalidReference operator .notCondition)

/-- The form that pattern operators expect: texts become literal patterns. -/
def toPatterns (operator : Operator) : Reference → Except ConditionError Reference
  | .pattern p => .ok (.pattern p)
  | .patterns ps => .ok (.patterns ps)
  | .value (.string source) => return .pattern (← Pattern.literal source)
  | .values vs => return .patterns (← patternsOfValues operator vs)
  | _ => .error (.invalidReference operator .notPattern)

/-- The form that all other operators expect: values, which are names of types for
`type` and truth values for `integer`. -/
def toValues (operator : Operator) (reference : Reference) : Except ConditionError Reference :=
  match reference with
  | .value _ | .values _ =>
    if operator = .type ∧ !reference.valueList.all (·.asString?.isSome) then
      .error (.invalidReference operator .notTypeName)
    else if operator = .integer ∧ !reference.valueList.all (·.asBool?.isSome) then
      .error (.invalidReference operator .notBool)
    else .ok reference
  | _ => .error (.invalidReference operator .notValue)

/-- The form that an operator expects of its reference. -/
def normalize (operator : Operator) (reference : Reference) : Except ConditionError Reference :=
  if operator.isNested then reference.toNested operator
  else if operator.isPattern then reference.toPatterns operator
  else reference.toValues operator

end Reference

/-- The clause of an operator and a reference, if the reference suits it. -/
def Clause.build (operator : Operator) (reference : Reference) : Except ConditionError Clause :=
  return .mk operator (← reference.normalize operator)

namespace Condition

/-- The condition of a single clause. -/
def clause (operator : Operator) (reference : Reference) : Except ConditionError Condition :=
  return .all [← Clause.build operator reference]

/-- The condition with one more clause that must hold.  A bare value becomes the
clause that it stands for; alternatives take no clause. -/
def and (condition : Condition) (operator : Operator) (reference : Reference) :
    Except ConditionError Condition := do
  let clause ← Clause.build operator reference
  match condition with
  | .all clauses => return .all (clauses ++ [clause])
  | .literal v => return .all [.mk .eq (.value v), clause]
  | .any _ => .error .clauseOnAlternatives

end Condition

/-! ## Normal form -/

/-- Whether a value is a string. -/
def Value.IsString (v : Value) : Prop :=
  v.asString?.isSome

/-- Whether a value is a truth value. -/
def Value.IsBool (v : Value) : Prop :=
  v.asBool?.isSome

mutual

/-- A reference is normal for an operator when it is a condition of normal clauses
for `length` and `each`, patterns for `matches` and `matchesNot`, and values
otherwise, which are strings for `type` and truth values for `integer`. -/
def Reference.Normal (operator : Operator) : Reference → Prop
  | .condition c => operator.isNested = true ∧ c.Normal
  | .pattern _ => operator.isPattern = true
  | .patterns _ => operator.isPattern = true
  | .value v =>
    operator.isNested = false ∧ operator.isPattern = false ∧
      (operator = .type → v.IsString) ∧ (operator = .integer → v.IsBool)
  | .values vs =>
    operator.isNested = false ∧ operator.isPattern = false ∧
      (operator = .type → ∀ v ∈ vs, v.IsString) ∧ (operator = .integer → ∀ v ∈ vs, v.IsBool)

/-- A clause is normal when its reference is normal for its operator. -/
def Clause.Normal : Clause → Prop
  | .mk operator reference => reference.Normal operator

/-- A condition is normal when all its clauses are, at every depth. -/
def Condition.Normal : Condition → Prop
  | .literal _ => True
  | .all clauses => ClausesNormal clauses
  | .any alternatives => ConditionsNormal alternatives

/-- All clauses of a list are normal. -/
def ClausesNormal : List Clause → Prop
  | [] => True
  | c :: rest => c.Normal ∧ ClausesNormal rest

/-- All conditions of a list are normal. -/
def ConditionsNormal : List Condition → Prop
  | [] => True
  | c :: rest => c.Normal ∧ ConditionsNormal rest

end

end ValueAssertions
