import ValueAssertions.Condition.Basic
import Mathlib.Logic.Function.Basic

/-!
# Kinds of operators and references

A reference holds values, patterns or a condition, and an operator works with one of
these kinds.  Documents name operators by keys: an operator is found again under its key,
and no other is, so that a statement about the keys of one kind is one about its
operators.
-/

namespace ValueAssertions

/-! ## Operators -/

namespace Operator

/-- No operator works both with conditions and with patterns. -/
theorem isPattern_of_isNested {operator : Operator} (h : operator.isNested = true) :
    operator.isPattern = false := by
  cases operator <;> first | rfl | cases h

theorem isNested_of_isPattern {operator : Operator} (h : operator.isPattern = true) :
    operator.isNested = false := by
  cases operator <;> first | rfl | cases h

/-- `type` and `integer`, which check their values, work with neither conditions nor
patterns. -/
theorem ne_type_and_ne_integer_of_isNested {operator : Operator} (h : operator.isNested = true) :
    operator ≠ .type ∧ operator ≠ .integer := by
  constructor <;> rintro rfl <;> cases h

theorem ne_type_and_ne_integer_of_isPattern {operator : Operator}
    (h : operator.isPattern = true) : operator ≠ .type ∧ operator ≠ .integer := by
  constructor <;> rintro rfl <;> cases h

theorem key_mem_nested_iff (operator : Operator) :
    operator.key ∈ ["length", "each"] ↔ operator.isNested = true := by
  cases operator <;> decide

theorem key_mem_pattern_iff (operator : Operator) :
    operator.key ∈ ["matches", "matchesNot"] ↔ operator.isPattern = true := by
  cases operator <;> decide

theorem key_eq_type_iff (operator : Operator) : operator.key = "type" ↔ operator = .type := by
  cases operator <;> decide

theorem key_eq_integer_iff (operator : Operator) :
    operator.key = "integer" ↔ operator = .integer := by
  cases operator <;> decide

theorem key_mem_other_iff (operator : Operator) :
    operator.key ∈ ["eq", "neq", "lt", "lte", "gt", "gte", "divides", "multiple", "contains",
        "begins", "ends", "containsNot", "beginsNot", "endsNot"] ↔
      operator.isNested = false ∧ operator.isPattern = false ∧ operator ≠ .type ∧
        operator ≠ .integer := by
  cases operator <;> decide

theorem ofKey?_key (operator : Operator) : ofKey? operator.key = some operator := by
  cases operator <;> rfl

theorem key_injective : Function.Injective key := by
  intro operator other heq
  exact Option.some.inj ((ofKey?_key operator).symm.trans (heq ▸ ofKey?_key other))

theorem ofKey?_eq_none_iff {key : String} :
    ofKey? key = none ↔ ∀ operator : Operator, operator.key ≠ key := by
  constructor
  · rintro hnone operator rfl
    rw [ofKey?_key] at hnone
    cases hnone
  · intro hkey
    rw [ofKey?, List.find?_eq_none]
    exact fun operator _ => by simp [hkey operator]

theorem exists_of_mem_keys {keys : List String}
    (hkeys : keys.all (fun key => (ofKey? key).isSome) = true) {key : String} (h : key ∈ keys) :
    ∃ operator : Operator, operator.key = key := by
  by_contra hnone
  have hsome := List.all_eq_true.mp hkeys key h
  rw [ofKey?_eq_none_iff.mpr fun operator heq => hnone ⟨operator, heq⟩] at hsome
  cases hsome

end Operator

/-! ## Kinds of references -/

/-- The kinds of references. -/
inductive ReferenceKind where
  | value
  | pattern
  | condition
deriving DecidableEq

/-- The kind of reference that an operator works with. -/
def Operator.referenceKind (operator : Operator) : ReferenceKind :=
  if operator.isNested then .condition
  else if operator.isPattern then .pattern
  else .value

namespace Reference

/-- What a reference holds, be it one or several. -/
def kind : Reference → ReferenceKind
  | .value _ => .value
  | .values _ => .value
  | .pattern _ => .pattern
  | .patterns _ => .pattern
  | .condition _ => .condition

section Values

variable {operator : Operator} {reference form : Reference}

/-- Values are checked for `type` and `integer`, and left as they are. -/
theorem toValues_of_kind (hkind : reference.kind = .value) :
    reference.toValues operator =
      if operator = .type ∧ !reference.valueList.all (·.asString?.isSome) then
        .error (.invalidReference operator .notTypeName)
      else if operator = .integer ∧ !reference.valueList.all (·.asBool?.isSome) then
        .error (.invalidReference operator .notBool)
      else .ok reference := by
  cases reference <;> first | rfl | cases hkind

theorem kind_of_toValues (h : reference.toValues operator = .ok form) :
    reference.kind = .value := by
  cases reference <;> first | rfl | cases h

end Values

end Reference

end ValueAssertions
