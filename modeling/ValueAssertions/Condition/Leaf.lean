import ValueAssertions.Condition.Basic
import ValueAssertions.Value.Text
import ValueAssertions.Number.Arithmetic

/-!
# Leaf operators

A leaf operator looks at the value itself.  It holds when some alternative of its
reference stands in the operator's relation with the value; a negated operator
holds when none does.  The operators on text hold of strings only, negated or
not.
-/

namespace ValueAssertions

/-- Whether two values have an order and it is one of those accepted. -/
def Value.compares (v r : Value) (accepts : Ordering → Bool) : Bool :=
  match v.compare? r with
  | some order => accepts order
  | none => false

/-- Whether a value is a whole number, or for `false` any other number. -/
def Value.isIntegerAs (v r : Value) : Bool :=
  match r with
  | .bool true => v.isInteger
  | .bool false => v.asNumber?.isSome && !v.isInteger
  | _ => false

/-- Whether the first of two numbers is an exact multiple of the second. -/
def Value.isMultipleOf (a b : Value) : Bool :=
  match a, b with
  | .number m, .number n => Number.isExactQuotient m n
  | _, _ => false

/-- The text that an alternative of a text operator stands for. -/
def Value.needle (r : Value) : List Char :=
  r.plain.toList

/-- Whether a text stands to an alternative as a text operator asks, its negation
left aside. -/
def Operator.holdsOfText (operator : Operator) (text : List Char) (r : Value) : Bool :=
  match operator with
  | .contains | .containsNot => occursIn r.needle text
  | .begins | .beginsNot => r.needle.isPrefixOf text
  | .ends | .endsNot => r.needle.isSuffixOf text
  | _ => false

/-- Whether a leaf operator holds of a value. -/
def Operator.holds (operator : Operator) (v : Value) (reference : Reference) : Bool :=
  let alternatives := reference.valueList
  match operator with
  | .type => alternatives.any fun r => r.asString? == some v.typeTag
  | .eq => alternatives.any fun r => v == r
  | .neq => !alternatives.any fun r => v == r
  | .lt => alternatives.any fun r => v.compares r (· == .lt)
  | .lte => alternatives.any fun r => v.compares r (· != .gt)
  | .gt => alternatives.any fun r => v.compares r (· == .gt)
  | .gte => alternatives.any fun r => v.compares r (· != .lt)
  | .integer => alternatives.any fun r => v.isIntegerAs r
  | .divides => alternatives.any fun r => r.isMultipleOf v
  | .multiple => alternatives.any fun r => v.isMultipleOf r
  | .contains | .begins | .ends | .containsNot | .beginsNot | .endsNot =>
    match v with
    | .string s => (alternatives.any (operator.holdsOfText s.toList)) != operator.isNegated
    | _ => false
  | .matches | .matchesNot =>
    match v with
    | .string s => (reference.patternList.any (·.isFoundIn s)) != operator.isNegated
    | _ => false
  | .length | .each => false

end ValueAssertions
