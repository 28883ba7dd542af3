/-!
# Operators

An operator says how a value must stand to the reference of a clause.  Each has a
key, under which documents know it.
-/

namespace ValueAssertions

/-- The operators of conditions. -/
inductive Operator where
  /-- The tag of the value's type. -/
  | type
  /-- Equal to the reference. -/
  | eq
  /-- Not equal to the reference. -/
  | neq
  /-- Less than the reference. -/
  | lt
  /-- Less than the reference or equal to it. -/
  | lte
  /-- Greater than the reference. -/
  | gt
  /-- Greater than the reference or equal to it. -/
  | gte
  /-- A whole number, or one with a fraction. -/
  | integer
  /-- Dividing the reference exactly. -/
  | divides
  /-- An exact multiple of the reference. -/
  | multiple
  /-- A string with the reference in it. -/
  | contains
  /-- A string with the reference at its start. -/
  | begins
  /-- A string with the reference at its end. -/
  | ends
  /-- A string in which the pattern is found. -/
  | matches
  /-- A string without the reference in it. -/
  | containsNot
  /-- A string without the reference at its start. -/
  | beginsNot
  /-- A string without the reference at its end. -/
  | endsNot
  /-- A string in which the pattern is not found. -/
  | matchesNot
  /-- A nested condition on the length. -/
  | length
  /-- A nested condition on every element. -/
  | each
deriving DecidableEq

namespace Operator

/-- All operators. -/
def all : List Operator := [
  .type, .eq, .neq, .lt, .lte, .gt, .gte, .integer, .divides, .multiple, .contains, .begins,
  .ends, .matches, .containsNot, .beginsNot, .endsNot, .matchesNot, .length, .each]

/-- The key of an operator. -/
def key : Operator → String
  | .type => "type"
  | .eq => "eq"
  | .neq => "neq"
  | .lt => "lt"
  | .lte => "lte"
  | .gt => "gt"
  | .gte => "gte"
  | .integer => "integer"
  | .divides => "divides"
  | .multiple => "multiple"
  | .contains => "contains"
  | .begins => "begins"
  | .ends => "ends"
  | .matches => "matches"
  | .containsNot => "containsNot"
  | .beginsNot => "beginsNot"
  | .endsNot => "endsNot"
  | .matchesNot => "matchesNot"
  | .length => "length"
  | .each => "each"

/-- The operator with a key. -/
def ofKey? (key : String) : Option Operator :=
  all.find? fun operator => operator.key == key

/-- Whether the reference is a condition. -/
def isNested : Operator → Bool
  | .length => true
  | .each => true
  | _ => false

/-- Whether the reference is one pattern or several. -/
def isPattern : Operator → Bool
  | .matches => true
  | .matchesNot => true
  | _ => false

/-- Whether the operator asks that none of its alternatives hold. -/
def isNegated : Operator → Bool
  | .neq => true
  | .containsNot => true
  | .beginsNot => true
  | .endsNot => true
  | .matchesNot => true
  | _ => false

end Operator

end ValueAssertions
