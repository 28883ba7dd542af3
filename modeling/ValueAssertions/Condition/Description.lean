import ValueAssertions.Condition.Basic
import ValueAssertions.Value.Text

/-!
# Conditions in words

A clause is described by a phrase such as `greater than or equal to 43`.  The
phrases of alternatives are joined by commas and `or`, those of clauses by `and`.
-/

namespace ValueAssertions

/-- What comes before the reference in the phrase of an operator. -/
def Operator.phrase : Operator → String
  | .type => "type "
  | .eq => ""
  | .neq => "not "
  | .lt => "less than "
  | .lte => "less than or equal to "
  | .gt => "greater than "
  | .gte => "greater than or equal to "
  | .integer => ""
  | .divides => "exact divider of "
  | .multiple => "exact multiple of "
  | .contains => "string containing "
  | .begins => "string beginning with "
  | .ends => "string ending with "
  | .matches => "string matching "
  | .containsNot => "string not containing "
  | .beginsNot => "string not beginning with "
  | .endsNot => "string not ending with "
  | .matchesNot => "string not matching "
  | .length => "length "
  | .each => ""

/-- The phrase of an alternative of `integer`. -/
def integerPhrase (v : Value) : String :=
  if v.asBool? = some false then "non-integer number" else "integer number"

mutual

/-- A reference in words. -/
def Reference.describe : Reference → String
  | .value v => v.quoted
  | .values vs => joinAlternatives (vs.map Value.quoted)
  | .pattern p => p.display
  | .patterns ps => joinAlternatives (ps.map Pattern.display)
  | .condition c => c.describe

/-- A clause in words. -/
def Clause.describe : Clause → String
  | .mk .integer reference => joinAlternatives (reference.valueList.map integerPhrase)
  | .mk operator reference => operator.phrase ++ reference.describe

/-- A condition in words. -/
def Condition.describe : Condition → String
  | .literal v => v.quoted
  | .all clauses => String.intercalate " and " (describeClauses clauses)
  | .any alternatives => joinAlternatives (describeConditions alternatives)

/-- The clauses of a list in words. -/
def describeClauses : List Clause → List String
  | [] => []
  | c :: rest => c.describe :: describeClauses rest

/-- The conditions of a list in words. -/
def describeConditions : List Condition → List String
  | [] => []
  | c :: rest => c.describe :: describeConditions rest

end

end ValueAssertions
