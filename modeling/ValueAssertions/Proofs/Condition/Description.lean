import ValueAssertions.Condition.Description

/-!
# Laws of description

A clause is described by the phrase of its operator and a description of its reference,
with the one exception of `integer`.  So the description of a condition is made from those
of its clauses or alternatives, and `length` and `each` pass on that of the condition that
they nest.
-/

namespace ValueAssertions

theorem describeClauses_eq_map (clauses : List Clause) :
    describeClauses clauses = clauses.map Clause.describe := by
  induction clauses with
  | nil => rfl
  | cons c rest ih => rw [describeClauses, ih, List.map_cons]

theorem describeConditions_eq_map (conditions : List Condition) :
    describeConditions conditions = conditions.map Condition.describe := by
  induction conditions with
  | nil => rfl
  | cons c rest ih => rw [describeConditions, ih, List.map_cons]

theorem describe_integer (reference : Reference) :
    (Clause.mk .integer reference).describe =
      joinAlternatives (reference.valueList.map integerPhrase) := by
  rw [Clause.describe]

theorem describe_of_ne_integer {operator : Operator} (hne : operator ≠ .integer)
    (reference : Reference) :
    (Clause.mk operator reference).describe = operator.phrase ++ reference.describe := by
  rw [Clause.describe]
  exact hne

/-- A bare value is described like the clause that it stands for. -/
theorem describe_bareValue (x : Value) :
    (Clause.mk .eq (.value x)).describe = (Condition.literal x).describe := by
  rw [describe_of_ne_integer (by decide), Reference.describe, Condition.describe]
  exact String.empty_append

theorem describe_single (clause : Clause) :
    (Condition.all [clause]).describe = clause.describe := by
  rw [Condition.describe, describeClauses_eq_map]
  rfl

theorem describe_length (c : Condition) :
    (Clause.mk .length (.condition c)).describe = "length " ++ c.describe := by
  rw [describe_of_ne_integer (by decide), Reference.describe]
  rfl

theorem describe_each (c : Condition) :
    (Clause.mk .each (.condition c)).describe = c.describe := by
  rw [describe_of_ne_integer (by decide), Reference.describe]
  exact String.empty_append

end ValueAssertions
