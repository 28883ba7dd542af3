import ValueAssertions.Proofs.Condition.NormalForm
import ValueAssertions.Template.Expression

/-!
# Comparisons of templates and of conditions

Blocks of templates compare tokens with literals, and conditions compare values with
references, each in their own way.  A block takes the order of the two sides, if they have
one, and asks for greater, less, or one of these or equal.  A condition looks for an
alternative among its references, and lets `lte` and `gte` exclude one order in place of
asking for two.

Six of the tests are operators of conditions under another name (`Test.operator?`), and the
two ways are one relation (`comparison_iff_isPass_evaluate`).  Where there is no order, as
with not-a-number, with values of different types, with arrays and with tokens that are not
there, both ways of asking have to say no, so that nothing gets in by being excluded from
nothing.
-/

namespace ValueAssertions.Template

/-- The operator that asks of a value what a test asks of a token.  Truth and the equality
that converts its sides are not asked for by any operator. -/
def Test.operator? : Test → Option Operator
  | .strictEq => some .eq
  | .strictNe => some .neq
  | .gt => some .gt
  | .gte => some .gte
  | .lt => some .lt
  | .lte => some .lte
  | .truthy => none
  | .eq => none
  | .ne => none

namespace Expression

/-- Orders are asked for alike on both sides; where there is none, both say no. -/
theorem ordered_eq_compares {token literal : Value} {accepts accepts' : Ordering → Bool}
    (haccepts : ∀ order, accepts order = accepts' order) :
    ordered token literal accepts = token.compares literal accepts' := by
  rw [ordered, Value.compares]
  cases token.compare? literal with
  | none => rfl
  | some order => exact haccepts order

theorem compares_eq_holds {test : Test} {operator : Operator}
    (htest : test.operator? = some operator) (token literal : Value) :
    compares test token literal = operator.holds token (.value literal) := by
  -- A single value is the only alternative of its reference.
  have hvalues : (Reference.value literal).valueList = [literal] := rfl
  cases test with
  | truthy | eq | ne => cases htest
  | strictEq =>
      obtain rfl := Option.some.inj htest
      rw [compares, Operator.holds, hvalues, List.any_cons, List.any_nil, Bool.or_false]
  | strictNe =>
      obtain rfl := Option.some.inj htest
      rw [compares, Operator.holds, hvalues, List.any_cons, List.any_nil, Bool.or_false]
  | gt | gte | lt | lte =>
      obtain rfl := Option.some.inj htest
      rw [compares, Operator.holds, hvalues, List.any_cons, List.any_nil, Bool.or_false]
      exact ordered_eq_compares (by decide)

end Expression

/-- A value is a reference for every operator that a test has. -/
theorem normal_value_of_operator? {test : Test} {operator : Operator}
    (htest : test.operator? = some operator) (r : Value) :
    (Clause.mk operator (.value r)).Normal := by
  -- These operators take any value: they ask neither for a string nor for a truth value.
  have hoperator : operator.isNested = false ∧ operator.isPattern = false ∧
      operator ≠ .type ∧ operator ≠ .integer := by
    cases test with
    | truthy | eq | ne => cases htest
    | strictEq | strictNe | gt | gte | lt | lte =>
        obtain rfl := Option.some.inj htest
        decide
  obtain ⟨hnested, hpattern, htype, hinteger⟩ := hoperator
  rw [Clause.Normal, Reference.Normal]
  exact ⟨hnested, hpattern, fun h => absurd h htype, fun h => absurd h hinteger⟩

/-- **Tests are operators.**  A block expression holds of a token and a literal exactly when
the value of the token, which is absent when the context does not have it, passes the
condition of the one clause that compares it with the literal. -/
theorem comparison_iff_isPass_evaluate {test : Test} {operator : Operator}
    (htest : test.operator? = some operator) (context : Context) (name : String)
    (literal : Value) :
    ∃ condition, Condition.clause operator (.value literal) = .ok condition ∧
      ((Expression.mk test name (some literal)).holds context = true ↔
        (condition.evaluate ((context.get? name).getD .undefined)).isPass = true) := by
  have hnormal := normal_value_of_operator? htest literal
  have hleaf : operator.isNested = false := hnormal.1
  refine ⟨.all [.mk operator (.value literal)], Condition.clause_of_normal hnormal, ?_⟩
  rw [Outcome.isPass_iff, evaluate_singleLeaf_eq_pass_iff hleaf,
    ← Expression.compares_eq_holds htest]
  rfl

/-- A token that is not there differs from not-a-number. -/
theorem absentToken_differs :
    Test.strictNe.operator? = some .neq ∧
      (Expression.mk .strictNe "size" (some (.number .nan))).holds .empty = true ∧
      ∃ condition, Condition.clause .neq (.value (.number .nan)) = .ok condition ∧
        ((Expression.mk .strictNe "size" (some (.number .nan))).holds .empty = true ↔
          (condition.evaluate ((Context.empty.get? "size").getD .undefined)).isPass = true) :=
  ⟨rfl, rfl, comparison_iff_isPass_evaluate rfl .empty "size" (.number .nan)⟩

end ValueAssertions.Template
