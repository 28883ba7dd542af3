import ValueAssertions.Proofs.Condition.Evaluation
import Mathlib.Logic.Function.Iterate

/-!
# What a failure points at

The path of a failure says how to get from the value to what was wrong with it:
first into elements, then to lengths, and at last to a check that fails there.
`Locates` spells that out for all fields of a failure at once, and
`locates_of_evaluate_eq_fail` shows it of every failure of a normal condition.

The fields of a failure are written where the check fails and changed on the way
back: `length` puts a step before the path and a word before the phrase
(`Locates.underLength`), `each` puts a step before the path and replaces the index
(`Locates.underEach`).  No element is ever below a length, since a length is no
array; this is why the path can be read as elements first and lengths second.
-/

namespace ValueAssertions

/-- The value reached by going into elements, one index for each level. -/
def Value.elementAt? : Value → List Nat → Option Value
  | v, [] => some v
  | .array items, i :: rest => items[i]?.bind fun item => item.elementAt? rest
  | _, _ :: _ => none

theorem Value.eq_nil_of_elementAt?_eq_some {v element : Value} {indices : List Nat}
    (harray : ¬ v.IsArray) (h : v.elementAt? indices = some element) :
    indices = [] ∧ element = v := by
  cases indices with
  | nil => exact ⟨rfl, (Option.some.inj h).symm⟩
  | cons i rest =>
      cases v with
      | array items => exact absurd ⟨items, rfl⟩ harray
      | _ => cases h

/-- What a failure says of the value at the end of its path, by the last step of
the path: an operator that fails there with the reported reference, elements that
are wanted of something else than an array, or alternatives. -/
inductive Blames (x : Value) (lengths : Nat) (failure : Failure) : FailedCheck → Prop
  | operator {operator : Operator} (hne : operator ≠ .each)
      (hfails : ((Condition.all [.mk operator failure.reference]).evaluate x).isPass = false)
      (hactual : failure.actual = if operator = .type then .string x.typeTag else x)
      (hdetails : failure.details =
        ("length " ++ ·)^[lengths] (Clause.mk operator failure.reference).describe) :
      Blames x lengths failure (.operator operator)
  | each {nested : Condition} (harray : ¬ x.IsArray) (hactual : failure.actual = x)
      (hreference : failure.reference = .condition nested)
      (hdetails : failure.details = ("length " ++ ·)^[lengths] "array") :
      Blames x lengths failure (.operator .each)
  | alternatives {clauses : List Clause} (hactual : failure.actual = x)
      (hreference : failure.reference = .condition (.all clauses)) :
      Blames x lengths failure .alternatives

/-- The path of a failure leads from the value into elements, the first of which is
the one at the reported index, then to lengths, and to what the failure blames. -/
def Locates (v : Value) (failure : Failure) : Prop :=
  ∃ (indices : List Nat) (lengths : Nat) (leaf : FailedCheck) (element : Value),
    failure.check = FailedCheck.each^[indices.length] (FailedCheck.length^[lengths] leaf) ∧
      failure.index = indices.head? ∧
      v.elementAt? indices = some element ∧
      Blames (Value.lengthValue^[lengths] element) lengths failure leaf

/-! ## Where a check fails -/

/-- A failure blames the value itself when its path is a single step. -/
theorem Locates.here {v : Value} {failure : Failure} {leaf : FailedCheck}
    (hcheck : failure.check = leaf) (hindex : failure.index = none)
    (hblames : Blames v 0 failure leaf) : Locates v failure :=
  ⟨[], 0, leaf, v, hcheck, hindex, rfl, hblames⟩

theorem locates_of_evaluateLeaf_eq_fail {v : Value} {operator : Operator}
    {reference : Reference} {failure : Failure} (hleaf : operator.isNested = false)
    (hfail : evaluateLeaf v operator reference = .fail failure) : Locates v failure := by
  obtain ⟨hholds, rfl⟩ := evaluateLeaf_eq_fail_iff.mp hfail
  have hne : operator ≠ .each := by
    rintro rfl
    cases hleaf
  refine .here rfl rfl (.operator hne ?_ rfl rfl)
  rw [← Bool.not_eq_true, Outcome.isPass_iff, evaluate_singleLeaf_eq_pass_iff hleaf, hholds]
  nofun

theorem locates_of_failEach_eq_fail {v : Value} {c : Condition} {failure : Failure}
    (harray : ¬ v.IsArray) (hfail : failEach v (.condition c) = .fail failure) :
    Locates v failure := by
  rw [failEach, Outcome.fail.injEq] at hfail
  subst hfail
  exact .here rfl rfl (.each harray rfl rfl rfl)

theorem locates_of_failAlternatives_eq_fail {v : Value} {alternatives : List Condition}
    {phrases : List String} {failure : Failure}
    (hfail : failAlternatives v alternatives phrases = .fail failure) : Locates v failure := by
  rw [failAlternatives, Outcome.fail.injEq] at hfail
  subst hfail
  exact .here rfl rfl (.alternatives rfl rfl)

/-! ## The way back -/

/-- A check on the length puts a step before the path and a word before the phrase. -/
theorem Locates.underLength {v : Value} {inner : Failure} (h : Locates v.lengthValue inner) :
    Locates v { inner with
      check := .length inner.check
      details := "length " ++ inner.details } := by
  obtain ⟨indices, lengths, leaf, element, hcheck, hindex, helement, hblames⟩ := h
  -- A length has no elements, so the path inside begins with lengths.
  obtain ⟨rfl, rfl⟩ := Value.eq_nil_of_elementAt?_eq_some v.not_isArray_lengthValue helement
  refine ⟨[], lengths + 1, leaf, v, ?_, hindex, rfl, ?_⟩
  · rw [Function.iterate_succ_apply']
    exact congrArg FailedCheck.length hcheck
  rw [Function.iterate_succ_apply]
  cases hblames with
  | operator hne hfails hactual hdetails =>
      refine .operator hne hfails hactual ?_
      rw [Function.iterate_succ_apply']
      exact congrArg ("length " ++ ·) hdetails
  | each harray hactual hreference hdetails =>
      refine .each harray hactual hreference ?_
      rw [Function.iterate_succ_apply']
      exact congrArg ("length " ++ ·) hdetails
  | alternatives hactual hreference => exact .alternatives hactual hreference

/-- A check on elements puts a step before the path and reports its own index. -/
theorem Locates.underEach {items : List Value} {i : Nat} {item : Value} {inner : Failure}
    (hitem : items[i]? = some item) (h : Locates item inner) :
    Locates (.array items) { inner with check := .each inner.check, index := some i } := by
  -- The index that was reported inside is lost, and the one of the element replaces it.
  obtain ⟨indices, lengths, leaf, element, hcheck, -, helement, hblames⟩ := h
  refine ⟨i :: indices, lengths, leaf, element, ?_, rfl, ?_, ?_⟩
  · rw [List.length_cons, Function.iterate_succ_apply']
    exact congrArg FailedCheck.each hcheck
  · rw [Value.elementAt?, hitem]
    exact helement
  cases hblames with
  | operator hne hfails hactual hdetails => exact .operator hne hfails hactual hdetails
  | each harray hactual hreference hdetails => exact .each harray hactual hreference hdetails
  | alternatives hactual hreference => exact .alternatives hactual hreference

/-! ## Evaluation -/

/-- The failure of a clause is located, if those of its nested condition are. -/
theorem locates_of_evaluate_clause_eq_fail {clause : Clause} (hclause : clause.Normal)
    (hnested : ∀ d, clause.reference = .condition d → d.Normal →
      ∀ v failure, d.evaluate v = .fail failure → Locates v failure)
    {v : Value} {failure : Failure} (hfail : clause.evaluate v = .fail failure) :
    Locates v failure := by
  obtain ⟨operator, reference⟩ := clause
  rcases Clause.normal_cases hclause with hleaf | ⟨d, rfl, hd, rfl | rfl⟩
  · rw [Clause.evaluate_leaf hleaf] at hfail
    exact locates_of_evaluateLeaf_eq_fail hleaf hfail
  · rw [Clause.evaluate_length, Outcome.underLength_eq_fail_iff] at hfail
    obtain ⟨inner, hinner, rfl⟩ := hfail
    exact (hnested d rfl hd v.lengthValue inner hinner).underLength
  · by_cases harray : v.IsArray
    · obtain ⟨items, rfl⟩ := harray
      rw [Clause.evaluate_each_array] at hfail
      obtain ⟨i, item, hitem, hfail⟩ := exists_of_firstFailure_eq_fail hfail
      rw [Nat.zero_add, Outcome.underEach_eq_fail_iff] at hfail
      obtain ⟨inner, hinner, rfl⟩ := hfail
      exact (hnested d rfl hd item inner hinner).underEach hitem
    · rw [Clause.evaluate_each_of_not_isArray harray] at hfail
      exact locates_of_failEach_eq_fail harray hfail

/-- **Failures point at failing checks.** -/
theorem locates_of_evaluate_eq_fail {c : Condition} (hc : c.Normal) {v : Value}
    {failure : Failure} (hfail : c.evaluate v = .fail failure) : Locates v failure := by
  induction c, hc using Condition.Normal.induction generalizing v failure with
  | literal x _ =>
      rw [Condition.evaluate] at hfail
      exact locates_of_evaluateLeaf_eq_fail rfl hfail
  | all clauses hnormal ih =>
      rw [Condition.evaluate] at hfail
      obtain ⟨clause, hmem, hfail⟩ := exists_of_evaluateAll_eq_fail hfail
      refine locates_of_evaluate_clause_eq_fail (Condition.normal_all_iff.mp hnormal _ hmem)
        ?_ hfail
      rintro d hreference hd w inner hinner
      obtain ⟨operator, _⟩ := clause
      cases hreference
      exact ih operator d hmem hd hinner
  | any alternatives hnormal ih =>
      -- The failures of the alternatives are dropped but for their phrases.
      obtain ⟨phrases, hphrases⟩ := exists_of_evaluate_any_eq_fail hfail
      exact locates_of_failAlternatives_eq_fail hphrases

/-- Elements of elements have a length. -/
def lengthsOfElements : Condition :=
  .all [.mk .each (.condition (.all [.mk .each (.condition (.all [
    .mk .length (.condition (.all [.mk .type (.value (.string "number"))]))]))]))]

/-- The null in `[["a"], ["b", null]]` has no length. -/
theorem lengthsOfElements_locates :
    lengthsOfElements.Normal ∧
      ∃ failure,
        lengthsOfElements.evaluate
            (.array [.array [.string "a"], .array [.string "b", .null]]) = .fail failure ∧
          failure.check = .each (.each (.length (.operator .type))) ∧ failure.index = some 1 ∧
          Locates (.array [.array [.string "a"], .array [.string "b", .null]]) failure := by
  have hnormal : lengthsOfElements.Normal := by
    simp [lengthsOfElements, Condition.Normal, ClausesNormal, Clause.Normal, Reference.Normal,
      Operator.isNested, Operator.isPattern, Value.IsString, Value.asString?]
  exact ⟨hnormal, _, rfl, rfl, rfl, locates_of_evaluate_eq_fail hnormal rfl⟩

end ValueAssertions
