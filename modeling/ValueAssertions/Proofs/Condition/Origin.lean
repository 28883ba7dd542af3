import ValueAssertions.Proofs.Condition.Evaluation

/-!
# Where a failure comes from

A failure is written at one check and then passed on by the lengths, elements and
clauses around it, which leave its reference and the value that was examined alone.  So
it comes from one place in the condition (`Origin`): a bare value, a clause that is no
check on a length, or alternatives.  `origin_of_evaluate_eq_fail` finds that place for
every failure of a normal condition.

Places are conditions that occur in another one (`Condition.Occurs`), be it as an
alternative or under an operator.
-/

namespace ValueAssertions

/-! ## Parts of conditions -/

/-- A condition occurs in another one: it is the same, or it occurs in one of the
alternatives, or under an operator. -/
inductive Condition.Occurs (d : Condition) : Condition → Prop
  | self : Occurs d d
  | alternative {alternatives : List Condition} {c : Condition} (hmem : c ∈ alternatives)
      (h : Occurs d c) : Occurs d (.any alternatives)
  | nested {clauses : List Clause} {operator : Operator} {c : Condition}
      (hmem : .mk operator (.condition c) ∈ clauses) (h : Occurs d c) : Occurs d (.all clauses)

namespace Condition

theorem occurs_literal_iff {d : Condition} {x : Value} :
    d.Occurs (.literal x) ↔ d = .literal x := by
  constructor
  · rintro ⟨⟩
    rfl
  · rintro rfl
    exact .self

theorem occurs_any_iff {d : Condition} {alternatives : List Condition} :
    d.Occurs (.any alternatives) ↔
      d = .any alternatives ∨ ∃ c ∈ alternatives, d.Occurs c := by
  constructor
  · intro h
    cases h with
    | self => exact .inl rfl
    | alternative hmem h => exact .inr ⟨_, hmem, h⟩
  · rintro (rfl | ⟨c, hmem, h⟩)
    · exact .self
    · exact .alternative hmem h

theorem occurs_all_iff {d : Condition} {clauses : List Clause} :
    d.Occurs (.all clauses) ↔
      d = .all clauses ∨ ∃ operator c, .mk operator (.condition c) ∈ clauses ∧ d.Occurs c := by
  constructor
  · intro h
    cases h with
    | self => exact .inl rfl
    | nested hmem h => exact .inr ⟨_, _, hmem, h⟩
  · rintro (rfl | ⟨operator, c, hmem, h⟩)
    · exact .self
    · exact .nested hmem h

end Condition

namespace Condition.Occurs

variable {b c d : Condition}

theorem trans (hbc : b.Occurs c) (hcd : c.Occurs d) : b.Occurs d := by
  induction hcd with
  | self => exact hbc
  | alternative hmem _ ih => exact .alternative hmem ih
  | nested hmem _ ih => exact .nested hmem ih

/-- What occurs in a normal condition is normal. -/
theorem normal (h : d.Occurs c) (hc : c.Normal) : d.Normal := by
  induction h with
  | self => exact hc
  | alternative hmem _ ih => exact ih (Condition.normal_any_iff.mp hc _ hmem)
  | nested hmem _ ih =>
      have hclause := Condition.normal_all_iff.mp hc _ hmem
      rw [Clause.Normal, Reference.Normal] at hclause
      exact ih hclause.2

end Condition.Occurs

/-! ## Origins -/

/-- The check at the end of a path. -/
def FailedCheck.last : FailedCheck → FailedCheck
  | .operator failed => .operator failed
  | .alternatives => .alternatives
  | .length inner => inner.last
  | .each inner => inner.last

/-- The place in a condition that a failure comes from. -/
inductive Origin (c : Condition) (failure : Failure) : Prop
  | literal {x : Value} (hoccurs : (Condition.literal x).Occurs c)
      (hlast : failure.check.last = .operator .eq) (hreference : failure.reference = .value x)
  | clause {clauses : List Clause} {operator : Operator}
      (hoccurs : (Condition.all clauses).Occurs c)
      (hmem : .mk operator failure.reference ∈ clauses)
      (hlast : failure.check.last = .operator operator)
  | alternatives {alternatives : List Condition} (hoccurs : (Condition.any alternatives).Occurs c)
      (hlast : failure.check.last = .alternatives)
      (hfails : ((Condition.any alternatives).evaluate failure.actual).isPass = false)
      (hreference : failure.reference = .condition (.all (mergeAlternatives alternatives)))

namespace Origin

variable {c d : Condition} {failure inner : Failure}

theorem mono (hd : d.Occurs c) (h : Origin d failure) : Origin c failure := by
  cases h with
  | literal hoccurs hlast hreference => exact .literal (hoccurs.trans hd) hlast hreference
  | clause hoccurs hmem hlast => exact .clause (hoccurs.trans hd) hmem hlast
  | alternatives hoccurs hlast hfails hreference =>
      exact .alternatives (hoccurs.trans hd) hlast hfails hreference

/-- A failure that is passed on comes from the same place. -/
theorem passedOn (h : Origin c inner) (hlast : failure.check.last = inner.check.last)
    (hreference : failure.reference = inner.reference) (hactual : failure.actual = inner.actual) :
    Origin c failure := by
  cases h with
  | literal hoccurs hinner hvalue =>
      exact .literal hoccurs (hlast.trans hinner) (hreference.trans hvalue)
  | clause hoccurs hmem hinner => exact .clause hoccurs (hreference ▸ hmem) (hlast.trans hinner)
  | alternatives hoccurs hinner hfails hcondition =>
      exact .alternatives hoccurs (hlast.trans hinner) (hactual ▸ hfails)
        (hreference.trans hcondition)

end Origin

/-- The failure of a clause comes from the clause, or from the condition that it
nests. -/
theorem origin_of_evaluate_clause_eq_fail {clauses : List Clause} {clause : Clause}
    (hmem : clause ∈ clauses) (hclause : clause.Normal)
    (hnested : ∀ d, clause.reference = .condition d → d.Normal →
      ∀ v failure, d.evaluate v = .fail failure → Origin d failure)
    {v : Value} {failure : Failure} (hfail : clause.evaluate v = .fail failure) :
    Origin (.all clauses) failure := by
  obtain ⟨operator, reference⟩ := clause
  rcases Clause.normal_cases hclause with hleaf | ⟨d, rfl, hd, rfl | rfl⟩
  · rw [Clause.evaluate_leaf hleaf] at hfail
    obtain ⟨-, rfl⟩ := evaluateLeaf_eq_fail_iff.mp hfail
    exact .clause .self hmem rfl
  · rw [Clause.evaluate_length, Outcome.underLength_eq_fail_iff] at hfail
    obtain ⟨inner, hinner, rfl⟩ := hfail
    -- The failure is that of the nested condition, with a longer path.
    have horigin := hnested d rfl hd v.lengthValue inner hinner
    exact (horigin.mono (.nested hmem .self)).passedOn rfl rfl rfl
  · by_cases harray : v.IsArray
    · obtain ⟨items, rfl⟩ := harray
      rw [Clause.evaluate_each_array] at hfail
      obtain ⟨i, item, -, hfail⟩ := exists_of_firstFailure_eq_fail hfail
      rw [Outcome.underEach_eq_fail_iff] at hfail
      obtain ⟨inner, hinner, rfl⟩ := hfail
      have horigin := hnested d rfl hd item inner hinner
      exact (horigin.mono (.nested hmem .self)).passedOn rfl rfl rfl
    · rw [Clause.evaluate_each_of_not_isArray harray, failEach, Outcome.fail.injEq] at hfail
      subst hfail
      exact .clause .self hmem rfl

/-- **Every failure comes from a place in the condition.** -/
theorem origin_of_evaluate_eq_fail {c : Condition} (hc : c.Normal) {v : Value}
    {failure : Failure} (hfail : c.evaluate v = .fail failure) : Origin c failure := by
  induction c, hc using Condition.Normal.induction generalizing v failure with
  | literal x _ =>
      rw [Condition.evaluate] at hfail
      obtain ⟨-, rfl⟩ := evaluateLeaf_eq_fail_iff.mp hfail
      exact .literal .self rfl rfl
  | all clauses hnormal ih =>
      rw [Condition.evaluate] at hfail
      obtain ⟨clause, hmem, hfail⟩ := exists_of_evaluateAll_eq_fail hfail
      refine origin_of_evaluate_clause_eq_fail hmem (Condition.normal_all_iff.mp hnormal _ hmem)
        ?_ hfail
      rintro d hreference hd w inner hinner
      obtain ⟨operator, _⟩ := clause
      cases hreference
      exact ih operator d hmem hd hinner
  | any alternatives hnormal ih =>
      have hnot : ((Condition.any alternatives).evaluate v).isPass = false := by
        rw [hfail]
        rfl
      obtain ⟨phrases, -, rfl⟩ := evaluate_any_eq_fail_iff.mp hfail
      exact .alternatives .self rfl hnot rfl

end ValueAssertions
