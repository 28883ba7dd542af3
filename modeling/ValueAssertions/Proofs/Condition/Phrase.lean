import ValueAssertions.Proofs.Condition.Description
import ValueAssertions.Proofs.Condition.Origin
import Mathlib.Tactic.Simproc.ExistsAndEq

/-!
# The phrase of a failure

What a condition expects is put into words twice.  `Condition.describe` does it from the
condition alone, from the outside to the inside.  Evaluation does it from the failures that
it meets, from the inside to the outside: the phrase begins at a leaf, a length puts a word
before it, and alternatives join theirs.  The two agree (`details_eq_describe`) when

* every list of clauses has just one (`Condition.OneClauseEach`), because the failure of
  clauses speaks of the first that fails and the description of all of them;
* every check on elements that the value meets is applied to an array
  (`Condition.MeetsArrays`), because otherwise the failure asks for an array.

An array may well be empty, and then its elements do not fail.
-/

namespace ValueAssertions

/-! ## Where the two agree -/

/-- Every list of clauses in a condition has just one, at any depth. -/
def Condition.OneClauseEach (c : Condition) : Prop :=
  ∀ clauses, (Condition.all clauses).Occurs c → clauses.length = 1

namespace Condition.OneClauseEach

theorem of_occurs {c d : Condition} (h : c.OneClauseEach) (hd : d.Occurs c) : d.OneClauseEach :=
  fun clauses hoccurs => h clauses (hoccurs.trans hd)

theorem exists_eq_singleton {clauses : List Clause} (h : (Condition.all clauses).OneClauseEach) :
    ∃ clause, clauses = [clause] :=
  List.length_eq_one_iff.mp (h clauses .self)

end Condition.OneClauseEach

mutual

/-- Every check on elements that a value meets in a condition is applied to an array. -/
inductive Condition.MeetsArrays : Condition → Value → Prop
  | literal (x v : Value) : Condition.MeetsArrays (.literal x) v
  | all {clauses : List Clause} {v : Value} (h : ∀ c ∈ clauses, Clause.MeetsArrays c v) :
      Condition.MeetsArrays (.all clauses) v
  | any {alternatives : List Condition} {v : Value}
      (h : ∀ c ∈ alternatives, Condition.MeetsArrays c v) :
      Condition.MeetsArrays (.any alternatives) v

/-- Every check on elements that a value meets in a clause is applied to an array. -/
inductive Clause.MeetsArrays : Clause → Value → Prop
  | leaf {operator : Operator} {reference : Reference} {v : Value}
      (hleaf : operator.isNested = false) : Clause.MeetsArrays (.mk operator reference) v
  | length {c : Condition} {v : Value} (h : Condition.MeetsArrays c v.lengthValue) :
      Clause.MeetsArrays (.mk .length (.condition c)) v
  | each {c : Condition} {items : List Value}
      (h : ∀ item ∈ items, Condition.MeetsArrays c item) :
      Clause.MeetsArrays (.mk .each (.condition c)) (.array items)

end

theorem meetsArrays_all_iff {clauses : List Clause} {v : Value} :
    (Condition.all clauses).MeetsArrays v ↔ ∀ c ∈ clauses, c.MeetsArrays v :=
  ⟨fun h => by cases h; assumption, .all⟩

theorem meetsArrays_any_iff {alternatives : List Condition} {v : Value} :
    (Condition.any alternatives).MeetsArrays v ↔ ∀ c ∈ alternatives, c.MeetsArrays v :=
  ⟨fun h => by cases h; assumption, .any⟩

theorem meetsArrays_length_iff {c : Condition} {v : Value} :
    (Clause.mk .length (.condition c)).MeetsArrays v ↔ c.MeetsArrays v.lengthValue := by
  constructor
  · intro h
    cases h with
    | leaf hleaf => cases hleaf
    | length h => exact h
  · exact .length

theorem meetsArrays_each_iff {c : Condition} {v : Value} :
    (Clause.mk .each (.condition c)).MeetsArrays v ↔
      ∃ items, v = .array items ∧ ∀ item ∈ items, c.MeetsArrays item := by
  constructor
  · intro h
    cases h with
    | leaf hleaf => cases hleaf
    | each h => exact ⟨_, rfl, h⟩
  · rintro ⟨items, rfl, h⟩
    exact .each h

/-! ## Failures -/

/-- The failures of a condition have its description as their phrase, where checks on
elements meet arrays. -/
def Condition.Phrased (c : Condition) : Prop :=
  ∀ v failure, c.MeetsArrays v → c.evaluate v = .fail failure → failure.details = c.describe

theorem details_of_evaluate_clause {clause : Clause} (hclause : clause.Normal)
    (hnested : ∀ d, clause.reference = .condition d → d.Normal → d.Phrased) {v : Value}
    {failure : Failure} (harrays : clause.MeetsArrays v)
    (hfail : clause.evaluate v = .fail failure) : failure.details = clause.describe := by
  obtain ⟨operator, reference⟩ := clause
  rcases Clause.normal_cases hclause with hleaf | ⟨d, rfl, hd, rfl | rfl⟩
  · rw [Clause.evaluate_leaf hleaf] at hfail
    obtain ⟨-, rfl⟩ := evaluateLeaf_eq_fail_iff.mp hfail
    rfl
  · rw [Clause.evaluate_length, Outcome.underLength_eq_fail_iff] at hfail
    obtain ⟨inner, hinner, rfl⟩ := hfail
    have harrays := meetsArrays_length_iff.mp harrays
    rw [describe_length, ← hnested d rfl hd v.lengthValue inner harrays hinner]
  · obtain ⟨items, rfl, hitems⟩ := meetsArrays_each_iff.mp harrays
    rw [Clause.evaluate_each_array] at hfail
    obtain ⟨i, item, hitem, hfail⟩ := exists_of_firstFailure_eq_fail hfail
    obtain ⟨inner, hinner, rfl⟩ := Outcome.underEach_eq_fail_iff.mp hfail
    have hmem : item ∈ items := List.mem_of_getElem? hitem
    rw [describe_each, ← hnested d rfl hd item inner (hitems item hmem) hinner]

/-- The phrases of alternatives that all fail are their descriptions. -/
theorem failurePhrases?_eq_map_describe {v : Value} {alternatives : List Condition}
    {phrases : List String}
    (halternatives : ∀ c ∈ alternatives, ∀ failure, c.evaluate v = .fail failure →
      failure.details = c.describe)
    (hphrases : failurePhrases? v alternatives = some phrases) :
    phrases = alternatives.map Condition.describe := by
  induction alternatives generalizing phrases with
  | nil =>
      rw [failurePhrases?, Option.some.injEq] at hphrases
      exact hphrases.symm
  | cons c rest ih =>
      obtain ⟨hc, hrest⟩ := List.forall_mem_cons.mp halternatives
      rw [failurePhrases?] at hphrases
      cases hevaluate : c.evaluate v with
      | pass => simp [hevaluate] at hphrases
      | fail failure =>
          simp only [hevaluate, Option.map_eq_some_iff] at hphrases
          obtain ⟨others, hothers, rfl⟩ := hphrases
          rw [List.map_cons, hc failure hevaluate, ih hrest hothers]

theorem phrased_of_normal {c : Condition} (hc : c.Normal) (hone : c.OneClauseEach) :
    c.Phrased := by
  induction c, hc using Condition.Normal.induction with
  | literal x _ =>
      intro v failure _ hfail
      rw [Condition.evaluate] at hfail
      obtain ⟨-, rfl⟩ := evaluateLeaf_eq_fail_iff.mp hfail
      exact describe_bareValue x
  | all clauses hnormal ih =>
      intro v failure harrays hfail
      obtain ⟨clause, rfl⟩ := hone.exists_eq_singleton
      have hmem : clause ∈ [clause] := List.mem_singleton_self clause
      rw [evaluate_single] at hfail
      rw [describe_single]
      refine details_of_evaluate_clause (Condition.normal_all_iff.mp hnormal _ hmem) ?_
        (meetsArrays_all_iff.mp harrays clause hmem) hfail
      rintro d hreference hd
      obtain ⟨operator, _⟩ := clause
      cases hreference
      exact ih operator d hmem hd (hone.of_occurs (.nested hmem .self))
  | any alternatives hnormal ih =>
      intro v failure harrays hfail
      have halternatives : ∀ c ∈ alternatives, ∀ failure, c.evaluate v = .fail failure →
          failure.details = c.describe := fun c hmem failure hfail =>
        ih c hmem (Condition.normal_any_iff.mp hnormal c hmem)
          (hone.of_occurs (.alternative hmem .self)) v failure
          (meetsArrays_any_iff.mp harrays c hmem) hfail
      obtain ⟨phrases, hphrases, rfl⟩ := evaluate_any_eq_fail_iff.mp hfail
      rw [Condition.describe, describeConditions_eq_map,
        ← failurePhrases?_eq_map_describe halternatives hphrases]

/-- **The phrase of a failure is the description of the condition,** if the condition has no
two clauses that must both hold and its checks on elements meet arrays. -/
theorem details_eq_describe {c : Condition} (hc : c.Normal) (hone : c.OneClauseEach) {v : Value}
    (harrays : c.MeetsArrays v) {failure : Failure} (hfail : c.evaluate v = .fail failure) :
    failure.details = c.describe :=
  phrased_of_normal hc hone v failure harrays hfail

/-- Elements of elements with one of two lengths, or of one of two types. -/
def elementsOfElements : Condition :=
  .all [.mk .each (.condition (.all [.mk .each (.condition (.any [
    .all [.mk .length (.condition (.any [.literal .null, .literal (.bool true)]))],
    .all [.mk .type (.values [.string "number", .string "boolean"])]]))]))]

/-- The text in `[[], [true, "x"]]` is neither, and the phrase names all four. -/
theorem elementsOfElements_phrase :
    elementsOfElements.Normal ∧ elementsOfElements.OneClauseEach ∧
      elementsOfElements.MeetsArrays (.array [.array [], .array [.bool true, .string "x"]]) ∧
      ∃ failure, elementsOfElements.evaluate
          (.array [.array [], .array [.bool true, .string "x"]]) = .fail failure ∧
        failure.details = elementsOfElements.describe ∧
        elementsOfElements.describe = "length null or true or type \"number\" or \"boolean\"" := by
  have hnormal : elementsOfElements.Normal := by
    simp [elementsOfElements, Condition.Normal, ClausesNormal, ConditionsNormal, Clause.Normal,
      Reference.Normal, Operator.isNested, Operator.isPattern, Value.IsString, Value.asString?]
  have hone : elementsOfElements.OneClauseEach := by
    intro clauses hoccurs
    simp only [elementsOfElements, Condition.occurs_any_iff, Condition.occurs_all_iff,
      Condition.occurs_literal_iff, Condition.all.injEq, Clause.mk.injEq,
      Reference.condition.injEq, List.mem_cons, List.not_mem_nil, or_false, false_or, or_self,
      true_and, false_and, and_false, exists_eq_or_imp, exists_false, ↓existsAndEq,
      reduceCtorEq] at hoccurs
    rcases hoccurs with rfl | rfl | rfl | rfl <;> rfl
  have harrays : elementsOfElements.MeetsArrays
      (.array [.array [], .array [.bool true, .string "x"]]) := by
    have htype : ∀ reference v, (Clause.mk .type reference).MeetsArrays v := fun _ _ => .leaf rfl
    simp [elementsOfElements, meetsArrays_all_iff, meetsArrays_any_iff, meetsArrays_length_iff,
      meetsArrays_each_iff, htype, Condition.MeetsArrays.literal]
  exact ⟨hnormal, hone, harrays, _, rfl, details_eq_describe hnormal hone harrays rfl, rfl⟩

/-- Two clauses are described together, and fail one at a time. -/
example :
    let c : Condition := .all [.mk .begins (.value (.string "a")), .mk .ends (.value (.string "b"))]
    ∃ failure, c.evaluate (.string "x") = .fail failure ∧
      c.describe = failure.details ++ " and string ending with \"b\"" :=
  ⟨_, rfl, rfl⟩

end ValueAssertions
