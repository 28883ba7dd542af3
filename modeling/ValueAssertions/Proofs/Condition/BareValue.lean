import ValueAssertions.Proofs.Condition.Description
import ValueAssertions.Proofs.Condition.Merging
import ValueAssertions.Proofs.Condition.Origin
import Mathlib.Data.List.Basic

/-!
# Bare values stand for clauses

A bare value in a condition stands for the clause that asks for equality with it.
`Condition.spelledOut` puts that clause in the place of every bare value, at any depth, so
that none is left.  Evaluation cannot tell the difference: the outcome is the same in
verdict, path, value, phrase and index, and its reference is the old one with the bare
values in it spelled out (`evaluate_spelledOut`).

Bare values are looked at in four places: in descriptions (`Condition.describe_spelledOut`),
when alternatives are taken apart (`Condition.flatten_spelledOut`), when references are
merged (`Reference.merge_spelledOut`), where it matters whether the first condition has
alternatives, and in evaluation itself.

None of it asks that the clauses are normal.
-/

namespace ValueAssertions

mutual

/-- A reference with the bare values in its condition spelled out. -/
def Reference.spelledOut : Reference → Reference
  | .value v => .value v
  | .values vs => .values vs
  | .pattern p => .pattern p
  | .patterns ps => .patterns ps
  | .condition c => .condition c.spelledOut

/-- A clause with the bare values in its condition spelled out. -/
def Clause.spelledOut : Clause → Clause
  | .mk operator reference => .mk operator reference.spelledOut

/-- A condition with the clause that it stands for in the place of every bare value. -/
def Condition.spelledOut : Condition → Condition
  | .literal x => .all [.mk .eq (.value x)]
  | .all clauses => .all (spelledOutClauses clauses)
  | .any alternatives => .any (spelledOutConditions alternatives)

/-- The clauses of a list with bare values spelled out. -/
def spelledOutClauses : List Clause → List Clause
  | [] => []
  | c :: rest => c.spelledOut :: spelledOutClauses rest

/-- The conditions of a list with bare values spelled out. -/
def spelledOutConditions : List Condition → List Condition
  | [] => []
  | c :: rest => c.spelledOut :: spelledOutConditions rest

end

theorem spelledOutClauses_eq_map (clauses : List Clause) :
    spelledOutClauses clauses = clauses.map Clause.spelledOut := by
  induction clauses with
  | nil => rfl
  | cons c rest ih => rw [spelledOutClauses, ih, List.map_cons]

theorem spelledOutConditions_eq_map (conditions : List Condition) :
    spelledOutConditions conditions = conditions.map Condition.spelledOut := by
  induction conditions with
  | nil => rfl
  | cons c rest ih => rw [spelledOutConditions, ih, List.map_cons]

namespace Condition

theorem spelledOut_literal (x : Value) :
    (Condition.literal x).spelledOut = .all [.mk .eq (.value x)] := by
  rw [spelledOut]

theorem spelledOut_all (clauses : List Clause) :
    (Condition.all clauses).spelledOut = .all (clauses.map Clause.spelledOut) := by
  rw [spelledOut, spelledOutClauses_eq_map]

theorem spelledOut_any (alternatives : List Condition) :
    (Condition.any alternatives).spelledOut = .any (alternatives.map Condition.spelledOut) := by
  rw [spelledOut, spelledOutConditions_eq_map]

end Condition

theorem Clause.spelledOut_mk (operator : Operator) (reference : Reference) :
    (Clause.mk operator reference).spelledOut = .mk operator reference.spelledOut := by
  rw [spelledOut]

namespace Reference

theorem spelledOut_condition (c : Condition) :
    (Reference.condition c).spelledOut = .condition c.spelledOut := by
  rw [spelledOut]

/-- A condition that was spelled out comes from one. -/
theorem eq_condition_of_spelledOut_eq {reference : Reference} {d : Condition}
    (h : reference.spelledOut = .condition d) :
    ∃ c, reference = .condition c ∧ d = c.spelledOut := by
  cases reference with
  | condition c =>
      rw [spelledOut_condition, condition.injEq] at h
      exact ⟨c, rfl, h.symm⟩
  | _ => cases h

end Reference

/-- No bare value is left. -/
theorem not_occurs_literal_spelledOut (x : Value) (c : Condition) :
    ¬ (Condition.literal x).Occurs c.spelledOut := by
  induction c using Condition.induction with
  | literal y => simp [Condition.spelledOut_literal, Condition.occurs_all_iff]
  | all clauses ih =>
      rw [Condition.spelledOut_all, Condition.occurs_all_iff]
      rintro (heq | ⟨operator, d, hmem, hoccurs⟩)
      · cases heq
      · obtain ⟨⟨other, reference⟩, hclause, heq⟩ := List.mem_map.mp hmem
        rw [Clause.spelledOut_mk, Clause.mk.injEq] at heq
        obtain ⟨rfl, hreference⟩ := heq
        obtain ⟨c, rfl, rfl⟩ := Reference.eq_condition_of_spelledOut_eq hreference
        exact ih other c hclause hoccurs
  | any alternatives ih =>
      rw [Condition.spelledOut_any, Condition.occurs_any_iff]
      rintro (heq | ⟨d, hmem, hoccurs⟩)
      · cases heq
      · obtain ⟨c, hc, rfl⟩ := List.mem_map.mp hmem
        exact ih c hc hoccurs

/-! ## Leaf operators -/

theorem Reference.valueList_spelledOut (reference : Reference) :
    reference.spelledOut.valueList = reference.valueList := by
  cases reference <;> rfl

theorem Reference.patternList_spelledOut (reference : Reference) :
    reference.spelledOut.patternList = reference.patternList := by
  cases reference <;> rfl

/-- Leaf operators look at values and patterns only. -/
theorem Operator.holds_spelledOut (operator : Operator) (v : Value) (reference : Reference) :
    operator.holds v reference.spelledOut = operator.holds v reference := by
  simp only [holds, Reference.valueList_spelledOut, Reference.patternList_spelledOut]

/-! ## Descriptions -/

/-- A clause is described as before if the condition that it nests is. -/
theorem Clause.describe_spelledOut_of_nested {clause : Clause}
    (hnested : ∀ d, clause.reference = .condition d → d.spelledOut.describe = d.describe) :
    clause.spelledOut.describe = clause.describe := by
  obtain ⟨operator, reference⟩ := clause
  rw [spelledOut_mk]
  by_cases hinteger : operator = .integer
  · subst hinteger
    rw [describe_integer, describe_integer, Reference.valueList_spelledOut]
  · have hreference : reference.spelledOut.describe = reference.describe := by
      cases reference with
      | condition d =>
          rw [Reference.spelledOut_condition, Reference.describe, Reference.describe,
            hnested d rfl]
      | _ => rfl
    rw [describe_of_ne_integer hinteger, describe_of_ne_integer hinteger, hreference]

theorem Condition.describe_spelledOut (c : Condition) : c.spelledOut.describe = c.describe := by
  induction c using Condition.induction with
  | literal x => rw [spelledOut_literal, describe_single, describe_bareValue]
  | all clauses ih =>
      have hclauses : ∀ clause ∈ clauses, clause.spelledOut.describe = clause.describe := by
        rintro ⟨operator, reference⟩ hmem
        refine Clause.describe_spelledOut_of_nested ?_
        rintro d rfl
        exact ih operator d hmem
      rw [spelledOut_all, describe, describe, describeClauses_eq_map, describeClauses_eq_map,
        List.map_map]
      exact congrArg _ (List.map_congr_left hclauses)
  | any alternatives ih =>
      rw [spelledOut_any, describe, describe, describeConditions_eq_map,
        describeConditions_eq_map, List.map_map]
      exact congrArg _ (List.map_congr_left ih)

theorem Clause.describe_spelledOut (clause : Clause) :
    clause.spelledOut.describe = clause.describe :=
  describe_spelledOut_of_nested fun d _ => d.describe_spelledOut

/-! ## Merged clauses -/

/-- Spelling out bare values keeps alternatives apart from all other conditions. -/
theorem Reference.merge_spelledOut (first second : Reference) :
    (first.merge second).spelledOut = first.spelledOut.merge second.spelledOut := by
  cases first with
  | condition c =>
      cases second with
      | condition d =>
          cases c with
          | any items => simp [merge, spelledOut_condition, Condition.spelledOut_any]
          | literal x =>
              simp [merge, spelledOut_condition, Condition.spelledOut_any,
                Condition.spelledOut_literal]
          | all clauses =>
              simp [merge, spelledOut_condition, Condition.spelledOut_any,
                Condition.spelledOut_all]
      | _ => cases c <;> simp [merge, spelledOut]
  | _ => cases second <;> simp [merge, spelledOut]

/-- A pair with the bare values in its condition spelled out. -/
def spelledOutPair (pair : Operator × Reference) : Operator × Reference :=
  (pair.1, pair.2.spelledOut)

theorem Condition.flatten_spelledOut (c : Condition) :
    c.spelledOut.flatten = c.flatten.map spelledOutPair := by
  induction c using Condition.induction with
  | literal x =>
      rw [spelledOut_literal, flatten, flatten]
      simp [spelledOutPair, Clause.operator, Clause.reference, Reference.spelledOut]
  | all clauses _ =>
      rw [spelledOut_all, flatten, flatten, List.map_map, List.map_map]
      refine List.map_congr_left fun clause _ => ?_
      obtain ⟨operator, reference⟩ := clause
      rw [Function.comp_apply, Clause.spelledOut_mk]
      rfl
  | any alternatives ih =>
      rw [spelledOut_any, flatten_any, flatten_any, List.flatMap_map, List.map_flatMap]
      exact List.flatMap_congr ih

theorem mergeClause_spelledOut (operator : Operator) (reference : Reference)
    (merged : List Clause) :
    mergeClause operator reference.spelledOut (merged.map Clause.spelledOut) =
      (mergeClause operator reference merged).map Clause.spelledOut := by
  induction merged with
  | nil => rfl
  | cons clause rest ih =>
      obtain ⟨other, old⟩ := clause
      rw [List.map_cons, Clause.spelledOut_mk, mergeClause, mergeClause]
      split
      · rw [List.map_cons, Clause.spelledOut_mk, Reference.merge_spelledOut]
      · rw [List.map_cons, Clause.spelledOut_mk, ih]

theorem foldl_mergeClause_spelledOut (pairs : List (Operator × Reference))
    (merged : List Clause) :
    (pairs.map spelledOutPair).foldl (fun merged pair => mergeClause pair.1 pair.2 merged)
        (merged.map Clause.spelledOut) =
      (pairs.foldl (fun merged pair => mergeClause pair.1 pair.2 merged) merged).map
        Clause.spelledOut := by
  induction pairs generalizing merged with
  | nil => rfl
  | cons pair rest ih =>
      rw [List.map_cons, List.foldl_cons, List.foldl_cons, ← ih, ← mergeClause_spelledOut]
      rfl

theorem mergeAlternatives_spelledOut (alternatives : List Condition) :
    mergeAlternatives (alternatives.map Condition.spelledOut) =
      (mergeAlternatives alternatives).map Clause.spelledOut := by
  have hpairs : flattenAlternatives (alternatives.map Condition.spelledOut) =
      (flattenAlternatives alternatives).map spelledOutPair := by
    have hflatten := (Condition.any alternatives).flatten_spelledOut
    rwa [Condition.spelledOut_any, Condition.flatten, Condition.flatten] at hflatten
  rw [mergeAlternatives, mergeAlternatives, hpairs]
  exact foldl_mergeClause_spelledOut (flattenAlternatives alternatives) []

/-! ## Outcomes -/

/-- An outcome with another reference. -/
def Outcome.mapReference (f : Reference → Reference) : Outcome → Outcome
  | .pass => .pass
  | .fail failure => .fail { failure with reference := f failure.reference }

namespace Outcome

variable {f : Reference → Reference}

theorem mapReference_andThen (first second : Outcome) :
    (first.andThen second).mapReference f =
      (first.mapReference f).andThen (second.mapReference f) := by
  cases first <;> rfl

theorem mapReference_underLength (outcome : Outcome) :
    outcome.underLength.mapReference f = (outcome.mapReference f).underLength := by
  cases outcome <;> rfl

theorem mapReference_underEach (outcome : Outcome) (index : Nat) :
    (outcome.underEach index).mapReference f = (outcome.mapReference f).underEach index := by
  cases outcome <;> rfl

end Outcome

section Runs

variable {f : Reference → Reference} {v : Value}

theorem firstFailure_mapReference {check other : Value → Outcome}
    (hcheck : ∀ v, other v = (check v).mapReference f) (index : Nat) (items : List Value) :
    firstFailure other index items = (firstFailure check index items).mapReference f := by
  induction items generalizing index with
  | nil => rfl
  | cons item rest ih =>
      rw [firstFailure, firstFailure, Outcome.mapReference_andThen,
        Outcome.mapReference_underEach, hcheck, ih]

theorem evaluateLeaf_spelledOut (v : Value) (operator : Operator) (reference : Reference) :
    evaluateLeaf v operator reference.spelledOut =
      (evaluateLeaf v operator reference).mapReference Reference.spelledOut := by
  have hdescribe := (Clause.mk operator reference).describe_spelledOut
  rw [Clause.spelledOut_mk] at hdescribe
  unfold evaluateLeaf
  rw [Operator.holds_spelledOut, hdescribe]
  split <;> rfl

theorem evaluateAll_spelledOut {clauses : List Clause}
    (hclauses : ∀ c ∈ clauses,
      c.spelledOut.evaluate v = (c.evaluate v).mapReference Reference.spelledOut) :
    evaluateAll v (clauses.map Clause.spelledOut) =
      (evaluateAll v clauses).mapReference Reference.spelledOut := by
  induction clauses with
  | nil => simp [evaluateAll, Outcome.mapReference]
  | cons c rest ih =>
      obtain ⟨hc, hrest⟩ := List.forall_mem_cons.mp hclauses
      rw [List.map_cons, evaluateAll, evaluateAll, Outcome.mapReference_andThen, hc, ih hrest]

theorem failurePhrases?_spelledOut {alternatives : List Condition}
    (halternatives : ∀ c ∈ alternatives,
      c.spelledOut.evaluate v = (c.evaluate v).mapReference Reference.spelledOut) :
    failurePhrases? v (alternatives.map Condition.spelledOut) =
      failurePhrases? v alternatives := by
  induction alternatives with
  | nil => rfl
  | cons c rest ih =>
      obtain ⟨hc, hrest⟩ := List.forall_mem_cons.mp halternatives
      rw [List.map_cons, failurePhrases?, failurePhrases?, hc, ih hrest]
      cases c.evaluate v <;> rfl

/-- A clause has the outcome that it had if the condition that it nests does. -/
theorem evaluate_clause_spelledOut {clause : Clause}
    (hnested : ∀ d, clause.reference = .condition d → ∀ v,
      d.spelledOut.evaluate v = (d.evaluate v).mapReference Reference.spelledOut) (v : Value) :
    clause.spelledOut.evaluate v = (clause.evaluate v).mapReference Reference.spelledOut := by
  obtain ⟨operator, reference⟩ := clause
  have hleaf := evaluateLeaf_spelledOut v operator reference
  rw [Clause.spelledOut_mk]
  cases reference with
  | condition d =>
      rw [Reference.spelledOut_condition] at hleaf ⊢
      cases operator with
      | length =>
          rw [Clause.evaluate_length, Clause.evaluate_length, hnested d rfl,
            Outcome.mapReference_underLength]
      | each =>
          by_cases harray : v.IsArray
          · obtain ⟨items, rfl⟩ := harray
            rw [Clause.evaluate_each_array, Clause.evaluate_each_array]
            exact firstFailure_mapReference (hnested d rfl) 0 items
          · rw [Clause.evaluate_each_of_not_isArray harray,
              Clause.evaluate_each_of_not_isArray harray]
            rw [failEach, failEach, Outcome.mapReference, Reference.spelledOut_condition]
      | _ => exact hleaf
  | _ => cases operator <;> exact hleaf

end Runs

/-- **Evaluation.**  Only the reference of a failure changes. -/
theorem evaluate_spelledOut_eq (c : Condition) (v : Value) :
    c.spelledOut.evaluate v = (c.evaluate v).mapReference Reference.spelledOut := by
  induction c using Condition.induction generalizing v with
  | literal x =>
      rw [Condition.spelledOut_literal, evaluate_single, Clause.evaluate_leaf rfl,
        Condition.evaluate]
      exact evaluateLeaf_spelledOut v .eq (.value x)
  | all clauses ih =>
      rw [Condition.spelledOut_all, Condition.evaluate, Condition.evaluate]
      refine evaluateAll_spelledOut ?_
      rintro ⟨operator, reference⟩ hmem
      refine evaluate_clause_spelledOut ?_ v
      rintro d rfl
      exact ih operator d hmem
  | any alternatives ih =>
      rw [Condition.spelledOut_any, Condition.evaluate, Condition.evaluate,
        failurePhrases?_spelledOut fun c hmem => ih c hmem v]
      cases failurePhrases? v alternatives with
      | none => rfl
      | some phrases =>
          simp only [failAlternatives, Outcome.mapReference, Reference.spelledOut_condition,
            Condition.spelledOut_all, mergeAlternatives_spelledOut]

/-- **Bare values stand for clauses.**  A condition whose bare values are spelled out as
clauses has none left, and it has the same outcomes, with the bare values in the reference
of a failure spelled out as well. -/
theorem evaluate_spelledOut (c : Condition) (v : Value) :
    c.spelledOut.evaluate v = (c.evaluate v).mapReference Reference.spelledOut ∧
      ∀ x, ¬ (Condition.literal x).Occurs c.spelledOut :=
  ⟨evaluate_spelledOut_eq c v, fun x => not_occurs_literal_spelledOut x c⟩

end ValueAssertions
