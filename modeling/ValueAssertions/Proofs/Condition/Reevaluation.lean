import ValueAssertions.Proofs.Condition.Origin
import ValueAssertions.Proofs.Condition.Union

/-!
# Merged clauses reject the value they are reported for

When all alternatives fail, their clauses are reported as one list, with one clause for
each operator.  Alternatives that were joined by "or" are joined by "and" there, so the
list is another condition than the alternatives were.  Still it rejects the value, if
every alternative is a single check (`SingleChecks`): each of these checks has failed,
and so does the union of those with the same operator.

The exception are checks on elements.  Two of them can fail, each because of some
element, while each element is accepted by one of the two; their union accepts the array.
So at most one of the alternatives may check elements.

The main statement is `reported_rejects_actual`.  One union of failed checks is
`evaluate_merge_ne_pass`, and by induction on the references all of them are
`evaluate_unionOf_ne_pass`.
-/

namespace ValueAssertions

/-! ## Single checks -/

mutual

/-- The alternatives of a condition, with those of nested alternatives in their place. -/
def Condition.leaves : Condition → List Condition
  | .literal x => [.literal x]
  | .all clauses => [.all clauses]
  | .any alternatives => leavesOf alternatives

/-- The alternatives of conditions. -/
def leavesOf : List Condition → List Condition
  | [] => []
  | c :: rest => c.leaves ++ leavesOf rest

end

/-- Whether a condition is a single check on elements. -/
def Condition.isEachCheck : Condition → Bool
  | .all [.mk .each _] => true
  | _ => false

/-- Alternatives of which each is a bare value or a single clause, and at most one is a
check on elements. -/
structure SingleChecks (alternatives : List Condition) : Prop where
  nonempty : leavesOf alternatives ≠ []
  single : ∀ c ∈ leavesOf alternatives, (∃ x, c = .literal x) ∨ ∃ clause, c = .all [clause]
  atMostOneEach : (leavesOf alternatives).countP Condition.isEachCheck ≤ 1

mutual

theorem evaluate_leaves_eq_pass_iff (v : Value) : (c : Condition) →
    ((∃ leaf ∈ c.leaves, leaf.evaluate v = .pass) ↔ c.evaluate v = .pass)
  | .literal x => by simp [Condition.leaves]
  | .all clauses => by simp [Condition.leaves]
  | .any alternatives => by
      rw [Condition.leaves, evaluate_any_eq_pass_iff]
      exact evaluate_leavesOf_eq_pass_iff v alternatives

theorem evaluate_leavesOf_eq_pass_iff (v : Value) : (alternatives : List Condition) →
    ((∃ leaf ∈ leavesOf alternatives, leaf.evaluate v = .pass) ↔
      ∃ c ∈ alternatives, c.evaluate v = .pass)
  | [] => by simp [leavesOf]
  | c :: rest => by
      simp only [leavesOf, List.mem_append, or_and_right, exists_or, List.mem_cons,
        exists_eq_left]
      rw [evaluate_leaves_eq_pass_iff v c, evaluate_leavesOf_eq_pass_iff v rest]

end

mutual

theorem flatten_eq_flatMap_leaves : (c : Condition) →
    c.flatten = c.leaves.flatMap Condition.flatten
  | .literal x => by simp [Condition.leaves]
  | .all clauses => by simp [Condition.leaves]
  | .any alternatives => by
      rw [Condition.flatten, Condition.leaves]
      exact flattenAlternatives_eq_flatMap_leavesOf alternatives

theorem flattenAlternatives_eq_flatMap_leavesOf : (alternatives : List Condition) →
    flattenAlternatives alternatives = (leavesOf alternatives).flatMap Condition.flatten
  | [] => rfl
  | c :: rest => by
      rw [flattenAlternatives, leavesOf, List.flatMap_append, ← flatten_eq_flatMap_leaves c,
        flattenAlternatives_eq_flatMap_leavesOf rest]

end

/-- A single check contributes one pair, and the clause of the pair is the check. -/
theorem exists_flatten_of_single {c : Condition}
    (hc : (∃ x, c = .literal x) ∨ ∃ clause, c = .all [clause]) :
    ∃ operator reference, c.flatten = [(operator, reference)] ∧
      c.isEachCheck = (operator == .each) ∧
      ∀ v, (Clause.mk operator reference).evaluate v = .pass ↔ c.evaluate v = .pass := by
  rcases hc with ⟨x, rfl⟩ | ⟨⟨operator, reference⟩, rfl⟩
  · refine ⟨.eq, .value x, rfl, rfl, fun v => ?_⟩
    rw [Clause.evaluate_leaf rfl, Condition.evaluate]
  · refine ⟨operator, reference, rfl, ?_, fun v => ?_⟩
    · cases operator <;> rfl
    · rw [evaluate_single]

/-! ## Unions of failed checks -/

section Union

variable {operator : Operator} {v : Value}

/-- **One union.**  Two checks that fail, but for checks on elements, fail as one. -/
theorem evaluate_merge_ne_pass (hne : operator ≠ .each) {first second : Reference}
    (hfirst : first.Suits operator) (hsecond : second.Suits operator)
    (hfails : (Clause.mk operator first).evaluate v ≠ .pass)
    (hfails' : (Clause.mk operator second).evaluate v ≠ .pass) :
    (Clause.mk operator (first.merge second)).evaluate v ≠ .pass := by
  by_cases hlength : operator = .length
  · subst hlength
    rw [Ne, evaluate_merge_length hfirst hsecond]
    exact not_or.mpr ⟨hfails, hfails'⟩
  have hleaf : operator.isNested = false := by
    cases operator <;> first | rfl | contradiction
  cases hnegated : operator.isNegated with
  | false =>
      rw [Ne, evaluate_merge_of_positive hleaf hnegated hfirst hsecond]
      exact not_or.mpr ⟨hfails, hfails'⟩
  | true =>
      rw [Ne, evaluate_merge_of_isNegated hnegated hfirst hsecond]
      exact fun h => hfails h.1

/-- **All unions.** -/
theorem evaluate_unionOf_ne_pass {references : List Reference} (hne : references ≠ [])
    (hsuits : ∀ r ∈ references, r.Suits operator)
    (heach : operator = .each → references.length ≤ 1)
    (hfails : ∀ r ∈ references, (Clause.mk operator r).evaluate v ≠ .pass) :
    (Clause.mk operator (unionOf operator references)).evaluate v ≠ .pass := by
  induction references using List.reverseRecOn with
  | nil => exact absurd rfl hne
  | append_singleton references r ih =>
      obtain ⟨hsuits, hr⟩ := List.forall_mem_append.mp hsuits
      obtain ⟨hfails, hrfails⟩ := List.forall_mem_append.mp hfails
      have hr := hr r (List.mem_singleton_self r)
      have hrfails := hrfails r (List.mem_singleton_self r)
      by_cases hnil : references = []
      · -- An only reference is its own union, whatever the operator is.
        subst hnil
        exact hrfails
      · have hoperator : operator ≠ .each := by
          intro heq
          have hlength := heach heq
          have hpos := List.length_pos_of_ne_nil hnil
          rw [List.length_append, List.length_singleton] at hlength
          omega
        rw [← merge_unionOf hnil hsuits hr]
        exact evaluate_merge_ne_pass hoperator (suits_unionOf hnil hsuits) hr
          (ih hnil hsuits (fun heq => absurd heq hoperator) hfails) hrfails

end Union

/-! ## The merged clauses -/

section SingleChecks

variable {leaves : List Condition}
  (hsingle : ∀ c ∈ leaves, (∃ x, c = .literal x) ∨ ∃ clause, c = .all [clause])

include hsingle

/-- Every check on elements contributes one reference of `each`, and nothing else does. -/
theorem length_referencesOf_each :
    (referencesOf .each (leaves.flatMap Condition.flatten)).length =
      leaves.countP Condition.isEachCheck := by
  induction leaves with
  | nil => rfl
  | cons c rest ih =>
      obtain ⟨hc, hrest⟩ := List.forall_mem_cons.mp hsingle
      obtain ⟨operator, reference, hflatten, heach, -⟩ := exists_flatten_of_single hc
      rw [List.flatMap_cons, hflatten, List.countP_cons, heach, ← ih hrest]
      by_cases hoperator : operator = .each <;> simp [referencesOf, hoperator]

/-- A check that fails contributes a clause that fails. -/
theorem evaluate_ne_pass_of_mem_flatten {v : Value}
    (hfails : ∀ c ∈ leaves, c.evaluate v ≠ .pass) :
    ∀ pair ∈ leaves.flatMap Condition.flatten, (Clause.mk pair.1 pair.2).evaluate v ≠ .pass := by
  intro pair hpair
  obtain ⟨c, hc, hpair⟩ := List.mem_flatMap.mp hpair
  obtain ⟨operator, reference, hflatten, -, hevaluate⟩ := exists_flatten_of_single (hsingle c hc)
  rw [hflatten, List.mem_singleton] at hpair
  subst hpair
  rw [Ne, hevaluate]
  exact hfails c hc

theorem flatMap_flatten_ne_nil (hne : leaves ≠ []) : leaves.flatMap Condition.flatten ≠ [] := by
  obtain ⟨c, rest, rfl⟩ := List.exists_cons_of_ne_nil hne
  obtain ⟨operator, reference, hflatten, -⟩ :=
    exists_flatten_of_single (hsingle c List.mem_cons_self)
  simp [hflatten]

end SingleChecks

theorem mergeAlternatives_eq_mergedClauses {alternatives : List Condition}
    (hnormal : (Condition.any alternatives).Normal) :
    mergeAlternatives alternatives = mergedClauses (flattenAlternatives alternatives) := by
  have hsuits := suits_of_mem_flatten hnormal
  rw [Condition.flatten] at hsuits
  exact foldl_mergeClause hsuits

/-- If single checks fail, the clauses merged from them fail. -/
theorem evaluate_merged_ne_pass {alternatives : List Condition}
    (hnormal : (Condition.any alternatives).Normal) (hsingle : SingleChecks alternatives)
    {v : Value} (hfails : (Condition.any alternatives).evaluate v ≠ .pass) :
    (Condition.all (mergeAlternatives alternatives)).evaluate v ≠ .pass := by
  obtain ⟨hne, hsingle, heach⟩ := hsingle
  have hsuits := suits_of_mem_flatten hnormal
  rw [Condition.flatten] at hsuits
  have hleaves : ∀ c ∈ leavesOf alternatives, c.evaluate v ≠ .pass := by
    intro c hc hpass
    refine hfails (evaluate_any_eq_pass_iff.mpr ?_)
    exact (evaluate_leavesOf_eq_pass_iff v alternatives).mp ⟨c, hc, hpass⟩
  have hpairs := evaluate_ne_pass_of_mem_flatten hsingle hleaves
  have hpairsNe := flatMap_flatten_ne_nil hsingle hne
  have hlength := length_referencesOf_each hsingle
  rw [← flattenAlternatives_eq_flatMap_leavesOf] at hpairs hpairsNe hlength
  -- Any clause that was merged will do, for instance that of the first operator.
  obtain ⟨⟨operator, reference⟩, hpair⟩ := List.exists_mem_of_ne_nil _ hpairsNe
  have hreference : reference ∈ referencesOf operator (flattenAlternatives alternatives) :=
    mem_referencesOf.mpr hpair
  have hclause : (Clause.mk operator (unionOf operator
      (referencesOf operator (flattenAlternatives alternatives)))).evaluate v ≠ .pass := by
    refine evaluate_unionOf_ne_pass (List.ne_nil_of_mem hreference) ?_ ?_ ?_
    · exact fun r hr => hsuits (operator, r) (mem_referencesOf.mp hr)
    · rintro rfl
      exact hlength.trans_le heach
    · exact fun r hr => hpairs (operator, r) (mem_referencesOf.mp hr)
  rw [mergeAlternatives_eq_mergedClauses hnormal, Condition.evaluate, Ne, evaluateAll_eq_pass_iff]
  intro hpass
  refine hclause (hpass _ (List.mem_map.mpr ⟨operator, ?_, rfl⟩))
  exact List.mem_eraseDups.mpr (List.mem_map.mpr ⟨_, hpair, rfl⟩)

/-! ## Failures -/

/-- **Reported clauses reject what they are reported for.**  When a failure ends in
alternatives, the value that was examined fails the reported condition again. -/
theorem reported_rejects_actual {c : Condition} (hc : c.Normal)
    (hsingle : ∀ alternatives, (Condition.any alternatives).Occurs c → SingleChecks alternatives)
    {v : Value} {failure : Failure} (hfail : c.evaluate v = .fail failure)
    (hlast : failure.check.last = .alternatives) :
    ∃ d, failure.reference = .condition d ∧ (d.evaluate failure.actual).isPass = false := by
  cases origin_of_evaluate_eq_fail hc hfail with
  | literal _ hliteral =>
      rw [hlast] at hliteral
      cases hliteral
  | clause _ _ hclause =>
      rw [hlast] at hclause
      cases hclause
  | @alternatives alternatives hoccurs _ hfails hreference =>
      refine ⟨_, hreference, ?_⟩
      rw [← Bool.not_eq_true, Outcome.isPass_iff] at hfails ⊢
      exact evaluate_merged_ne_pass (hoccurs.normal hc) (hsingle alternatives hoccurs) hfails

/-- No value, a length that is null, or elements that are all true. -/
def nullOrTruths : Condition :=
  .any [.literal .null, .any [.all [.mk .length (.condition (.any [.literal .null]))]],
    .all [.mk .each (.condition (.literal (.bool true)))]]

/-- The array `[false]` fails all three, and the reported clauses once more. -/
theorem nullOrTruths_rejects :
    nullOrTruths.Normal ∧
      (∀ alternatives, (Condition.any alternatives).Occurs nullOrTruths →
        SingleChecks alternatives) ∧
      ∃ failure d, nullOrTruths.evaluate (.array [.bool false]) = .fail failure ∧
        failure.check.last = .alternatives ∧ failure.reference = .condition d ∧
        (d.evaluate failure.actual).isPass = false := by
  have hnormal : nullOrTruths.Normal := by
    simp [nullOrTruths, Condition.Normal, ClausesNormal, ConditionsNormal, Clause.Normal,
      Reference.Normal, Operator.isNested]
  have hsingle : ∀ alternatives, (Condition.any alternatives).Occurs nullOrTruths →
      SingleChecks alternatives := by
    intro alternatives hoccurs
    simp only [nullOrTruths, Condition.occurs_any_iff, Condition.occurs_all_iff,
      Condition.occurs_literal_iff, Condition.any.injEq, Clause.mk.injEq,
      Reference.condition.injEq, List.mem_cons, List.not_mem_nil, or_false, false_or, or_self,
      and_true, and_false, exists_eq_or_imp, exists_eq_left, exists_false, ↓existsAndEq,
      reduceCtorEq] at hoccurs
    rcases hoccurs with rfl | rfl | rfl
    · exact ⟨List.cons_ne_nil _ _, by simp [leavesOf, Condition.leaves], by decide⟩
    · exact ⟨List.cons_ne_nil _ _, by simp [leavesOf, Condition.leaves], by decide⟩
    · exact ⟨List.cons_ne_nil _ _, by simp [leavesOf, Condition.leaves], by decide⟩
  have hfail : nullOrTruths.evaluate (.array [.bool false]) = .fail _ := rfl
  obtain ⟨d, hreference, hrejects⟩ := reported_rejects_actual hnormal hsingle hfail rfl
  exact ⟨hnormal, hsingle, _, d, hfail, rfl, hreference, hrejects⟩

/-- With two checks on elements the law fails: the first element passes one of them, and
the second the other. -/
example : ∃ failure d,
    (Condition.any [.all [.mk .each (.condition (.literal .null))],
      .all [.mk .each (.condition (.literal (.bool true)))]]).evaluate
        (.array [.null, .bool true]) = .fail failure ∧
      failure.reference = .condition d ∧ d.evaluate failure.actual = .pass :=
  ⟨_, _, rfl, rfl, rfl⟩

end ValueAssertions
