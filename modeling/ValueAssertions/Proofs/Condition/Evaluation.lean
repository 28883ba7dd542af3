import ValueAssertions.Condition.Evaluation

/-!
# Laws of evaluation

Evaluation runs over clauses, alternatives and elements by recursion on lists.
The laws below say what each of these runs amounts to in terms of its members:

* clauses pass when each of them does (`evaluateAll_eq_pass_iff`), and a failure
  of clauses is the failure of one of them (`exists_of_evaluateAll_eq_fail`);
* alternatives have no list of phrases exactly when one of them passes
  (`failurePhrases?_eq_none_iff`), and they fail with these phrases
  (`evaluate_any_eq_fail_iff`);
* elements pass when each of them does (`firstFailure_eq_pass_iff`), and a failure
  of elements is that of the first of them that fails, with its index
  (`firstFailure_eq_fail_iff`).

A property of all conditions is proved by one induction (`Condition.induction`), and one
of conditions in normal form by another (`Condition.Normal.induction`), in which a clause
either is a leaf or nests a condition under `length` or `each` (`Clause.normal_cases`).  A
property of all their failures is proved along the way that a failure takes from the check
that makes it (`Condition.failure_induction`).
-/

namespace ValueAssertions

/-! ## Outcomes -/

namespace Outcome

theorem isPass_iff {outcome : Outcome} : outcome.isPass = true ↔ outcome = .pass := by
  cases outcome <;> simp [isPass]

theorem andThen_eq_pass_iff {first second : Outcome} :
    first.andThen second = .pass ↔ first = .pass ∧ second = .pass := by
  cases first <;> simp [andThen]

theorem andThen_eq_fail_iff {first second : Outcome} {failure : Failure} :
    first.andThen second = .fail failure ↔
      first = .fail failure ∨ first = .pass ∧ second = .fail failure := by
  cases first <;> simp [andThen]

theorem underLength_eq_pass_iff {outcome : Outcome} :
    outcome.underLength = .pass ↔ outcome = .pass := by
  cases outcome <;> simp [underLength]

theorem underLength_eq_fail_iff {outcome : Outcome} {failure : Failure} :
    outcome.underLength = .fail failure ↔
      ∃ inner, outcome = .fail inner ∧
        { inner with
          check := .length inner.check
          details := "length " ++ inner.details } = failure := by
  cases outcome <;> simp [underLength]

theorem underEach_eq_pass_iff {outcome : Outcome} {index : Nat} :
    outcome.underEach index = .pass ↔ outcome = .pass := by
  cases outcome <;> simp [underEach]

theorem underEach_eq_fail_iff {outcome : Outcome} {index : Nat} {failure : Failure} :
    outcome.underEach index = .fail failure ↔
      ∃ inner, outcome = .fail inner ∧
        { inner with check := .each inner.check, index := some index } = failure := by
  cases outcome <;> simp [underEach]

end Outcome

/-! ## Clauses -/

/-- An operator without a nested condition is a leaf. -/
theorem Clause.evaluate_leaf {operator : Operator} (hleaf : operator.isNested = false)
    (v : Value) (reference : Reference) :
    (Clause.mk operator reference).evaluate v = evaluateLeaf v operator reference := by
  cases operator <;> first | rfl | cases hleaf

theorem Clause.evaluate_length (v : Value) (c : Condition) :
    (Clause.mk .length (.condition c)).evaluate v =
      (c.evaluate v.lengthValue).underLength := by
  rw [Clause.evaluate]

theorem Clause.evaluate_each_array (items : List Value) (c : Condition) :
    (Clause.mk .each (.condition c)).evaluate (.array items) =
      firstFailure (fun item => c.evaluate item) 0 items := by
  rw [Clause.evaluate]

/-- A value is an array. -/
def Value.IsArray (v : Value) : Prop :=
  ∃ items, v = .array items

theorem Clause.evaluate_each_of_not_isArray {v : Value} (hv : ¬ v.IsArray) (c : Condition) :
    (Clause.mk .each (.condition c)).evaluate v = failEach v (.condition c) := by
  cases v <;> first | rfl | exact absurd ⟨_, rfl⟩ hv

theorem evaluateLeaf_eq_pass_iff {v : Value} {operator : Operator} {reference : Reference} :
    evaluateLeaf v operator reference = .pass ↔ operator.holds v reference = true := by
  unfold evaluateLeaf
  split <;> simp_all

/-- The failure of a leaf says that the operator does not hold, and describes its clause. -/
theorem evaluateLeaf_eq_fail_iff {v : Value} {operator : Operator} {reference : Reference}
    {failure : Failure} :
    evaluateLeaf v operator reference = .fail failure ↔
      operator.holds v reference = false ∧
        failure = ⟨.operator operator, reference, operator.examined v,
          (Clause.mk operator reference).describe, none⟩ := by
  unfold evaluateLeaf
  split
  · next hholds => simp [hholds]
  · next hholds => simp [hholds, eq_comm (a := failure)]

/-- The length of a value is never an array. -/
theorem Value.not_isArray_lengthValue (v : Value) : ¬ v.lengthValue.IsArray := by
  rintro ⟨items, hitems⟩
  unfold Value.lengthValue at hitems
  split at hitems <;> cases hitems

/-! ## Lists of clauses, alternatives and elements -/

theorem evaluateAll_eq_pass_iff {v : Value} {clauses : List Clause} :
    evaluateAll v clauses = .pass ↔ ∀ c ∈ clauses, c.evaluate v = .pass := by
  induction clauses with
  | nil => simp [evaluateAll]
  | cons c rest ih =>
      rw [evaluateAll, Outcome.andThen_eq_pass_iff, ih, List.forall_mem_cons]

/-- A condition of one clause has the outcome of the clause. -/
theorem evaluate_single (clause : Clause) (v : Value) :
    (Condition.all [clause]).evaluate v = clause.evaluate v := by
  rw [Condition.evaluate, evaluateAll, evaluateAll]
  cases clause.evaluate v <;> rfl

/-- A condition of one leaf passes when the operator holds. -/
theorem evaluate_singleLeaf_eq_pass_iff {operator : Operator}
    (hleaf : operator.isNested = false) {v : Value} {reference : Reference} :
    (Condition.all [.mk operator reference]).evaluate v = .pass ↔
      operator.holds v reference = true := by
  rw [evaluate_single, Clause.evaluate_leaf hleaf, evaluateLeaf_eq_pass_iff]

theorem exists_of_evaluateAll_eq_fail {v : Value} {clauses : List Clause} {failure : Failure}
    (hfail : evaluateAll v clauses = .fail failure) :
    ∃ c ∈ clauses, c.evaluate v = .fail failure := by
  induction clauses with
  | nil => simp [evaluateAll] at hfail
  | cons c rest ih =>
      rw [evaluateAll, Outcome.andThen_eq_fail_iff] at hfail
      rcases hfail with hfirst | ⟨-, hrest⟩
      · exact ⟨c, List.mem_cons_self .., hfirst⟩
      · obtain ⟨d, hd, hfail⟩ := ih hrest
        exact ⟨d, List.mem_cons_of_mem _ hd, hfail⟩

theorem failurePhrases?_eq_none_iff {v : Value} {alternatives : List Condition} :
    failurePhrases? v alternatives = none ↔ ∃ c ∈ alternatives, c.evaluate v = .pass := by
  induction alternatives with
  | nil => simp [failurePhrases?]
  | cons c rest ih =>
      rw [failurePhrases?]
      cases hc : c.evaluate v with
      | pass => simp [hc]
      | fail failure => simp [hc, ih]

theorem evaluate_any_eq_pass_iff {v : Value} {alternatives : List Condition} :
    (Condition.any alternatives).evaluate v = .pass ↔
      ∃ c ∈ alternatives, c.evaluate v = .pass := by
  rw [Condition.evaluate, ← failurePhrases?_eq_none_iff]
  cases failurePhrases? v alternatives <;> simp [failAlternatives]

/-- Alternatives fail when they have phrases, with their merged clauses. -/
theorem evaluate_any_eq_fail_iff {v : Value} {alternatives : List Condition} {failure : Failure} :
    (Condition.any alternatives).evaluate v = .fail failure ↔
      ∃ phrases, failurePhrases? v alternatives = some phrases ∧
        failure = ⟨.alternatives, .condition (.all (mergeAlternatives alternatives)), v,
          joinAlternatives phrases, none⟩ := by
  rw [Condition.evaluate]
  cases failurePhrases? v alternatives with
  | none => simp
  | some phrases => simp [failAlternatives, eq_comm (a := failure)]

/-- Alternatives that fail do so with their merged clauses and some phrases. -/
theorem exists_of_evaluate_any_eq_fail {v : Value} {alternatives : List Condition}
    {failure : Failure} (hfail : (Condition.any alternatives).evaluate v = .fail failure) :
    ∃ phrases, failAlternatives v alternatives phrases = .fail failure := by
  obtain ⟨phrases, -, rfl⟩ := evaluate_any_eq_fail_iff.mp hfail
  exact ⟨phrases, rfl⟩

theorem firstFailure_eq_pass_iff {check : Value → Outcome} {index : Nat} {items : List Value} :
    firstFailure check index items = .pass ↔ ∀ item ∈ items, check item = .pass := by
  induction items generalizing index with
  | nil => simp [firstFailure]
  | cons item rest ih =>
      rw [firstFailure, Outcome.andThen_eq_pass_iff, Outcome.underEach_eq_pass_iff, ih,
        List.forall_mem_cons]

/-- A failure of elements is that of the first element that fails, with its index. -/
theorem firstFailure_eq_fail_iff {check : Value → Outcome} {start : Nat} {items : List Value}
    {failure : Failure} :
    firstFailure check start items = .fail failure ↔
      ∃ (i : Nat) (item : Value), items[i]? = some item ∧
        (∀ j < i, ∀ earlier, items[j]? = some earlier → check earlier = .pass) ∧
          (check item).underEach (start + i) = .fail failure := by
  induction items generalizing start with
  | nil => simp [firstFailure]
  | cons head rest ih =>
      rw [firstFailure, Outcome.andThen_eq_fail_iff, Outcome.underEach_eq_pass_iff, ih]
      constructor
      · rintro (hfirst | ⟨hhead, i, item, hitem, hbefore, hfail⟩)
        · exact ⟨0, head, rfl, nofun, hfirst⟩
        · refine ⟨i + 1, item, hitem, ?_, by rwa [Nat.add_comm i 1, ← Nat.add_assoc]⟩
          rintro (_ | j) hj earlier hearlier
          · exact Option.some.inj hearlier ▸ hhead
          · exact hbefore j (Nat.lt_of_succ_lt_succ hj) earlier hearlier
      · rintro ⟨_ | i, item, hitem, hbefore, hfail⟩
        · obtain rfl : head = item := Option.some.inj hitem
          exact .inl hfail
        · refine .inr ⟨hbefore 0 i.succ_pos head rfl, i, item, hitem, ?_, ?_⟩
          · exact fun j hj => hbefore (j + 1) (Nat.succ_lt_succ hj)
          · rwa [Nat.add_assoc, Nat.add_comm 1 i]

/-- A failure of elements is that of the element at its index. -/
theorem exists_of_firstFailure_eq_fail {check : Value → Outcome} {start : Nat}
    {items : List Value} {failure : Failure}
    (hfail : firstFailure check start items = .fail failure) :
    ∃ (i : Nat) (item : Value), items[i]? = some item ∧
      (check item).underEach (start + i) = .fail failure := by
  obtain ⟨i, item, hitem, -, hfail⟩ := firstFailure_eq_fail_iff.mp hfail
  exact ⟨i, item, hitem, hfail⟩

/-! ## Induction on conditions -/

/-- Induction on a condition.  Of clauses one may assume the property for the conditions that
they nest. -/
@[elab_as_elim]
theorem Condition.induction {motive : Condition → Prop} (literal : ∀ x, motive (.literal x))
    (all : ∀ clauses, (∀ operator d, Clause.mk operator (.condition d) ∈ clauses → motive d) →
      motive (.all clauses))
    (any : ∀ alternatives, (∀ c ∈ alternatives, motive c) → motive (.any alternatives))
    (c : Condition) : motive c :=
  match c with
  | .literal x => literal x
  | .all clauses => all clauses fun _ d _hmem => Condition.induction literal all any d
  | .any alternatives => any alternatives fun c _hmem => Condition.induction literal all any c
termination_by sizeOf c
decreasing_by
  · have := List.sizeOf_lt_of_mem _hmem
    simp only [Clause.mk.sizeOf_spec, Reference.condition.sizeOf_spec] at this
    simp only [Condition.all.sizeOf_spec]
    omega
  · have := List.sizeOf_lt_of_mem _hmem
    simp only [Condition.any.sizeOf_spec]
    omega

theorem clausesNormal_iff {clauses : List Clause} :
    ClausesNormal clauses ↔ ∀ c ∈ clauses, c.Normal := by
  induction clauses with
  | nil => simp [ClausesNormal]
  | cons c rest ih => rw [ClausesNormal, ih, List.forall_mem_cons]

theorem conditionsNormal_iff {conditions : List Condition} :
    ConditionsNormal conditions ↔ ∀ c ∈ conditions, c.Normal := by
  induction conditions with
  | nil => simp [ConditionsNormal]
  | cons c rest ih => rw [ConditionsNormal, ih, List.forall_mem_cons]

/-- A clause in normal form is a leaf, or it nests a condition in normal form under
one of the two operators that do so. -/
theorem Clause.normal_cases {operator : Operator} {reference : Reference}
    (h : (Clause.mk operator reference).Normal) :
    operator.isNested = false ∨
      ∃ c : Condition, reference = .condition c ∧ c.Normal ∧
        (operator = .length ∨ operator = .each) := by
  rw [Clause.Normal] at h
  cases hnested : operator.isNested with
  | false => exact Or.inl rfl
  | true =>
      have hoperator : operator = .length ∨ operator = .each := by
        cases operator <;> simp_all [Operator.isNested]
      have hpattern : operator.isPattern = false := by
        rcases hoperator with rfl | rfl <;> rfl
      cases reference with
      | condition c =>
          exact Or.inr ⟨c, rfl, by simpa [Reference.Normal, hnested] using h, hoperator⟩
      | _ => simp [Reference.Normal, hnested, hpattern] at h

theorem Condition.normal_all_iff {clauses : List Clause} :
    (Condition.all clauses).Normal ↔ ∀ c ∈ clauses, c.Normal := by
  rw [Condition.Normal, clausesNormal_iff]

theorem Condition.normal_any_iff {alternatives : List Condition} :
    (Condition.any alternatives).Normal ↔ ∀ c ∈ alternatives, c.Normal := by
  rw [Condition.Normal, conditionsNormal_iff]

/-- Induction on a condition in normal form.  Of clauses one may assume the
property for the conditions that they nest. -/
@[elab_as_elim]
theorem Condition.Normal.induction {motive : (c : Condition) → c.Normal → Prop}
    (literal : ∀ x h, motive (.literal x) h)
    (all : ∀ clauses (h : (Condition.all clauses).Normal),
      (∀ operator d, Clause.mk operator (.condition d) ∈ clauses → ∀ hd, motive d hd) →
        motive (.all clauses) h)
    (any : ∀ alternatives (h : (Condition.any alternatives).Normal),
      (∀ c ∈ alternatives, ∀ hc, motive c hc) → motive (.any alternatives) h)
    (c : Condition) (hc : c.Normal) : motive c hc := by
  induction c using Condition.induction with
  | literal x => exact literal x hc
  | all clauses ih => exact all clauses hc ih
  | any alternatives ih => exact any alternatives hc ih

/-! ## Induction on failures -/

/-- Induction on a failure of a normal condition.  Failures are made by leaves that do not
hold, by checks on elements of a value that has none, and by alternatives.  Checks on lengths
and on elements pass them on. -/
theorem Condition.failure_induction {motive : Value → Failure → Prop}
    (leaf : ∀ v operator reference, operator.isNested = false →
      operator.holds v reference = false →
        motive v ⟨.operator operator, reference, operator.examined v,
          (Clause.mk operator reference).describe, none⟩)
    (noElements : ∀ v nested, ¬ v.IsArray →
      motive v ⟨.operator .each, .condition nested, v, "array", none⟩)
    (alternatives : ∀ v clauses details,
      motive v ⟨.alternatives, .condition (.all clauses), v, details, none⟩)
    (length : ∀ v inner, motive v.lengthValue inner →
      motive v { inner with
        check := .length inner.check
        details := "length " ++ inner.details })
    (element : ∀ items i item inner, items[i]? = some item → motive item inner →
      motive (.array items) { inner with check := .each inner.check, index := some i })
    {c : Condition} (hc : c.Normal) {v : Value} {failure : Failure}
    (hfail : c.evaluate v = .fail failure) : motive v failure := by
  have hleaf : ∀ {v operator reference failure}, operator.isNested = false →
      evaluateLeaf v operator reference = .fail failure → motive v failure := by
    intro v operator reference failure hnested hfail
    obtain ⟨hholds, rfl⟩ := evaluateLeaf_eq_fail_iff.mp hfail
    exact leaf v operator reference hnested hholds
  induction c, hc using Condition.Normal.induction generalizing v failure with
  | literal x _ =>
      rw [Condition.evaluate] at hfail
      exact hleaf rfl hfail
  | all clauses hnormal ih =>
      rw [Condition.evaluate] at hfail
      obtain ⟨⟨operator, reference⟩, hmem, hfail⟩ := exists_of_evaluateAll_eq_fail hfail
      have hclause := Condition.normal_all_iff.mp hnormal _ hmem
      rcases Clause.normal_cases hclause with hnested | ⟨d, rfl, hd, rfl | rfl⟩
      · rw [Clause.evaluate_leaf hnested] at hfail
        exact hleaf hnested hfail
      · rw [Clause.evaluate_length, Outcome.underLength_eq_fail_iff] at hfail
        obtain ⟨inner, hinner, rfl⟩ := hfail
        exact length v inner (ih .length d hmem hd hinner)
      by_cases harray : v.IsArray
      · obtain ⟨items, rfl⟩ := harray
        rw [Clause.evaluate_each_array] at hfail
        obtain ⟨i, item, hitem, hfail⟩ := exists_of_firstFailure_eq_fail hfail
        rw [Nat.zero_add, Outcome.underEach_eq_fail_iff] at hfail
        obtain ⟨inner, hinner, rfl⟩ := hfail
        exact element items i item inner hitem (ih .each d hmem hd hinner)
      · rw [Clause.evaluate_each_of_not_isArray harray] at hfail
        cases hfail
        exact noElements v d harray
  | any cs hnormal ih =>
      obtain ⟨phrases, -, rfl⟩ := evaluate_any_eq_fail_iff.mp hfail
      exact alternatives v (mergeAlternatives cs) (joinAlternatives phrases)

end ValueAssertions
