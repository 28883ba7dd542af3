import ValueAssertions.Proofs.Condition.Evaluation
import Mathlib.Data.List.Infix

/-!
# What it means to satisfy a condition

`Condition.Holds` says when a value satisfies a condition, by rules that know
nothing of evaluation: no order of checks, no failures, no phrases.  A leaf
operator is a relation between a value and one alternative (`Operator.Relates`),
and a clause asks for some alternative in the relation, or, when the operator is
negated, for none.

The main statement is `isPass_evaluate_iff_holds`: evaluation passes exactly the
values that satisfy the condition.  It rests on

* `Operator.holds_iff_relates`, which takes a positive leaf apart, first into its
  alternatives and then into the relation of each;
* `Operator.holds_neq` and `Operator.holds_string_of_isNegated`, which reduce the
  negated leaves to positive ones;
* the laws of `Proofs/Condition/Evaluation.lean` for everything that is not a leaf.
-/

namespace ValueAssertions

/-! ## Alternatives -/

/-- One thing that a leaf operator compares a value with. -/
inductive Alternative where
  | value (value : Value)
  | pattern (pattern : Pattern)

/-- The alternatives of a reference, in order; a condition has none. -/
def Reference.alternatives : Reference → List Alternative
  | .value v => [.value v]
  | .values vs => vs.map .value
  | .pattern p => [.pattern p]
  | .patterns ps => ps.map .pattern
  | .condition _ => []

theorem Reference.value_mem_alternatives {reference : Reference} {r : Value} :
    .value r ∈ reference.alternatives ↔ r ∈ reference.valueList := by
  cases reference <;> simp [alternatives, valueList]

theorem Reference.pattern_mem_alternatives {reference : Reference} {p : Pattern} :
    .pattern p ∈ reference.alternatives ↔ p ∈ reference.patternList := by
  cases reference <;> simp [alternatives, patternList]

/-! ## The relations of the leaf operators -/

/-- The expression that a source and its flags write is found in a text. -/
def Found (source : String) (flags : Option String) (text : String) : Prop :=
  ∃ expression, readExpression? source (flags.getD "") = some expression ∧
    expression.isFoundIn text = true

/-- How a value stands to one alternative of a positive leaf operator. -/
inductive Operator.Relates : Operator → Value → Alternative → Prop
  | type {v : Value} : Relates .type v (.value (.string v.typeTag))
  | eq {v r : Value} (h : (v == r) = true) : Relates .eq v (.value r)
  | lt {v r : Value} (h : v.compare? r = some .lt) : Relates .lt v (.value r)
  | lte {v r : Value} {order : Ordering} (h : v.compare? r = some order) (hle : order ≠ .gt) :
      Relates .lte v (.value r)
  | gt {v r : Value} (h : v.compare? r = some .gt) : Relates .gt v (.value r)
  | gte {v r : Value} {order : Ordering} (h : v.compare? r = some order) (hge : order ≠ .lt) :
      Relates .gte v (.value r)
  | integer {n : Number} : Relates .integer (.number n) (.value (.bool n.isIntegral))
  | divides {m n : Number} (h : Number.isExactQuotient m n = true) :
      Relates .divides (.number n) (.value (.number m))
  | multiple {m n : Number} (h : Number.isExactQuotient n m = true) :
      Relates .multiple (.number n) (.value (.number m))
  | contains {s : String} {r : Value} (h : r.plain.toList <:+: s.toList) :
      Relates .contains (.string s) (.value r)
  | begins {s : String} {r : Value} (h : r.plain.toList <+: s.toList) :
      Relates .begins (.string s) (.value r)
  | ends {s : String} {r : Value} (h : r.plain.toList <:+ s.toList) :
      Relates .ends (.string s) (.value r)
  | matches {s : String} {p : Pattern} (h : Found p.source p.flags s) :
      Relates .matches (.string s) (.pattern p)

/-- The operator whose alternatives a negated one excludes. -/
def Operator.opposite : Operator → Operator
  | .neq => .eq
  | .containsNot => .contains
  | .beginsNot => .begins
  | .endsNot => .ends
  | .matchesNot => .matches
  | operator => operator

/-! ## Satisfaction -/

mutual

/-- A value satisfies a condition. -/
inductive Condition.Holds : Condition → Value → Prop
  | literal {x v : Value} (h : (v == x) = true) : Condition.Holds (.literal x) v
  | all {clauses : List Clause} {v : Value} (h : ∀ c ∈ clauses, Clause.Holds c v) :
      Condition.Holds (.all clauses) v
  | any {alternatives : List Condition} {c : Condition} {v : Value} (hmem : c ∈ alternatives)
      (h : Condition.Holds c v) : Condition.Holds (.any alternatives) v

/-- A value satisfies a clause. -/
inductive Clause.Holds : Clause → Value → Prop
  | lengthOfString {c : Condition} {s : String}
      (h : Condition.Holds c (.number (.ofNat s.length))) :
      Clause.Holds (.mk .length (.condition c)) (.string s)
  | lengthOfArray {c : Condition} {items : List Value}
      (h : Condition.Holds c (.number (.ofNat items.length))) :
      Clause.Holds (.mk .length (.condition c)) (.array items)
  | noLength {c : Condition} {v : Value} (hstring : ¬ v.IsString) (harray : ¬ v.IsArray)
      (h : Condition.Holds c .undefined) : Clause.Holds (.mk .length (.condition c)) v
  | each {c : Condition} {items : List Value} (h : ∀ item ∈ items, Condition.Holds c item) :
      Clause.Holds (.mk .each (.condition c)) (.array items)
  | positive {operator : Operator} {reference : Reference} {v : Value} {a : Alternative}
      (hpositive : operator.isNegated = false) (hmem : a ∈ reference.alternatives)
      (h : operator.Relates v a) : Clause.Holds (.mk operator reference) v
  | neq {reference : Reference} {v : Value}
      (h : ∀ a ∈ reference.alternatives, ¬ Operator.Relates .eq v a) :
      Clause.Holds (.mk .neq reference) v
  | negated {operator : Operator} {reference : Reference} {s : String}
      (hnegated : operator.isNegated = true) (hneq : operator ≠ .neq)
      (h : ∀ a ∈ reference.alternatives, ¬ operator.opposite.Relates (.string s) a) :
      Clause.Holds (.mk operator reference) (.string s)

end

theorem holds_literal_iff {x v : Value} : (Condition.literal x).Holds v ↔ (v == x) = true :=
  ⟨fun h => by cases h; assumption, Condition.Holds.literal⟩

theorem holds_all_iff {clauses : List Clause} {v : Value} :
    (Condition.all clauses).Holds v ↔ ∀ c ∈ clauses, c.Holds v :=
  ⟨fun h => by cases h; assumption, Condition.Holds.all⟩

theorem holds_any_iff {alternatives : List Condition} {v : Value} :
    (Condition.any alternatives).Holds v ↔ ∃ c ∈ alternatives, c.Holds v := by
  constructor
  · intro h
    cases h with
    | any hmem h => exact ⟨_, hmem, h⟩
  · rintro ⟨c, hmem, h⟩
    exact .any hmem h

theorem Operator.not_relates_of_isNested {operator : Operator}
    (hnested : operator.isNested = true) {v : Value} {a : Alternative} :
    ¬ operator.Relates v a := by
  intro h
  cases h <;> cases hnested

theorem holds_length_iff {c : Condition} {v : Value} :
    (Clause.mk .length (.condition c)).Holds v ↔ c.Holds v.lengthValue := by
  constructor
  · intro h
    cases h with
    | lengthOfString h => exact h
    | lengthOfArray h => exact h
    | noLength hstring harray h =>
        cases v with
        | string s => exact absurd rfl hstring
        | array items => exact absurd ⟨items, rfl⟩ harray
        | _ => exact h
    | positive _ _ h => exact absurd h (Operator.not_relates_of_isNested rfl)
    | negated hnegated => cases hnegated
  · intro h
    cases v with
    | string s => exact .lengthOfString h
    | array items => exact .lengthOfArray h
    | _ => refine .noLength ?_ ?_ h <;> nofun

theorem holds_each_iff {c : Condition} {v : Value} :
    (Clause.mk .each (.condition c)).Holds v ↔
      ∃ items, v = .array items ∧ ∀ item ∈ items, c.Holds item := by
  constructor
  · intro h
    cases h with
    | each h => exact ⟨_, rfl, h⟩
    | positive _ _ h => exact absurd h (Operator.not_relates_of_isNested rfl)
    | negated hnegated => cases hnegated
  · rintro ⟨items, rfl, h⟩
    exact .each h

/-! ## Leaf operators -/

theorem occursIn_iff_isInfix {part s : List Char} : occursIn part s = true ↔ part <:+: s := by
  induction s with
  | nil => simp [occursIn]
  | cons c rest ih =>
      rw [occursIn, Bool.or_eq_true, List.isPrefixOf_iff_prefix, ih, List.infix_cons_iff]

theorem Pattern.isFoundIn_iff {p : Pattern} {text : String} :
    p.isFoundIn text = true ↔ Found p.source p.flags text := by
  unfold Found
  rw [p.reads]
  simp [Pattern.isFoundIn]

theorem Value.compares_iff {v r : Value} {accepts : Ordering → Bool} :
    v.compares r accepts = true ↔ ∃ order, v.compare? r = some order ∧ accepts order = true := by
  unfold Value.compares
  cases v.compare? r <;> simp

theorem Value.isIntegerAs_bool_iff {v : Value} {b : Bool} :
    v.isIntegerAs (.bool b) = true ↔ ∃ n, v = .number n ∧ n.isIntegral = b := by
  cases v <;> cases b <;> simp [isIntegerAs, isInteger, asNumber?]

namespace Operator

/-- A positive operator on values holds when it holds of one of the values. -/
theorem holds_eq_any_values {operator : Operator} (hpositive : operator.isNegated = false)
    (hpattern : operator.isPattern = false) (v : Value) (reference : Reference) :
    operator.holds v reference =
      reference.valueList.any fun r => operator.holds v (.value r) := by
  cases operator with
  | neq | containsNot | beginsNot | endsNot | matchesNot => cases hpositive
  | «matches» => cases hpattern
  | contains | begins | ends => cases v <;> simp [holds, Reference.valueList, isNegated]
  | _ => simp [holds, Reference.valueList]

/-- `matches` holds when it holds of one of the patterns. -/
theorem holds_matches_eq_any (v : Value) (reference : Reference) :
    Operator.matches.holds v reference =
      reference.patternList.any fun p => Operator.matches.holds v (.pattern p) := by
  cases v <;> simp [holds, Reference.patternList, isNegated]

/-- If a positive operator holds of one value, that value stands in its relation. -/
theorem relates_of_holds_value {operator : Operator} (hpositive : operator.isNegated = false)
    {v r : Value} (h : operator.holds v (.value r) = true) : operator.Relates v (.value r) := by
  cases operator with
  | type =>
      cases r with
      | string tag =>
          obtain rfl : tag = v.typeTag := by
            simpa [holds, Reference.valueList, Value.asString?] using h
          exact .type
      | _ => cases h
  | eq => exact .eq (by simpa [holds, Reference.valueList] using h)
  | lt =>
      obtain ⟨order, horder, hlt⟩ := Value.compares_iff.mp (by
        simpa [holds, Reference.valueList] using h)
      exact .lt (by rw [horder, eq_of_beq hlt])
  | lte =>
      obtain ⟨order, horder, hle⟩ := Value.compares_iff.mp (by
        simpa [holds, Reference.valueList] using h)
      exact .lte horder (by simpa using hle)
  | gt =>
      obtain ⟨order, horder, hgt⟩ := Value.compares_iff.mp (by
        simpa [holds, Reference.valueList] using h)
      exact .gt (by rw [horder, eq_of_beq hgt])
  | gte =>
      obtain ⟨order, horder, hge⟩ := Value.compares_iff.mp (by
        simpa [holds, Reference.valueList] using h)
      exact .gte horder (by simpa using hge)
  | integer =>
      cases r with
      | bool b =>
          obtain ⟨n, rfl, rfl⟩ := Value.isIntegerAs_bool_iff.mp (by
            simpa [holds, Reference.valueList] using h)
          exact .integer
      | _ => cases h
  | divides =>
      cases r with
      | number m =>
          cases v with
          | number n =>
              exact .divides (by simpa [holds, Reference.valueList, Value.isMultipleOf] using h)
          | _ => cases h
      | _ => cases h
  | multiple =>
      cases v with
      | number n =>
          cases r with
          | number m =>
              exact .multiple (by simpa [holds, Reference.valueList, Value.isMultipleOf] using h)
          | _ => cases h
      | _ => cases h
  | contains =>
      cases v with
      | string s =>
          exact .contains (by
            simpa [holds, Reference.valueList, isNegated, holdsOfText, Value.needle,
              occursIn_iff_isInfix] using h)
      | _ => cases h
  | begins =>
      cases v with
      | string s =>
          exact .begins (by
            simpa [holds, Reference.valueList, isNegated, holdsOfText, Value.needle] using h)
      | _ => cases h
  | ends =>
      cases v with
      | string s =>
          exact .ends (by
            simpa [holds, Reference.valueList, isNegated, holdsOfText, Value.needle] using h)
      | _ => cases h
  | «matches» => cases v <;> cases h
  | length | each => cases h
  | neq | containsNot | beginsNot | endsNot | matchesNot => cases hpositive

/-- A positive operator holds of one value that stands in its relation. -/
theorem holds_value_of_relates {operator : Operator} {v r : Value}
    (h : operator.Relates v (.value r)) : operator.holds v (.value r) = true := by
  cases h with
  | type => simp [holds, Reference.valueList, Value.asString?]
  | eq h => simpa [holds, Reference.valueList] using h
  | lt h => simp [holds, Reference.valueList, Value.compares, h]
  | lte h hle => simp [holds, Reference.valueList, Value.compares, h, hle]
  | gt h => simp [holds, Reference.valueList, Value.compares, h]
  | gte h hge => simp [holds, Reference.valueList, Value.compares, h, hge]
  | integer => simp [holds, Reference.valueList, Value.isIntegerAs_bool_iff]
  | divides h => simpa [holds, Reference.valueList, Value.isMultipleOf] using h
  | multiple h => simpa [holds, Reference.valueList, Value.isMultipleOf] using h
  | contains h =>
      simpa [holds, Reference.valueList, isNegated, holdsOfText, Value.needle,
        occursIn_iff_isInfix] using h
  | begins h =>
      simpa [holds, Reference.valueList, isNegated, holdsOfText, Value.needle] using h
  | ends h =>
      simpa [holds, Reference.valueList, isNegated, holdsOfText, Value.needle] using h

/-- `matches` holds of one pattern that is found in the value. -/
theorem holds_pattern_iff (v : Value) (p : Pattern) :
    Operator.matches.holds v (.pattern p) = true ↔ Operator.matches.Relates v (.pattern p) := by
  constructor
  · intro h
    cases v with
    | string s =>
        exact .matches (Pattern.isFoundIn_iff.mp (by
          simpa [holds, Reference.patternList, isNegated] using h))
    | _ => cases h
  · intro h
    cases h with
    | «matches» h =>
        simpa [holds, Reference.patternList, isNegated] using Pattern.isFoundIn_iff.mpr h

/-- A positive leaf operator holds when the value stands to some alternative in the
operator's relation. -/
theorem holds_iff_relates {operator : Operator} (hpositive : operator.isNegated = false)
    (v : Value) (reference : Reference) :
    operator.holds v reference = true ↔
      ∃ a ∈ reference.alternatives, operator.Relates v a := by
  by_cases hmatches : operator = .matches
  · subst hmatches
    rw [holds_matches_eq_any, List.any_eq_true]
    constructor
    · rintro ⟨p, hp, h⟩
      exact ⟨.pattern p, Reference.pattern_mem_alternatives.mpr hp, (holds_pattern_iff v p).mp h⟩
    · rintro ⟨a, ha, h⟩
      cases a with
      | value r => cases h
      | pattern p =>
          exact ⟨p, Reference.pattern_mem_alternatives.mp ha, (holds_pattern_iff v p).mpr h⟩
  · have hpattern : operator.isPattern = false := by
      cases operator with
      | «matches» => exact absurd rfl hmatches
      | matchesNot => cases hpositive
      | _ => rfl
    rw [holds_eq_any_values hpositive hpattern, List.any_eq_true]
    constructor
    · rintro ⟨r, hr, h⟩
      exact ⟨.value r, Reference.value_mem_alternatives.mpr hr,
        relates_of_holds_value hpositive h⟩
    · rintro ⟨a, ha, h⟩
      cases a with
      | value r =>
          exact ⟨r, Reference.value_mem_alternatives.mp ha, holds_value_of_relates h⟩
      | pattern p =>
          cases h
          cases hpattern

/-- `neq` holds when `eq` does not. -/
theorem holds_neq (v : Value) (reference : Reference) :
    Operator.neq.holds v reference = !Operator.eq.holds v reference := by
  simp [holds]

/-- On strings the negated operators are the complements of the positive ones. -/
theorem holds_string_of_isNegated {operator : Operator} (hnegated : operator.isNegated = true)
    (hneq : operator ≠ .neq) (s : String) (reference : Reference) :
    operator.holds (.string s) reference =
      !operator.opposite.holds (.string s) reference := by
  have hcomplement : ∀ found : Bool, (found != true) = !(found != false) := by decide
  cases operator with
  | containsNot | beginsNot | endsNot | matchesNot => exact hcomplement _
  | neq => exact absurd rfl hneq
  | _ => cases hnegated

/-- On anything but strings the negated operators fail, as the positive ones do. -/
theorem isString_of_holds_of_isNegated {operator : Operator}
    (hnegated : operator.isNegated = true) (hneq : operator ≠ .neq) {v : Value}
    {reference : Reference} (h : operator.holds v reference = true) : ∃ s, v = .string s := by
  cases operator with
  | containsNot | beginsNot | endsNot | matchesNot =>
      cases v with
      | string s => exact ⟨s, rfl⟩
      | _ => cases h
  | neq => exact absurd rfl hneq
  | _ => cases hnegated

theorem isNegated_opposite (operator : Operator) : operator.opposite.isNegated = false := by
  cases operator <;> rfl

end Operator

/-! ## Evaluation and satisfaction -/

/-- A leaf clause is satisfied exactly by the values of which its operator holds. -/
theorem holds_leaf_iff {operator : Operator} (hleaf : operator.isNested = false) {v : Value}
    {reference : Reference} :
    (Clause.mk operator reference).Holds v ↔ operator.holds v reference = true := by
  constructor
  · intro h
    cases h with
    | positive hpositive hmem h =>
        exact (Operator.holds_iff_relates hpositive v reference).mpr ⟨_, hmem, h⟩
    | neq h =>
        rw [Operator.holds_neq, Bool.not_eq_true', ← Bool.not_eq_true,
          Operator.holds_iff_relates rfl]
        rintro ⟨a, ha, hrelates⟩
        exact h a ha hrelates
    | negated hnegated hneq h =>
        rw [Operator.holds_string_of_isNegated hnegated hneq, Bool.not_eq_true',
          ← Bool.not_eq_true, Operator.holds_iff_relates (Operator.isNegated_opposite operator)]
        rintro ⟨a, ha, hrelates⟩
        exact h a ha hrelates
    | lengthOfString | lengthOfArray | noLength | each => cases hleaf
  · intro h
    by_cases hpositive : operator.isNegated = false
    · obtain ⟨a, ha, hrelates⟩ := (Operator.holds_iff_relates hpositive v reference).mp h
      exact .positive hpositive ha hrelates
    -- What is left are the complements: `neq` of `eq` everywhere, the others on strings.
    rw [Bool.not_eq_false] at hpositive
    by_cases hneq : operator = .neq
    · subst hneq
      refine .neq fun a ha hrelates => ?_
      have heq := (Operator.holds_iff_relates rfl v reference).mpr ⟨a, ha, hrelates⟩
      rw [Operator.holds_neq, heq] at h
      cases h
    · obtain ⟨s, rfl⟩ := Operator.isString_of_holds_of_isNegated hpositive hneq h
      refine .negated hpositive hneq fun a ha hrelates => ?_
      have hopposite := (Operator.holds_iff_relates (Operator.isNegated_opposite operator)
        (.string s) reference).mpr ⟨a, ha, hrelates⟩
      rw [Operator.holds_string_of_isNegated hpositive hneq, hopposite] at h
      cases h

/-- Clauses pass when they are satisfied, if the conditions that they nest do. -/
theorem evaluate_clause_eq_pass_iff {clause : Clause} (hclause : clause.Normal)
    (hnested : ∀ d, clause.reference = .condition d → d.Normal →
      ∀ v, d.evaluate v = .pass ↔ d.Holds v) (v : Value) :
    clause.evaluate v = .pass ↔ clause.Holds v := by
  obtain ⟨operator, reference⟩ := clause
  rcases Clause.normal_cases hclause with hleaf | ⟨d, rfl, hd, rfl | rfl⟩
  · rw [Clause.evaluate_leaf hleaf, evaluateLeaf_eq_pass_iff, holds_leaf_iff hleaf]
  · rw [Clause.evaluate_length, Outcome.underLength_eq_pass_iff, holds_length_iff]
    exact hnested d rfl hd v.lengthValue
  · rw [holds_each_iff]
    by_cases harray : v.IsArray
    · obtain ⟨items, rfl⟩ := harray
      rw [Clause.evaluate_each_array, firstFailure_eq_pass_iff]
      simp [hnested d rfl hd]
    · rw [Clause.evaluate_each_of_not_isArray harray]
      constructor
      · intro h
        cases h
      · rintro ⟨items, rfl, -⟩
        exact absurd ⟨items, rfl⟩ harray

theorem evaluate_eq_pass_iff_holds {c : Condition} (hc : c.Normal) (v : Value) :
    c.evaluate v = .pass ↔ c.Holds v := by
  induction c, hc using Condition.Normal.induction generalizing v with
  | literal x _ =>
      rw [Condition.evaluate, evaluateLeaf_eq_pass_iff, holds_literal_iff]
      simp [Operator.holds, Reference.valueList]
  | all clauses hnormal ih =>
      rw [Condition.evaluate, evaluateAll_eq_pass_iff, holds_all_iff]
      refine forall₂_congr fun clause hmem => ?_
      refine evaluate_clause_eq_pass_iff (Condition.normal_all_iff.mp hnormal _ hmem) ?_ v
      -- The induction is on conditions, so a clause hands on what its reference nests.
      rintro d hreference hd
      obtain ⟨operator, _⟩ := clause
      cases hreference
      exact ih operator d hmem hd
  | any alternatives hnormal ih =>
      rw [evaluate_any_eq_pass_iff, holds_any_iff]
      refine exists_congr fun c => and_congr_right fun hmem => ?_
      exact ih c hmem (Condition.normal_any_iff.mp hnormal c hmem) v

/-- **Evaluation decides satisfaction.**  A value passes a condition of normal
clauses exactly when it satisfies it; in particular every value passes no clauses
at all, and none passes where there are no alternatives. -/
theorem isPass_evaluate_iff_holds {c : Condition} (hc : c.Normal) (v : Value) :
    ((c.evaluate v).isPass = true ↔ c.Holds v) ∧
      ((Condition.all []).evaluate v).isPass = true ∧
      ((Condition.any []).evaluate v).isPass = false := by
  refine ⟨?_, rfl, rfl⟩
  rw [Outcome.isPass_iff]
  exact evaluate_eq_pass_iff_holds hc v

/-- Elements of two characters or more, none of which is an `x`. -/
def pairsWithoutX : Condition :=
  .all [.mk .each (.condition (.all [
    .mk .length (.condition (.any [
      .literal (.number (.ofNat 2)), .all [.mk .gt (.value (.number (.ofNat 2)))]])),
    .mk .containsNot (.values [.string "x"])]))]

theorem pairsWithoutX_holds :
    pairsWithoutX.Normal ∧ pairsWithoutX.Holds (.array [.string "ab", .string "cde"]) := by
  have hnormal : pairsWithoutX.Normal := by
    simp [pairsWithoutX, Condition.Normal, ClausesNormal, ConditionsNormal, Clause.Normal,
      Reference.Normal, Operator.isNested, Operator.isPattern]
  exact ⟨hnormal, (isPass_evaluate_iff_holds hnormal _).1.mp (by decide +kernel)⟩

end ValueAssertions
