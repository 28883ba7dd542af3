import ValueAssertions.Proofs.Condition.CheckedMerging
import ValueAssertions.Proofs.Condition.Satisfaction

/-!
# What a union accepts

The union of two references has the alternatives of both.  So an operator that asks for
some alternative accepts with the union what it accepts with either reference, and a
negated one, which asks for none, what it accepts with both.  For lengths the nested
conditions are the alternatives.

Checks on elements are different: with the union an array is accepted whose elements
are accepted some by one reference and some by the other.

A list of alternatives is the union of references that hold one of them each
(`Reference.singles`).  What it accepts depends on these alone, and not on their order or
on how often they occur (`evaluate_congr_of_mem_singles`).  This holds of every operator,
and so does `evaluate_foldl_merge_singles`, which says that the list accepts what the
union does.
-/

namespace ValueAssertions

namespace Reference

variable {operator : Operator} {first second : Reference}

/-- The alternatives of a union are those of both references. -/
theorem alternatives_merge (hleaf : operator.isNested = false) (hfirst : first.Suits operator)
    (hsecond : second.Suits operator) :
    (first.merge second).alternatives = first.alternatives ++ second.alternatives := by
  cases hpattern : operator.isPattern with
  | true =>
      rw [merge_of_isPattern hpattern hfirst hsecond]
      cases first <;> cases second <;>
        simp_all [Suits, alternatives, patternList]
  | false =>
      rw [merge_of_isValue hleaf hpattern hfirst hsecond]
      cases first <;> cases second <;>
        simp_all [Suits, alternatives, valueList]

end Reference

section Union

variable {operator : Operator} {first second : Reference}

/-- An operator that asks for some alternative holds with a union when it holds with
either reference. -/
theorem Operator.holds_merge_of_positive (hleaf : operator.isNested = false)
    (hpositive : operator.isNegated = false) (hfirst : first.Suits operator)
    (hsecond : second.Suits operator) (v : Value) :
    operator.holds v (first.merge second) = true ↔
      operator.holds v first = true ∨ operator.holds v second = true := by
  simp only [Operator.holds_iff_relates hpositive,
    Reference.alternatives_merge hleaf hfirst hsecond, List.mem_append, or_and_right, exists_or]

theorem Operator.isNested_of_isNegated (hnegated : operator.isNegated = true) :
    operator.isNested = false := by
  cases operator <;> first | rfl | cases hnegated

theorem Operator.isNested_opposite (hnegated : operator.isNegated = true) :
    operator.opposite.isNested = false := by
  cases operator <;> first | rfl | cases hnegated

/-- The opposite of an operator works with the same references. -/
theorem Reference.suits_opposite_iff {reference : Reference} :
    reference.Suits operator.opposite ↔ reference.Suits operator := by
  cases operator <;> rfl

/-- An operator that asks for no alternative holds with a union when it holds with both
references. -/
theorem Operator.holds_merge_of_isNegated (hnegated : operator.isNegated = true)
    (hfirst : first.Suits operator) (hsecond : second.Suits operator) (v : Value) :
    operator.holds v (first.merge second) = true ↔
      operator.holds v first = true ∧ operator.holds v second = true := by
  have hopposite : operator.opposite.holds v (first.merge second) = true ↔
      operator.opposite.holds v first = true ∨ operator.opposite.holds v second = true :=
    Operator.holds_merge_of_positive (Operator.isNested_opposite hnegated)
      (Operator.isNegated_opposite operator) (Reference.suits_opposite_iff.mpr hfirst)
      (Reference.suits_opposite_iff.mpr hsecond) v
  by_cases hneq : operator = .neq
  · subst hneq
    simp only [Operator.holds_neq, Bool.not_eq_true', ← Bool.not_eq_true]
    exact (not_congr hopposite).trans not_or
  by_cases hstring : ∃ s, v = .string s
  · obtain ⟨s, rfl⟩ := hstring
    simp only [Operator.holds_string_of_isNegated hnegated hneq, Bool.not_eq_true',
      ← Bool.not_eq_true]
    exact (not_congr hopposite).trans not_or
  · -- On anything but strings a negated operator holds with no reference.
    constructor
    · intro h
      exact absurd (Operator.isString_of_holds_of_isNegated hnegated hneq h) hstring
    · rintro ⟨h, -⟩
      exact absurd (Operator.isString_of_holds_of_isNegated hnegated hneq h) hstring

/-! ## Clauses -/

theorem evaluate_merge_of_positive (hleaf : operator.isNested = false)
    (hpositive : operator.isNegated = false) (hfirst : first.Suits operator)
    (hsecond : second.Suits operator) (v : Value) :
    (Clause.mk operator (first.merge second)).evaluate v = .pass ↔
      (Clause.mk operator first).evaluate v = .pass ∨
        (Clause.mk operator second).evaluate v = .pass := by
  simp only [Clause.evaluate_leaf hleaf, evaluateLeaf_eq_pass_iff]
  exact Operator.holds_merge_of_positive hleaf hpositive hfirst hsecond v

theorem evaluate_merge_of_isNegated (hnegated : operator.isNegated = true)
    (hfirst : first.Suits operator) (hsecond : second.Suits operator) (v : Value) :
    (Clause.mk operator (first.merge second)).evaluate v = .pass ↔
      (Clause.mk operator first).evaluate v = .pass ∧
        (Clause.mk operator second).evaluate v = .pass := by
  simp only [Clause.evaluate_leaf (Operator.isNested_of_isNegated hnegated),
    evaluateLeaf_eq_pass_iff]
  exact Operator.holds_merge_of_isNegated hnegated hfirst hsecond v

/-- A condition accepts what one of the elements that a union takes from it accepts. -/
theorem evaluate_any_elements (c : Condition) (v : Value) :
    (Condition.any (Reference.condition c).elements).evaluate v = .pass ↔
      c.evaluate v = .pass := by
  cases c with
  | any alternatives => rfl
  | _ => simp [Reference.elements, evaluate_any_eq_pass_iff]

/-- The union of two conditions accepts what one of them accepts. -/
theorem exists_merge_condition (c d : Condition) :
    ∃ e, (Reference.condition c).merge (.condition d) = .condition e ∧
      ∀ v, e.evaluate v = .pass ↔ c.evaluate v = .pass ∨ d.evaluate v = .pass := by
  have hsuits : ∀ c, (Reference.condition c).Suits .length := fun _ => rfl
  refine ⟨_, Reference.merge_of_isNested rfl (hsuits c) (hsuits d), fun v => ?_⟩
  rw [← evaluate_any_elements c]
  simp only [evaluate_any_eq_pass_iff, Reference.condition?, Option.toList_some,
    List.mem_append, List.mem_singleton, or_and_right, exists_or, exists_eq_left]

theorem Reference.Suits.exists_condition {reference : Reference}
    (hnested : operator.isNested = true) (h : reference.Suits operator) :
    ∃ c, reference = .condition c := by
  have hpattern := Operator.isPattern_of_isNested hnested
  cases reference with
  | condition c => exact ⟨c, rfl⟩
  | _ => simp [Suits, hnested, hpattern] at h

/-- A clause accepts more when the condition that it nests does. -/
theorem evaluate_nested_mono (hnested : operator.isNested = true) {c d : Condition}
    (hcd : ∀ v, c.evaluate v = .pass → d.evaluate v = .pass) {v : Value}
    (hpass : (Clause.mk operator (.condition c)).evaluate v = .pass) :
    (Clause.mk operator (.condition d)).evaluate v = .pass := by
  cases operator with
  | length =>
      rw [Clause.evaluate_length, Outcome.underLength_eq_pass_iff] at hpass ⊢
      exact hcd v.lengthValue hpass
  | each =>
      by_cases harray : v.IsArray
      · obtain ⟨items, rfl⟩ := harray
        rw [Clause.evaluate_each_array, firstFailure_eq_pass_iff] at hpass ⊢
        exact fun item hitem => hcd item (hpass item hitem)
      · rw [Clause.evaluate_each_of_not_isArray harray] at hpass
        cases hpass
  | _ => cases hnested

theorem evaluate_merge_length (hfirst : first.Suits .length) (hsecond : second.Suits .length)
    (v : Value) :
    (Clause.mk .length (first.merge second)).evaluate v = .pass ↔
      (Clause.mk .length first).evaluate v = .pass ∨
        (Clause.mk .length second).evaluate v = .pass := by
  obtain ⟨c, rfl⟩ := hfirst.exists_condition rfl
  obtain ⟨d, rfl⟩ := hsecond.exists_condition rfl
  obtain ⟨e, hmerge, hunion⟩ := exists_merge_condition c d
  simp only [hmerge, Clause.evaluate_length, Outcome.underLength_eq_pass_iff, hunion]

/-- Elements that one of two conditions accepts throughout are accepted by their union. -/
theorem evaluate_merge_each (hfirst : first.Suits .each) (hsecond : second.Suits .each) {v : Value}
    (h : (Clause.mk .each first).evaluate v = .pass ∨ (Clause.mk .each second).evaluate v = .pass) :
    (Clause.mk .each (first.merge second)).evaluate v = .pass := by
  obtain ⟨c, rfl⟩ := hfirst.exists_condition rfl
  obtain ⟨d, rfl⟩ := hsecond.exists_condition rfl
  obtain ⟨e, hmerge, hunion⟩ := exists_merge_condition c d
  rw [hmerge]
  rcases h with h | h
  · exact evaluate_nested_mono rfl (fun v hpass => (hunion v).mpr (.inl hpass)) h
  · exact evaluate_nested_mono rfl (fun v hpass => (hunion v).mpr (.inr hpass)) h

end Union

/-! ## One alternative at a time -/

/-- The reference that holds one alternative. -/
def Alternative.reference : Alternative → Reference
  | .value v => .value v
  | .pattern p => .pattern p

namespace Reference

/-- The references that hold one alternative of a reference each. -/
def singles : Reference → List Reference
  | .value v => [.value v]
  | .values vs => vs.map .value
  | .pattern p => [.pattern p]
  | .patterns ps => ps.map .pattern
  | .condition (.any items) => items.map .condition
  | .condition c => [.condition c]

variable {operator : Operator} {reference first second : Reference}

theorem value_mem_singles {r : Value} : .value r ∈ reference.singles ↔ r ∈ reference.valueList := by
  cases reference with
  | condition c => cases c <;> simp [singles, valueList]
  | _ => simp [singles, valueList]

theorem pattern_mem_singles {p : Pattern} :
    .pattern p ∈ reference.singles ↔ p ∈ reference.patternList := by
  cases reference with
  | condition c => cases c <;> simp [singles, patternList]
  | _ => simp [singles, patternList]

theorem singles_condition (c : Condition) :
    (condition c).singles = (condition c).elements.map condition := by
  cases c <;> rfl

theorem condition_mem_singles {c : Condition} :
    .condition c ∈ reference.singles ↔ c ∈ reference.elements := by
  cases reference with
  | condition d => simp [singles_condition]
  | _ => simp [singles, elements]

theorem singles_of_leaf (hleaf : operator.isNested = false) (h : reference.Suits operator) :
    reference.singles = reference.alternatives.map Alternative.reference := by
  cases reference with
  | condition c =>
      rw [Suits, hleaf] at h
      cases h
  | _ => simp [singles, alternatives, Alternative.reference, Function.comp_def]

theorem singles_merge (hleaf : operator.isNested = false) (hfirst : first.Suits operator)
    (hsecond : second.Suits operator) :
    (first.merge second).singles = first.singles ++ second.singles := by
  rw [singles_of_leaf hleaf hfirst.merge, alternatives_merge hleaf hfirst hsecond,
    List.map_append, ← singles_of_leaf hleaf hfirst, ← singles_of_leaf hleaf hsecond]

end Reference

section Singles

variable {operator : Operator} {reference first second : Reference} {v : Value}

/-- A leaf operator asks which alternatives there are, not in which order or how often. -/
theorem Operator.holds_eq_of_mem_iff (operator : Operator) (v : Value)
    (hvalues : ∀ r, r ∈ first.valueList ↔ r ∈ second.valueList)
    (hpatterns : ∀ p, p ∈ first.patternList ↔ p ∈ second.patternList) :
    operator.holds v first = operator.holds v second := by
  have hany : ∀ test, first.valueList.any test = second.valueList.any test := by
    intro test
    rw [Bool.eq_iff_iff]
    simp [hvalues]
  have hanyPattern : ∀ test, first.patternList.any test = second.patternList.any test := by
    intro test
    rw [Bool.eq_iff_iff]
    simp [hpatterns]
  simp only [holds, hany, hanyPattern]

/-- **Order and repetition do not matter.** -/
theorem evaluate_congr_of_mem_singles (hfirst : first.Suits operator)
    (hsecond : second.Suits operator)
    (h : ∀ single, single ∈ first.singles ↔ single ∈ second.singles) :
    (Clause.mk operator first).evaluate v = .pass ↔
      (Clause.mk operator second).evaluate v = .pass := by
  cases hnested : operator.isNested with
  | false =>
      rw [Clause.evaluate_leaf hnested, Clause.evaluate_leaf hnested, evaluateLeaf_eq_pass_iff,
        evaluateLeaf_eq_pass_iff, operator.holds_eq_of_mem_iff v]
      · intro r
        rw [← Reference.value_mem_singles, h, Reference.value_mem_singles]
      · intro p
        rw [← Reference.pattern_mem_singles, h, Reference.pattern_mem_singles]
  | true =>
      obtain ⟨c, rfl⟩ := hfirst.exists_condition hnested
      obtain ⟨d, rfl⟩ := hsecond.exists_condition hnested
      have hcd : ∀ v, c.evaluate v = .pass ↔ d.evaluate v = .pass := by
        intro v
        rw [← evaluate_any_elements c, ← evaluate_any_elements d, evaluate_any_eq_pass_iff,
          evaluate_any_eq_pass_iff]
        simp only [← Reference.condition_mem_singles, h]
      constructor
      · exact evaluate_nested_mono hnested fun v => (hcd v).mp
      · exact evaluate_nested_mono hnested fun v => (hcd v).mpr

/-- The union of several conditions accepts what one of them accepts. -/
theorem exists_foldl_merge_condition (c : Condition) (others : List Condition) :
    ∃ e, (others.map Reference.condition).foldl Reference.merge (.condition c) = .condition e ∧
      ∀ v, e.evaluate v = .pass ↔ ∃ d ∈ c :: others, d.evaluate v = .pass := by
  induction others generalizing c with
  | nil => exact ⟨c, rfl, by simp⟩
  | cons d rest ih =>
      obtain ⟨union, hmerge, hunion⟩ := exists_merge_condition c d
      obtain ⟨e, hfoldl, he⟩ := ih union
      refine ⟨e, by rw [List.map_cons, List.foldl_cons, hmerge, hfoldl], fun v => ?_⟩
      simp [he, hunion, or_assoc]

/-- The union of several references of a leaf, one alternative at a time. -/
theorem singles_foldl_merge (hleaf : operator.isNested = false) {others : List Reference}
    (hfirst : first.Suits operator) (hothers : ∀ r ∈ others, r.Suits operator) :
    (others.foldl Reference.merge first).Suits operator ∧
      (others.foldl Reference.merge first).singles =
        first.singles ++ others.flatMap Reference.singles := by
  induction others generalizing first with
  | nil => simp [hfirst]
  | cons second rest ih =>
      obtain ⟨hsecond, hrest⟩ := List.forall_mem_cons.mp hothers
      obtain ⟨hsuits, hsingles⟩ := ih hfirst.merge hrest
      refine ⟨hsuits, ?_⟩
      rw [List.foldl_cons, hsingles, Reference.singles_merge hleaf hfirst hsecond,
        List.flatMap_cons, List.append_assoc]

theorem single_of_mem_singles (hleaf : operator.isNested = false)
    (hreference : reference.Suits operator) :
    ∀ single ∈ reference.singles, single.Suits operator ∧ single.singles = [single] := by
  intro single hsingle
  rw [Reference.singles_of_leaf hleaf hreference] at hsingle
  obtain ⟨alternative, halternative, rfl⟩ := List.mem_map.mp hsingle
  cases reference with
  | condition c => cases halternative
  | value v | pattern p =>
      obtain rfl := List.mem_singleton.mp halternative
      exact ⟨hreference, rfl⟩
  | values vs | patterns ps =>
      obtain ⟨_, -, rfl⟩ := List.mem_map.mp halternative
      exact ⟨hreference, rfl⟩

/-- **A reference is the union of its alternatives.** -/
theorem evaluate_foldl_merge_singles (hreference : reference.Suits operator)
    {single : Reference} {others : List Reference}
    (hsingles : reference.singles = single :: others) :
    (Clause.mk operator (others.foldl Reference.merge single)).evaluate v = .pass ↔
      (Clause.mk operator reference).evaluate v = .pass := by
  cases hnested : operator.isNested with
  | false =>
      have hsingle := single_of_mem_singles hnested hreference
      rw [hsingles, List.forall_mem_cons] at hsingle
      obtain ⟨⟨hsuits, hself⟩, hothers⟩ := hsingle
      obtain ⟨hunion, hfoldl⟩ :=
        singles_foldl_merge hnested hsuits fun r hr => (hothers r hr).1
      have hflat : others.flatMap Reference.singles = others := by
        rw [List.flatMap_congr fun r hr => (hothers r hr).2, List.flatMap_singleton']
      refine evaluate_congr_of_mem_singles hunion hreference fun r => ?_
      rw [hfoldl, hself, hflat, hsingles, List.singleton_append]
  | true =>
      obtain ⟨c, rfl⟩ := hreference.exists_condition hnested
      rw [Reference.singles_condition, List.map_eq_cons_iff] at hsingles
      obtain ⟨d, rest, helements, rfl, rfl⟩ := hsingles
      obtain ⟨e, hfoldl, he⟩ := exists_foldl_merge_condition d rest
      have hec : ∀ v, e.evaluate v = .pass ↔ c.evaluate v = .pass := by
        intro v
        rw [he, ← helements, ← evaluate_any_eq_pass_iff, evaluate_any_elements]
      rw [hfoldl]
      constructor
      · exact evaluate_nested_mono hnested fun v => (hec v).mp
      · exact evaluate_nested_mono hnested fun v => (hec v).mpr

end Singles

/-! ## What references accept -/

/-- The condition of a single clause, of an operator and a reference, accepts a value. -/
def Reference.Accepts (operator : Operator) (reference : Reference) (v : Value) : Prop :=
  ((Condition.all [.mk operator reference]).evaluate v).isPass = true

theorem Reference.accepts_iff {operator : Operator} {reference : Reference} {v : Value} :
    reference.Accepts operator v ↔ (Clause.mk operator reference).evaluate v = .pass := by
  rw [Accepts, Outcome.isPass_iff, evaluate_single]

theorem Reference.accepts_leaf_iff {operator : Operator} (hleaf : operator.isNested = false)
    {reference : Reference} {v : Value} :
    reference.Accepts operator v ↔ operator.holds v reference = true := by
  rw [accepts_iff, Clause.evaluate_leaf hleaf, evaluateLeaf_eq_pass_iff]

theorem Reference.accepts_iff_relates {operator : Operator} (hleaf : operator.isNested = false)
    (hpositive : operator.isNegated = false) {reference : Reference} {v : Value} :
    reference.Accepts operator v ↔ ∃ a ∈ reference.alternatives, operator.Relates v a := by
  rw [accepts_leaf_iff hleaf, Operator.holds_iff_relates hpositive]

/-- A value passes the condition of one clause that has one value for its reference. -/
def Value.Passes (a : Value) (operator : Operator) (b : Value) : Prop :=
  (Reference.value b).Accepts operator a

theorem Operator.mem_negated_iff (operator : Operator) :
    operator ∈ [.neq, .containsNot, .beginsNot, .endsNot, .matchesNot] ↔
      operator.isNegated = true := by
  cases operator <;> decide

theorem Operator.length_or_leaf_of_not_mem {operator : Operator}
    (h : operator ∉ [.neq, .containsNot, .beginsNot, .endsNot, .matchesNot, .each]) :
    operator = .length ∨ operator.isNested = false ∧ operator.isNegated = false := by
  revert h
  cases operator <;> decide

/-- **What a union accepts.**  With an operator that asks for some alternative, and for
lengths, it is what either reference accepts, with a negated operator what both accept, and
for elements at least what either accepts.  Any reference accepts what the union of its
alternatives does, whatever their order and however often each of them occurs. -/
theorem accepts_merge {operator : Operator} {first second : Reference}
    (hfirst : first.Normal operator) (hsecond : second.Normal operator) (v : Value) :
    (operator ∉ [.neq, .containsNot, .beginsNot, .endsNot, .matchesNot, .each] →
      ((first.merge second).Accepts operator v ↔
        first.Accepts operator v ∨ second.Accepts operator v)) ∧
    (operator ∈ [.neq, .containsNot, .beginsNot, .endsNot, .matchesNot] →
      ((first.merge second).Accepts operator v ↔
        first.Accepts operator v ∧ second.Accepts operator v)) ∧
    (operator = .each → first.Accepts operator v ∨ second.Accepts operator v →
      (first.merge second).Accepts operator v) ∧
    (∀ single others, first.singles = single :: others →
      (first.Accepts operator v ↔ (others.foldl Reference.merge single).Accepts operator v)) ∧
    ((∀ single, single ∈ first.singles ↔ single ∈ second.singles) →
      (first.Accepts operator v ↔ second.Accepts operator v)) := by
  have hfirst := hfirst.suits
  have hsecond := hsecond.suits
  simp only [Reference.accepts_iff]
  refine ⟨?positive, ?negated, ?elements, ?singles, ?sameSingles⟩
  case positive =>
    intro hoperator
    rcases Operator.length_or_leaf_of_not_mem hoperator with rfl | ⟨hleaf, hpositive⟩
    · exact evaluate_merge_length hfirst hsecond v
    · exact evaluate_merge_of_positive hleaf hpositive hfirst hsecond v
  case negated =>
    intro hoperator
    exact evaluate_merge_of_isNegated (operator.mem_negated_iff.mp hoperator) hfirst hsecond v
  case elements =>
    rintro rfl h
    exact evaluate_merge_each hfirst hsecond h
  case singles =>
    intro single others hsingles
    exact (evaluate_foldl_merge_singles hfirst hsingles).symm
  case sameSingles => exact evaluate_congr_of_mem_singles hfirst hsecond

/-- Two letters that a text may be kept from beginning with, with one of them named twice. -/
def lettersNamedTwice : Reference :=
  .values [.string "b", .string "a", .string "b"]

/-- A text that begins with `c` does not begin with either letter, and a third letter is
added as one more that it must not begin with. -/
theorem lettersNamedTwice_accepts :
    lettersNamedTwice.Normal .beginsNot ∧
      (Reference.value (.string "c")).Normal .beginsNot ∧
      ((lettersNamedTwice.merge (.value (.string "c"))).Accepts .beginsNot (.string "cd") ↔
        lettersNamedTwice.Accepts .beginsNot (.string "cd") ∧
          (Reference.value (.string "c")).Accepts .beginsNot (.string "cd")) ∧
      lettersNamedTwice.Accepts .beginsNot (.string "cd") ∧
      ¬ (lettersNamedTwice.merge (.value (.string "c"))).Accepts .beginsNot (.string "cd") ∧
      (Reference.values [.string "a", .string "b"]).Accepts .beginsNot (.string "cd") := by
  have hletters : lettersNamedTwice.Normal .beginsNot := ⟨rfl, rfl, nofun, nofun⟩
  have hletter : (Reference.value (.string "c")).Normal .beginsNot := ⟨rfl, rfl, nofun, nofun⟩
  have honce : (Reference.values [.string "a", .string "b"]).Normal .beginsNot :=
    ⟨rfl, rfl, nofun, nofun⟩
  obtain ⟨-, hnegated, -, -, -⟩ := accepts_merge hletters hletter (.string "cd")
  obtain ⟨-, -, -, -, hsame⟩ := accepts_merge hletters honce (.string "cd")
  have haccepts : lettersNamedTwice.Accepts .beginsNot (.string "cd") := rfl
  have hmerge := hnegated (by decide)
  refine ⟨hletters, hletter, hmerge, haccepts, ?_, (hsame fun single => ?_).mp haccepts⟩
  · rw [hmerge]
    rintro ⟨-, hc⟩
    cases hc
  · simp only [lettersNamedTwice, Reference.singles, List.map_cons, List.map_nil, List.mem_cons,
      List.not_mem_nil, or_false]
    rw [or_left_comm, or_self]

/-- A union can accept elements that neither reference accepts. -/
example :
    let first : Reference := .condition (.literal .null)
    let second : Reference := .condition (.literal (.bool true))
    let v : Value := .array [.null, .bool true]
    (first.merge second).Accepts .each v ∧ ¬ first.Accepts .each v ∧ ¬ second.Accepts .each v :=
  ⟨rfl, nofun, nofun⟩

end ValueAssertions
