import ValueAssertions.Proofs.Condition.Union

/-!
# Negated operators

`neq` accepts what `eq` does not, whatever the value.  The negated operators on texts accept
the texts that their opposites do not accept; what is no text is accepted by neither.  The
alternatives of a reference are negated together: a negated operator asks that none of them
holds, and so it is the opposite of the operator that asks for one of them.

A beginning or an end of a text is a part of it.  So what begins or ends with an alternative
contains it, and what contains none of the alternatives neither begins nor ends with one.
-/

namespace ValueAssertions

section Negation

variable {operator : Operator} {reference : Reference} {v : Value}

/-- The negated operators on texts. -/
theorem Operator.mem_negatedOnText_iff :
    operator ∈ [.containsNot, .beginsNot, .endsNot, .matchesNot] ↔
      operator.isNegated = true ∧ operator ≠ .neq := by
  cases operator <;> decide

theorem accepts_eq_iff_not_accepts_neq :
    reference.Accepts .eq v ↔ ¬ reference.Accepts .neq v := by
  rw [Reference.accepts_leaf_iff rfl, Reference.accepts_leaf_iff rfl, Operator.holds_neq,
    Bool.not_eq_true', Bool.not_eq_false]

/-- On texts a negated operator accepts what its opposite does not. -/
theorem accepts_negated_iff_of_isString (hnegated : operator.isNegated = true)
    (hneq : operator ≠ .neq) (hv : v.IsString) :
    reference.Accepts operator v ↔ ¬ reference.Accepts operator.opposite v := by
  cases v with
  | string s =>
      rw [Reference.accepts_leaf_iff (Operator.isNested_of_isNegated hnegated),
        Reference.accepts_leaf_iff (Operator.isNested_opposite hnegated),
        Operator.holds_string_of_isNegated hnegated hneq, Bool.not_eq_true', Bool.not_eq_true]
  | _ => cases hv

/-- A negated operator on texts accepts texts only. -/
theorem isString_of_accepts_negated (hnegated : operator.isNegated = true)
    (hneq : operator ≠ .neq) (h : reference.Accepts operator v) : v.IsString := by
  rw [Reference.accepts_leaf_iff (Operator.isNested_of_isNegated hnegated)] at h
  obtain ⟨s, rfl⟩ := Operator.isString_of_holds_of_isNegated hnegated hneq h
  rfl

/-- The opposite of a negated operator on texts accepts texts only. -/
theorem isString_of_accepts_opposite (hnegated : operator.isNegated = true)
    (hneq : operator ≠ .neq) (h : reference.Accepts operator.opposite v) : v.IsString := by
  rw [Reference.accepts_iff_relates (Operator.isNested_opposite hnegated)
    (Operator.isNegated_opposite operator)] at h
  obtain ⟨a, -, hrelates⟩ := h
  cases operator with
  | containsNot | beginsNot | endsNot | matchesNot =>
      cases hrelates
      rfl
  | neq => exact absurd rfl hneq
  | _ => cases hnegated

/-- What is found at the beginning or at the end is found somewhere. -/
theorem accepts_contains (h : reference.Accepts .begins v ∨ reference.Accepts .ends v) :
    reference.Accepts .contains v := by
  rw [Reference.accepts_iff_relates rfl rfl]
  rcases h with hbegins | hends
  · obtain ⟨a, ha, hrelates⟩ := (Reference.accepts_iff_relates rfl rfl).mp hbegins
    cases hrelates with
    | begins hprefix => exact ⟨_, ha, .contains hprefix.isInfix⟩
  · obtain ⟨a, ha, hrelates⟩ := (Reference.accepts_iff_relates rfl rfl).mp hends
    cases hrelates with
    | ends hsuffix => exact ⟨_, ha, .contains hsuffix.isInfix⟩

end Negation

/-- **Opposites.**  Exactly one of `eq` and `neq` accepts a value.  Of a negated operator on
texts and its opposite exactly one accepts a text, and neither accepts anything else.  What is
accepted at the beginning or at the end is accepted anywhere, and what is kept from being
anywhere is kept from both places. -/
theorem accepts_opposites (reference : Reference) (v : Value) :
    (reference.Accepts .eq v ↔ ¬ reference.Accepts .neq v) ∧
    (∀ operator ∈ [.containsNot, .beginsNot, .endsNot, .matchesNot],
      (v.IsString →
        (reference.Accepts operator v ↔ ¬ reference.Accepts operator.opposite v)) ∧
      (¬ v.IsString →
        ¬ reference.Accepts operator v ∧ ¬ reference.Accepts operator.opposite v)) ∧
    (reference.Accepts .begins v ∨ reference.Accepts .ends v → reference.Accepts .contains v) ∧
    (reference.Accepts .containsNot v →
      reference.Accepts .beginsNot v ∧ reference.Accepts .endsNot v) := by
  refine ⟨accepts_eq_iff_not_accepts_neq, ?onText, accepts_contains, ?parts⟩
  case onText =>
    intro operator hmem
    obtain ⟨hnegated, hneq⟩ := Operator.mem_negatedOnText_iff.mp hmem
    refine ⟨accepts_negated_iff_of_isString hnegated hneq,
      fun hv => ⟨fun h => hv ?_, fun h => hv ?_⟩⟩
    · exact isString_of_accepts_negated hnegated hneq h
    · exact isString_of_accepts_opposite hnegated hneq h
  case parts =>
    intro h
    have hv : v.IsString := isString_of_accepts_negated rfl (by decide) h
    have hcontains : ¬ reference.Accepts .contains v :=
      (accepts_negated_iff_of_isString rfl (by decide) hv).mp h
    constructor
    · refine (accepts_negated_iff_of_isString rfl (by decide) hv).mpr fun hbegins => ?_
      exact hcontains (accepts_contains (.inl hbegins))
    · refine (accepts_negated_iff_of_isString rfl (by decide) hv).mpr fun hends => ?_
      exact hcontains (accepts_contains (.inr hends))

end ValueAssertions
