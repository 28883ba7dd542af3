import ValueAssertions.Proofs.Condition.Union
import ValueAssertions.Proofs.Number.Division

/-!
# The arithmetic operators and finite numbers

A finite number has a value (`Number.value?`); the infinities and not-a-number have none.
The division test turns away everything that has no value and every divisor that is zero.  So
`divides` and `multiple` accept finite numbers only, and only finite alternatives count for
them.

The test for whole numbers is a test of the value too: its fractional part is zero.  But
`{integer: false}` is made from that test by negation, among numbers.  Every number passes
one of the two sides, and those without a value pass `{integer: false}`, although they have
no fractional part.
-/

namespace ValueAssertions

/-! ## Values of numbers -/

namespace Number

variable {n a b : Number} {x : ℚ}

/-- The value of a finite number. -/
def value? : Number → Option ℚ
  | .finite negative m => some (if negative then -m.value else m.value)
  | _ => none

theorem value?_eq_none_iff : n.value? = none ↔ n ∈ [nan, infinite false, infinite true] := by
  cases n with
  | nan => simp [value?]
  | infinite negative => cases negative <;> simp [value?]
  | finite negative m => simp [value?]

theorem exists_value?_of_isFinite (h : n.isFinite = true) : ∃ x, n.value? = some x := by
  cases n with
  | finite negative m => exact ⟨_, rfl⟩
  | _ => cases h

theorem value_ne_zero_of_isZero (h : n.isZero = false) (hx : n.value? = some x) : x ≠ 0 := by
  cases n with
  | finite negative m =>
      have hquanta : m.quanta ≠ 0 := by simpa [isZero] using h
      have hvalue : m.value ≠ 0 :=
        div_ne_zero (Nat.cast_ne_zero.mpr hquanta) quantaPerOne_pos.ne'
      cases hx
      cases negative <;> simpa using hvalue
  | _ => cases hx

/-- The test for whole numbers is right about the magnitude. -/
theorem fract_value_eq_zero_iff (m : Magnitude) :
    Int.fract m.value = 0 ↔ m.quanta % quantaPerOne = 0 := by
  rw [Magnitude.value, Int.fract_div_natCast_eq_div_natCast_mod,
    div_eq_zero_iff, or_iff_left quantaPerOne_pos.ne', Nat.cast_eq_zero]

/-- The test for whole numbers asks that nothing is left of the value. -/
theorem isIntegral_iff : n.isIntegral = true ↔ ∃ x, n.value? = some x ∧ Int.fract x = 0 := by
  cases n with
  | finite negative m =>
      have hsign : Int.fract (if negative then -m.value else m.value) = 0 ↔
          Int.fract m.value = 0 := by
        cases negative
        · rfl
        · exact Int.fract_neg_eq_zero
      simp only [isIntegral, value?, Option.some.injEq, exists_eq_left', hsign,
        fract_value_eq_zero_iff, beq_iff_eq]
  | _ => simp [isIntegral, value?]

/-- What passes the division test has a value on both sides, and nothing is divided by
zero. -/
theorem exists_value?_of_isExactQuotient (h : isExactQuotient a b = true) :
    ∃ x y, a.value? = some x ∧ b.value? = some y ∧ y ≠ 0 := by
  have hguard : (b.isZero || !b.isFinite || !a.isFinite) = false := by
    by_contra hcontra
    rw [isExactQuotient, if_pos (Bool.eq_true_of_not_eq_false hcontra)] at h
    cases h
  simp only [Bool.or_eq_false_iff, Bool.not_eq_false'] at hguard
  obtain ⟨⟨hzero, hdivisor⟩, hdividend⟩ := hguard
  obtain ⟨x, hx⟩ := exists_value?_of_isFinite hdividend
  obtain ⟨y, hy⟩ := exists_value?_of_isFinite hdivisor
  exact ⟨x, y, hx, hy, value_ne_zero_of_isZero hzero hy⟩

end Number

/-! ## The operators -/

section Arithmetic

variable {operator : Operator} {reference : Reference} {v : Value} {n : Number}

/-- The operators of the division test accept finite numbers, by finite alternatives. -/
theorem exists_value?_of_accepts_division (h : operator ∈ [.divides, .multiple])
    (haccepts : reference.Accepts operator v) :
    ∃ n m x y, v = .number n ∧ .number m ∈ reference.valueList ∧
      n.value? = some x ∧ m.value? = some y ∧
      (operator = .divides → x ≠ 0) ∧ (operator = .multiple → y ≠ 0) := by
  simp only [List.mem_cons, List.not_mem_nil, or_false] at h
  rcases h with rfl | rfl
  · obtain ⟨a, ha, hrelates⟩ := (Reference.accepts_iff_relates rfl rfl).mp haccepts
    cases hrelates with
    | @divides m n hexact =>
        obtain ⟨y, x, hy, hx, hdivisor⟩ := Number.exists_value?_of_isExactQuotient hexact
        exact ⟨n, m, x, y, rfl, Reference.value_mem_alternatives.mp ha, hx, hy,
          fun _ => hdivisor, nofun⟩
  · obtain ⟨a, ha, hrelates⟩ := (Reference.accepts_iff_relates rfl rfl).mp haccepts
    cases hrelates with
    | @multiple m n hexact =>
        obtain ⟨x, y, hx, hy, hdivisor⟩ := Number.exists_value?_of_isExactQuotient hexact
        exact ⟨n, m, x, y, rfl, Reference.value_mem_alternatives.mp ha, hx, hy,
          nofun, fun _ => hdivisor⟩

/-- `integer` asks for the truth value that says whether the number is whole. -/
theorem accepts_integer_iff :
    reference.Accepts .integer v ↔
      ∃ n, v = .number n ∧ .bool n.isIntegral ∈ reference.valueList := by
  rw [Reference.accepts_iff_relates rfl rfl]
  constructor
  · rintro ⟨a, ha, hrelates⟩
    cases hrelates
    exact ⟨_, rfl, Reference.value_mem_alternatives.mp ha⟩
  · rintro ⟨n, rfl, hmem⟩
    exact ⟨_, Reference.value_mem_alternatives.mpr hmem, .integer⟩

theorem passes_integer_iff {whole : Bool} :
    v.Passes .integer (.bool whole) ↔ ∃ n, v = .number n ∧ n.isIntegral = whole := by
  simp [Value.Passes, accepts_integer_iff, Reference.valueList]

theorem passes_whole_iff :
    v.Passes .integer (.bool true) ↔
      ∃ n x, v = .number n ∧ n.value? = some x ∧ Int.fract x = 0 := by
  simp only [passes_integer_iff, Number.isIntegral_iff, exists_and_left]

/-- The negation of the test for whole numbers is true of the numbers that have no value. -/
theorem passes_fractional_iff :
    v.Passes .integer (.bool false) ↔
      ∃ n, v = .number n ∧ ∀ x, n.value? = some x → Int.fract x ≠ 0 := by
  simp only [passes_integer_iff, ← Bool.not_eq_true, Number.isIntegral_iff, not_exists, not_and]

theorem passes_whole_iff_not_fractional :
    (Value.number n).Passes .integer (.bool true) ↔
      ¬ (Value.number n).Passes .integer (.bool false) := by
  simp [passes_integer_iff]

/-- A number without a value is accepted where fractions are. -/
theorem accepts_integer_iff_of_value?_eq_none (h : n.value? = none) :
    reference.Accepts .integer (.number n) ↔ .bool false ∈ reference.valueList := by
  have hwhole : n.isIntegral = false := by
    rw [← Bool.not_eq_true, Number.isIntegral_iff, h]
    nofun
  simp only [accepts_integer_iff, Value.number.injEq, exists_eq_left', hwhole]

end Arithmetic

/-- **What the arithmetic operators accept.**  `divides` and `multiple` accept finite numbers
only, on account of finite alternatives, and none that would be divided by zero.
`{integer: true}` accepts the finite numbers without a fractional part, and `{integer: false}`
all other numbers: those with a fractional part and those without a value.  So every number
passes one of the two, and the numbers without a value pass wherever fractions do. -/
theorem arithmetic_accepts (reference : Reference) (v : Value) :
    (∀ operator ∈ [.divides, .multiple], reference.Accepts operator v →
      ∃ n m x y, v = .number n ∧ .number m ∈ reference.valueList ∧
        n.value? = some x ∧ m.value? = some y ∧
        (operator = .divides → x ≠ 0) ∧ (operator = .multiple → y ≠ 0)) ∧
    (v.Passes .integer (.bool true) ↔
      ∃ n x, v = .number n ∧ n.value? = some x ∧ Int.fract x = 0) ∧
    (v.Passes .integer (.bool false) ↔
      ∃ n, v = .number n ∧ ∀ x, n.value? = some x → Int.fract x ≠ 0) ∧
    (∀ n : Number, (Value.number n).Passes .integer (.bool true) ↔
      ¬ (Value.number n).Passes .integer (.bool false)) ∧
    ∀ n ∈ [Number.nan, .infinite false, .infinite true],
      (reference.Accepts .integer (.number n) ↔ .bool false ∈ reference.valueList) := by
  refine ⟨fun _ hmem => exists_value?_of_accepts_division hmem, passes_whole_iff,
    passes_fractional_iff, fun _ => passes_whole_iff_not_fractional, fun n hn => ?_⟩
  exact accepts_integer_iff_of_value?_eq_none (Number.value?_eq_none_iff.mpr hn)

/-- Infinity passes `{integer: false}`.  So numbers without a value do not fail every
arithmetic operator, a number that passes need not have a fractional part, and a number
without a value need not fail both sides. -/
theorem not_forall_notFinite_fails :
    (¬ ∀ n ∈ [Number.nan, .infinite false, .infinite true],
      ∀ operator ∈ [.integer, .divides, .multiple],
        ∀ reference : Reference, reference.Normal operator →
          ¬ reference.Accepts operator (.number n)) ∧
    (¬ ∀ v : Value, v.Passes .integer (.bool false) ↔
      ∃ n x, v = .number n ∧ n.value? = some x ∧ Int.fract x ≠ 0) ∧
    ¬ ∀ n : Number,
      (¬ (Value.number n).Passes .integer (.bool true) ∧
        ¬ (Value.number n).Passes .integer (.bool false)) ↔
      n ∈ [Number.nan, .infinite false, .infinite true] := by
  have hmem : Number.infinite false ∈ [Number.nan, .infinite false, .infinite true] := by simp
  have hpasses : (Value.number (.infinite false)).Passes .integer (.bool false) := rfl
  have hnormal : (Reference.value (.bool false)).Normal .integer := ⟨rfl, rfl, nofun, fun _ => rfl⟩
  refine ⟨fun h => ?_, fun h => ?_, fun h => ?_⟩
  · exact h (.infinite false) hmem .integer (by decide) _ hnormal hpasses
  · obtain ⟨n, x, hn, hx, -⟩ := (h (.number (.infinite false))).mp hpasses
    cases hn
    cases hx
  · exact ((h (.infinite false)).mpr hmem).2 hpasses

end ValueAssertions
