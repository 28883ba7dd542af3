import ValueAssertions.Proofs.Condition.Evaluation
import ValueAssertions.Proofs.Number.Division

/-!
# Multiples of whole numbers

The operators `multiple` and `divides` ask one question from its two sides, whether one
number goes into another.  Quotients count as whole within a relative tolerance of
`10 ^ -9`, and that holds of whole numbers too: what is allowed to be left over is that part
of the greater of the two numbers (`NearMultiple`).

Below `10 ^ 9` this is less than one, and nothing but a multiple passes.  The rounding of
the quotient takes a little off that limit.  From there on numbers pass that are no
multiples: `1000000001` is one more than a multiple of two, and that is within the tolerance
for numbers of its size.
-/

namespace ValueAssertions

/-- The condition `{multiple: b}`. -/
def multipleOf (b : ℤ) : Condition :=
  .all [.mk .multiple (.value (.number (.ofInt b)))]

/-- The condition `{divides: a}`. -/
def divisorOf (a : ℤ) : Condition :=
  .all [.mk .divides (.value (.number (.ofInt a)))]

/-- What is left of `a` after some multiple of `b` is at most a share of `10 ^ -9` of the
greater one. -/
def NearMultiple (share : ℚ) (a b : ℤ) : Prop :=
  ∃ k : ℤ, |(a : ℚ) - k * b| ≤ share / 10 ^ 9 * max |(a : ℚ)| |(b : ℚ)|

variable {a b : ℤ} {share : ℚ}

/-! ## The two operators -/

theorem evaluate_multipleOf_eq_pass_iff :
    (multipleOf b).evaluate (.number (.ofInt a)) = .pass ↔
      Number.isExactQuotient (.ofInt a) (.ofInt b) = true := by
  rw [multipleOf, evaluate_singleLeaf_eq_pass_iff rfl]
  simp [Operator.holds, Reference.valueList, Value.isMultipleOf]

theorem evaluate_divisorOf_eq_pass_iff :
    (divisorOf a).evaluate (.number (.ofInt b)) = .pass ↔
      Number.isExactQuotient (.ofInt a) (.ofInt b) = true := by
  rw [divisorOf, evaluate_singleLeaf_eq_pass_iff rfl]
  simp [Operator.holds, Reference.valueList, Value.isMultipleOf]

/-! ## What is left over -/

/-- The signs of two numbers do not matter to what is left over. -/
theorem exists_abs_sub_mul_le_iff {x y bound : ℚ} :
    (∃ k : ℤ, |x - k * y| ≤ bound) ↔ ∃ k : ℤ, |(|x| - k * |y|)| ≤ bound := by
  -- With one sign changed, the multiple on the other side of zero leaves as much.
  have hflip : ∀ {x y x' y' : ℚ}, (∀ k : ℤ, |x - k * y| = |x' - (-k : ℤ) * y'|) →
      ((∃ k : ℤ, |x - k * y| ≤ bound) ↔ ∃ k : ℤ, |x' - k * y'| ≤ bound) := by
    intro x y x' y' h
    exact (Equiv.neg ℤ).exists_congr fun k => by rw [h k]; rfl
  rcases abs_choice x with hx | hx <;> rcases abs_choice y with hy | hy <;> rw [hx, hy]
  · apply hflip
    intro k
    push_cast
    ring_nf
  · apply hflip
    intro k
    rw [← abs_neg]
    push_cast
    ring_nf
  · refine exists_congr fun k => ?_
    rw [← abs_neg]
    ring_nf

theorem nearMultiple_iff_nearWhole (hb : b ≠ 0) :
    NearMultiple share a b ↔ NearWhole share (|(a : ℚ)| / |(b : ℚ)|) := by
  have hpos : 0 < |(b : ℚ)| := abs_pos.mpr (Int.cast_ne_zero.mpr hb)
  rw [NearMultiple, NearWhole, exists_abs_sub_mul_le_iff]
  refine exists_congr fun k => ?_
  have hleft : |(|(a : ℚ)| / |(b : ℚ)| - k)| =
      |(|(a : ℚ)| - k * |(b : ℚ)|)| / |(b : ℚ)| := by
    rw [div_sub' hpos.ne', abs_div, abs_abs, mul_comm]
  have hsize : max (|(a : ℚ)| / |(b : ℚ)|) 1 = max |(a : ℚ)| |(b : ℚ)| / |(b : ℚ)| := by
    rw [← div_self hpos.ne', max_div_div_right hpos.le]
  rw [hleft, hsize, ← mul_div_assoc, div_le_div_iff_of_pos_right hpos]

theorem nearMultiple_of_dvd (hshare : 0 ≤ share) (h : b ∣ a) : NearMultiple share a b := by
  obtain ⟨k, rfl⟩ := h
  refine ⟨k, ?_⟩
  have hrest : ((b * k : ℤ) : ℚ) - k * b = 0 := by
    push_cast
    ring
  rw [hrest, abs_zero]
  positivity

/-- Where the tolerance is below one, nothing is left over. -/
theorem dvd_of_nearMultiple {limit : ℤ} (hlimit : share / 10 ^ 9 * limit < 1) (hshare : 0 ≤ share)
    (ha : |a| ≤ limit) (hb : |b| ≤ limit) (h : NearMultiple share a b) : b ∣ a := by
  obtain ⟨k, hk⟩ := h
  have hmax : max |(a : ℚ)| |(b : ℚ)| ≤ limit := by
    exact_mod_cast max_le ha hb
  have hrest : |(a : ℚ) - k * b| < 1 := by
    calc |(a : ℚ) - k * b| ≤ share / 10 ^ 9 * max |(a : ℚ)| |(b : ℚ)| := hk
      _ ≤ share / 10 ^ 9 * limit := by gcongr
      _ < 1 := hlimit
  have hzero : a - k * b = 0 := Int.abs_lt_one_iff.mp (by exact_mod_cast hrest)
  exact ⟨k, by linarith⟩

/-! ## Whole numbers that are held exactly -/

theorem moderate_quotient (ha : |a| ≤ 2 ^ 53) (hb : |b| ≤ 2 ^ 53) (hne : b ≠ 0) :
    Moderate (|(a : ℚ)| / |(b : ℚ)|) := by
  have hone : (1 : ℚ) ≤ |(b : ℚ)| := by exact_mod_cast Int.one_le_abs hne
  have ha' : |(a : ℚ)| ≤ 2 ^ 53 := by exact_mod_cast ha
  have hb' : |(b : ℚ)| ≤ 2 ^ 53 := by exact_mod_cast hb
  constructor
  · calc |(a : ℚ)| / |(b : ℚ)| ≤ |(a : ℚ)| := div_le_self (abs_nonneg _) hone
      _ ≤ 2 ^ 64 := ha'.trans (by norm_num)
  · intro hquotient
    have hnonzero : a ≠ 0 := by
      rintro rfl
      simp at hquotient
    have hone' : (1 : ℚ) ≤ |(a : ℚ)| := by exact_mod_cast Int.one_le_abs hnonzero
    calc (1 / 2 ^ 64 : ℚ) ≤ 1 / 2 ^ 53 := by norm_num
      _ ≤ |(a : ℚ)| / |(b : ℚ)| := by gcongr

/-- The division test of whole numbers that are held exactly. -/
theorem isExactQuotient_ofInt (ha : |a| ≤ 2 ^ 53) (hb : |b| ≤ 2 ^ 53) (hne : b ≠ 0) :
    (NearMultiple (1 - divisionSlack) a b → Number.isExactQuotient (.ofInt a) (.ofInt b) = true) ∧
      (Number.isExactQuotient (.ofInt a) (.ofInt b) = true →
        NearMultiple (1 + divisionSlack) a b) := by
  obtain ⟨m, hm, hdividend⟩ := Number.exists_ofInt ha
  obtain ⟨n, hn, hdivisor⟩ := Number.exists_ofInt hb
  have hcount : n.quanta ≠ 0 := by
    intro hzero
    rw [Magnitude.value, hzero, Nat.cast_zero, zero_div] at hdivisor
    exact hne (by simpa using hdivisor.symm)
  have hmoderate := moderate_quotient ha hb hne
  rw [← hdividend, ← hdivisor] at hmoderate
  rw [hm, hn, nearMultiple_iff_nearWhole hne, nearMultiple_iff_nearWhole hne, ← hdividend,
    ← hdivisor]
  exact ⟨Number.isExactQuotient_of_nearWhole hcount hmoderate,
    Number.nearWhole_of_isExactQuotient hcount hmoderate⟩

/-- **Multiples of whole numbers.**  Of two whole numbers that are held exactly, the one
passes as a multiple when the other passes as a divisor.  Multiples pass, and so do numbers
that are within the tolerance of one, and these only, up to the slack of the tolerance.  As
long as the tolerance is below one, these are the multiples. -/
theorem multiple_passes (ha : |a| ≤ 2 ^ 53) (hb : |b| ≤ 2 ^ 53) (hne : b ≠ 0) :
    ((multipleOf b).evaluate (.number (.ofInt a)) = .pass ↔
        (divisorOf a).evaluate (.number (.ofInt b)) = .pass) ∧
      (b ∣ a → (multipleOf b).evaluate (.number (.ofInt a)) = .pass) ∧
      (NearMultiple (1 - divisionSlack) a b →
        (multipleOf b).evaluate (.number (.ofInt a)) = .pass) ∧
      ((multipleOf b).evaluate (.number (.ofInt a)) = .pass →
        NearMultiple (1 + divisionSlack) a b) ∧
      (|a| ≤ 999999880 → |b| ≤ 999999880 →
        ((multipleOf b).evaluate (.number (.ofInt a)) = .pass ↔ b ∣ a)) := by
  obtain ⟨hpasses, hnear⟩ := isExactQuotient_ofInt ha hb hne
  rw [evaluate_multipleOf_eq_pass_iff, evaluate_divisorOf_eq_pass_iff]
  have hmultiple : b ∣ a → Number.isExactQuotient (.ofInt a) (.ofInt b) = true := fun h =>
    hpasses (nearMultiple_of_dvd (by norm_num [divisionSlack]) h)
  refine ⟨Iff.rfl, hmultiple, hpasses, hnear, fun ha' hb' => ⟨fun h => ?_, hmultiple⟩⟩
  have hlimit : (1 + divisionSlack) / 10 ^ 9 * (999999880 : ℤ) < 1 := by norm_num [divisionSlack]
  exact dvd_of_nearMultiple hlimit (by norm_num [divisionSlack]) ha' hb' (hnear h)

/-- Forty-two is a multiple of seven, below zero too. -/
theorem fortyTwo_multiple_seven :
    |(-42 : ℤ)| ≤ 2 ^ 53 ∧ |(7 : ℤ)| ≤ 2 ^ 53 ∧ (7 : ℤ) ≠ 0 ∧
      (multipleOf 7).evaluate (.number (.ofInt (-42))) = .pass ∧
      (divisorOf (-42)).evaluate (.number (.ofInt 7)) = .pass := by
  have ha : |(-42 : ℤ)| ≤ 2 ^ 53 := by decide
  have hb : |(7 : ℤ)| ≤ 2 ^ 53 := by decide
  have hne : (7 : ℤ) ≠ 0 := by decide
  obtain ⟨hdivides, hmultiple, -⟩ := multiple_passes ha hb hne
  have hpass := hmultiple ⟨-6, by decide⟩
  exact ⟨ha, hb, hne, hpass, hdivides.mp hpass⟩

/-- Whole numbers that pass are not always multiples. -/
theorem not_forall_multiple_iff_dvd :
    ¬ ∀ a b : ℤ, |a| ≤ 2 ^ 53 → |b| ≤ 2 ^ 53 → b ≠ 0 →
      ((multipleOf b).evaluate (.number (.ofInt a)) = .pass ↔ b ∣ a) ∧
        ((divisorOf a).evaluate (.number (.ofInt b)) = .pass ↔ b ∣ a) := by
  intro h
  have hpass : (multipleOf 2).evaluate (.number (.ofInt 1000000001)) = .pass := by
    rw [evaluate_multipleOf_eq_pass_iff]
    decide +kernel
  have hdvd : (2 : ℤ) ∣ 1000000001 :=
    (h 1000000001 2 (by decide) (by decide) (by decide)).1.mp hpass
  omega

end ValueAssertions
