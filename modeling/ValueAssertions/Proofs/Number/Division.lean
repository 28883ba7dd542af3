import Mathlib.Tactic.GCongr
import Mathlib.Tactic.Positivity
import ValueAssertions.Proofs.Number.Equality
import ValueAssertions.Proofs.Number.Rounding

/-!
# The division test

The division test rounds the quotient, its distance to the nearest whole number, the
tolerance at one, and the tolerance at the quotient.  The nearest whole number itself is
exact.  As long as the amounts stay away from both ends of the range (`Moderate`), each of
them is finite and has a small relative error, and the test compares what rounding makes of
the distance and of the tolerance (`exists_roundedTest`).

The error of the quotient is relative to the quotient and not to its distance from a whole
number.  Against a tolerance of `10 ^ -9` it weighs about `10 ^ -7`, and all other errors
are far below it.  So the test is right about every quotient whose distance is not within
twelve parts of a hundred million of the tolerance (`isExactQuotient_of_nearWhole`,
`nearWhole_of_isExactQuotient`).
-/

namespace ValueAssertions

/-! ## Amounts -/

/-- The amount of a magnitude. -/
def Magnitude.value (m : Magnitude) : ℚ :=
  m.quanta / quantaPerOne

theorem quantaPerOne_pos : (0 : ℚ) < quantaPerOne := by
  exact_mod_cast powerOfTwo_pos 1074

theorem Magnitude.value_nonneg (m : Magnitude) : 0 ≤ m.value :=
  div_nonneg m.quanta.cast_nonneg quantaPerOne_pos.le

/-- Amounts that are far from both ends of the range, or nothing. -/
structure Moderate (x : ℚ) : Prop where
  upper : x ≤ 2 ^ 64
  lower : x ≠ 0 → 1 / 2 ^ 64 ≤ x

theorem powerOfTwo_mul_quantaPerOne_lt {e : ℕ} (h : e < 1024) :
    powerOfTwo e * quantaPerOne < quantaLimit := by
  rw [quantaPerOne, ← powerOfTwo_add]
  exact powerOfTwo_lt (by rw [quantaBits]; omega)

/-- Twice a moderate amount is in range. -/
theorem lt_quantaLimit {n : ℕ} (h : (n : ℚ) ≤ 2 * (2 ^ 64 * quantaPerOne)) : n < quantaLimit := by
  have hpower : ((powerOfTwo 65 : ℕ) : ℚ) = 2 * 2 ^ 64 := by norm_num [powerOfTwo]
  have hcount : (n : ℚ) ≤ (powerOfTwo 65 * quantaPerOne : ℕ) := by
    rw [Nat.cast_mul, hpower]
    linarith
  exact lt_of_le_of_lt (Nat.cast_le.mp hcount) (powerOfTwo_mul_quantaPerOne_lt (by decide))

namespace Number

variable {s t : Bool} {m n : Magnitude} {x : ℚ}

/-! ## Roundings of moderate amounts -/

theorem exists_ofQuotient_of_roundsTo (s : Bool) {num den : ℕ}
    (h : RoundsTo (x * quantaPerOne) (roundQuotient num den)) (hnonneg : 0 ≤ x)
    (hx : x ≤ 2 ^ 64) :
    ∃ m, ofQuotient s num den = finite s m ∧ RoundsTo x m.value := by
  have hscaled : x * quantaPerOne ≤ 2 ^ 64 * quantaPerOne :=
    mul_le_mul_of_nonneg_right hx quantaPerOne_pos.le
  have hrange : roundQuotient num den < quantaLimit := by
    apply lt_quantaLimit
    have hle := h.le
    have : 0 ≤ x * quantaPerOne := mul_nonneg hnonneg quantaPerOne_pos.le
    rw [unitRoundoff] at hle
    linarith
  refine ⟨⟨roundQuotient num den, representable_roundQuotient hrange⟩, ?_, ?_⟩
  · rw [ofQuotient, dif_pos hrange]
  · have hvalue := h.div quantaPerOne_pos
    rwa [mul_div_cancel_right₀ _ quantaPerOne_pos.ne'] at hvalue

theorem exists_ofQuotient (s : Bool) {num den : ℕ} (hden : 0 < den)
    (hquotient : (num / den : ℚ) = x * quantaPerOne) (hnonneg : 0 ≤ x) (hx : Moderate x) :
    ∃ m, ofQuotient s num den = finite s m ∧ RoundsTo x m.value := by
  have hpos : (0 : ℚ) < den := by exact_mod_cast hden
  refine exists_ofQuotient_of_roundsTo s ?_ hnonneg hx.upper
  rw [← hquotient]
  -- Nothing stays nothing, and all other moderate amounts have 53 significant bits to round to.
  rcases eq_or_ne x 0 with rfl | hne
  · rw [zero_mul] at hquotient
    have hnum : num = 0 := by
      exact_mod_cast (div_eq_zero_iff.mp hquotient).resolve_right hpos.ne'
    rw [hquotient, hnum, roundQuotient_zero, Nat.cast_zero]
    exact .refl le_rfl
  · apply roundsTo_roundQuotient hden
    have hunits : ((powerOfTwo 116 : ℕ) : ℚ) ≤ quantaPerOne :=
      Nat.cast_le.mpr (powerOfTwo_le (by decide))
    have hnormal : (powerOfTwo 52 : ℚ) ≤ num / den := by
      calc (powerOfTwo 52 : ℚ) = 1 / 2 ^ 64 * (powerOfTwo 116 : ℕ) := by norm_num [powerOfTwo]
        _ ≤ x * quantaPerOne := mul_le_mul (hx.lower hne) hunits (Nat.cast_nonneg _) hnonneg
        _ = num / den := hquotient.symm
    rw [le_div_iff₀ hpos] at hnormal
    exact_mod_cast hnormal

theorem exists_ofQuotient_one (s : Bool) {count : ℕ} (h : (count / quantaPerOne : ℚ) ≤ 2 ^ 64) :
    ∃ m, ofQuotient s count 1 = finite s m ∧ RoundsTo (count / quantaPerOne) m.value := by
  refine exists_ofQuotient_of_roundsTo s ?_ ?_ h
  · rw [div_mul_cancel₀ _ quantaPerOne_pos.ne']
    exact roundsTo_roundQuotient_one count
  · exact div_nonneg count.cast_nonneg quantaPerOne_pos.le

theorem ofQuotient_of_representable (s : Bool) {count : ℕ} (h : Representable count) :
    ofQuotient s count 1 = finite s ⟨count, h⟩ := by
  have hcount : roundQuotient count 1 = count := roundQuotient_one_of_dvd h.2
  have hrange : roundQuotient count 1 < quantaLimit := hcount.symm ▸ h.1
  rw [ofQuotient, dif_pos hrange]
  simp only [hcount]

/-! ## The operations -/

theorem exists_divide (hn : n.quanta ≠ 0) (h : Moderate (m.value / n.value)) :
    ∃ q, (finite s m).divide (finite t n) = finite (s != t) q ∧
      RoundsTo (m.value / n.value) q.value := by
  rw [divide, if_neg hn]
  refine exists_ofQuotient _ (Nat.pos_of_ne_zero hn) ?_
    (div_nonneg m.value_nonneg n.value_nonneg) h
  have hcast : (n.quanta : ℚ) ≠ 0 := by exact_mod_cast hn
  have hunit := quantaPerOne_pos.ne'
  rw [Magnitude.value, Magnitude.value]
  push_cast
  field_simp

theorem exists_multiply (h : Moderate (m.value * n.value)) :
    ∃ p, (finite s m).multiply (finite t n) = finite (s != t) p ∧
      RoundsTo (m.value * n.value) p.value := by
  rw [multiply]
  refine exists_ofQuotient _ (powerOfTwo_pos 1074) ?_
    (mul_nonneg m.value_nonneg n.value_nonneg) h
  have hunit := quantaPerOne_pos.ne'
  rw [Magnitude.value, Magnitude.value]
  push_cast
  field_simp

theorem representable_mul_quantaPerOne {k : ℕ} (h : k ≤ powerOfTwo 53) :
    Representable (k * quantaPerOne) :=
  ⟨lt_of_le_of_lt (Nat.mul_le_mul_right _ h) (powerOfTwo_mul_quantaPerOne_lt (by decide)),
    spacing_mul_powerOfTwo_dvd k 1074 h⟩

/-- The count of a nearest whole number belongs to the format: small ones do anyway, and large
counts are whole already. -/
theorem representable_nearestAway {count : ℕ} (h : Representable count) :
    Representable (nearestAway count quantaPerOne * quantaPerOne) := by
  have hunit : 0 < quantaPerOne := powerOfTwo_pos 1074
  rcases Nat.lt_or_ge count (powerOfTwo 52 * quantaPerOne) with hsmall | hlarge
  · have hbits : nearestAway count quantaPerOne ≤ powerOfTwo 53 :=
      (nearestAway_le hsmall).trans (powerOfTwo_le (by decide))
    exact representable_mul_quantaPerOne hbits
  · rw [quantaPerOne, ← powerOfTwo_add] at hlarge
    obtain ⟨k, hk⟩ : quantaPerOne ∣ count := powerOfTwo_dvd_of_representable h hlarge
    rw [Nat.mul_comm] at hk
    rwa [hk, nearestAway_mul hunit, ← hk]

theorem exists_roundHalfAway (s : Bool) (m : Magnitude) :
    ∃ n, (finite s m).roundHalfAway = finite s n ∧ n.value = round m.value := by
  refine ⟨⟨_, representable_nearestAway m.representable⟩, ?_, ?_⟩
  · rw [roundHalfAway, ofQuotient_of_representable]
  · have hround := nearestAway_eq_round (powerOfTwo_pos 1074) m.quanta
    change (nearestAway m.quanta quantaPerOne : ℤ) = round m.value at hround
    rw [← hround, Magnitude.value]
    push_cast
    exact mul_div_cancel_right₀ _ quantaPerOne_pos.ne'

/-- Differences of one sign, which then is left out. -/
theorem exists_abs_subtract (h : |m.value - n.value| ≤ 2 ^ 64) :
    ∃ d, ((finite s m).subtract (finite s n)).abs = finite false d ∧
      RoundsTo |m.value - n.value| d.value := by
  have hcount : (signed s m.quanta - signed s n.quanta).natAbs =
      ((m.quanta : ℤ) - n.quanta).natAbs := by
    cases s with
    | false => rfl
    | true =>
        simp only [signed, if_true]
        omega
  have hvalue : |m.value - n.value| =
      (((m.quanta : ℤ) - n.quanta).natAbs : ℚ) / quantaPerOne := by
    rw [Magnitude.value, Magnitude.value, ← sub_div, abs_div, abs_of_pos quantaPerOne_pos,
      Nat.cast_natAbs]
    push_cast
    rfl
  rw [hvalue] at h ⊢
  obtain ⟨d, hd, herror⟩ :=
    exists_ofQuotient_one (decide (signed s m.quanta - signed s n.quanta < 0)) h
  rw [subtract]
  split
  · next hzero =>
      refine ⟨⟨0, representable_zero⟩, rfl, ?_⟩
      rw [← hcount, hzero]
      exact .refl (div_nonneg (Nat.cast_nonneg 0) quantaPerOne_pos.le)
  · rw [hcount, hd]
    exact ⟨d, rfl, herror⟩

theorem value_lt_value : m.value < n.value ↔ m.quanta < n.quanta := by
  rw [Magnitude.value, Magnitude.value, div_lt_div_iff_of_pos_right quantaPerOne_pos, Nat.cast_lt]

/-- Numbers without a sign are ordered as their amounts are. -/
theorem compare?_finite (m n : Magnitude) :
    (finite false m).compare? (finite false n) = some (compare m.value n.value) := by
  have hcounts : (finite false m).compare? (finite false n) =
      some (compare (m.quanta : ℤ) n.quanta) := rfl
  rw [hcounts]
  rcases lt_trichotomy m.quanta n.quanta with h | h | h
  · rw [compare_lt_iff_lt.mpr (Int.ofNat_lt.mpr h), compare_lt_iff_lt.mpr (value_lt_value.mpr h)]
  · rw [Magnitude.value, Magnitude.value, h, compare_eq_iff_eq.mpr rfl, compare_eq_iff_eq.mpr rfl]
  · rw [compare_gt_iff_gt.mpr (Int.ofNat_lt.mpr h), compare_gt_iff_gt.mpr (value_lt_value.mpr h)]

theorem atMost_iff : (finite false m).atMost (finite false n) = true ↔ m.value ≤ n.value := by
  rw [atMost, compare?_finite]
  rcases lt_trichotomy m.value n.value with h | h | h
  · rw [compare_lt_iff_lt.mpr h]
    exact iff_of_true rfl h.le
  · rw [compare_eq_iff_eq.mpr h]
    exact iff_of_true rfl h.le
  · rw [compare_gt_iff_gt.mpr h]
    exact iff_of_false nofun h.not_ge

theorem exists_max (m n : Magnitude) :
    ∃ k, (finite false m).max (finite false n) = finite false k ∧
      k.value = Max.max m.value n.value := by
  rw [max, compare?_finite]
  rcases lt_trichotomy m.value n.value with h | h | h
  · rw [compare_lt_iff_lt.mpr h]
    exact ⟨n, rfl, (max_eq_right h.le).symm⟩
  · rw [compare_eq_iff_eq.mpr h]
    exact ⟨m, rfl, (max_eq_left h.ge).symm⟩
  · rw [compare_gt_iff_gt.mpr h]
    exact ⟨m, rfl, (max_eq_left h.le).symm⟩

/-! ## The numbers that go into the test -/

theorem exists_ofInt {a : ℤ} (h : |a| ≤ 2 ^ 53) :
    ∃ m, ofInt a = finite (decide (a < 0)) m ∧ m.value = |(a : ℚ)| := by
  have hcount : a.natAbs ≤ powerOfTwo 53 := by
    have hpower : powerOfTwo 53 = 2 ^ 53 := rfl
    rw [Int.abs_eq_natAbs] at h
    omega
  have hrepresentable := representable_mul_quantaPerOne hcount
  refine ⟨⟨_, hrepresentable⟩, ofQuotient_of_representable _ hrepresentable, ?_⟩
  rw [Magnitude.value, Nat.cast_mul, mul_div_cancel_right₀ _ quantaPerOne_pos.ne', Nat.cast_natAbs,
    Int.cast_abs]

theorem exists_one : ∃ m, one = finite false m ∧ m.value = 1 := by
  obtain ⟨m, hm, hvalue⟩ := exists_ofInt (a := 1) (by norm_num)
  exact ⟨m, hm, by simpa using hvalue⟩

theorem exists_divisionTolerance :
    ∃ m, divisionTolerance = finite false m ∧ RoundsTo (1 / 10 ^ 9) m.value := by
  refine exists_ofQuotient false (by decide) ?_ (by norm_num) ⟨by norm_num, by norm_num⟩
  push_cast
  ring

end Number

/-! ## The test on amounts -/

/-- What a division test computes for an exact quotient. -/
structure RoundedTest (x : ℚ) where
  /-- The quotient. -/
  quotient : ℚ
  /-- Its distance to the nearest whole number. -/
  distance : ℚ
  /-- The tolerance at one. -/
  unit : ℚ
  /-- The tolerance at the quotient. -/
  tolerance : ℚ
  quotient_rounds : RoundsTo x quotient
  distance_rounds : RoundsTo |quotient - round quotient| distance
  unit_rounds : RoundsTo (1 / 10 ^ 9) unit
  tolerance_rounds : RoundsTo (unit * max quotient 1) tolerance

theorem moderate_tolerance {x quotient unit : ℚ} (hx : x ≤ 2 ^ 64)
    (hquotient : RoundsTo x quotient) (hunit : RoundsTo (1 / 10 ^ 9) unit) :
    Moderate (unit * max quotient 1) := by
  have hone : 1 ≤ max quotient 1 := le_max_right quotient 1
  have hupper : max quotient 1 ≤ 2 ^ 65 := by
    have hle := hquotient.le
    rw [unitRoundoff] at hle
    exact max_le (by linarith) (by norm_num)
  have hunit_le : unit ≤ 1 / 10 ^ 8 := hunit.le.trans (by norm_num [unitRoundoff])
  have hle_unit : 1 / 2 ^ 64 ≤ unit := le_trans (by norm_num [unitRoundoff]) hunit.ge
  constructor
  · calc unit * max quotient 1 ≤ 1 / 10 ^ 8 * 2 ^ 65 := by gcongr
      _ ≤ 2 ^ 64 := by norm_num
  · intro _
    calc 1 / 2 ^ 64 ≤ unit := hle_unit
      _ ≤ unit * max quotient 1 := le_mul_of_one_le_right (le_trans (by norm_num) hle_unit) hone

/-- How far the tolerance of the test may be off, relative to the tolerance. -/
def divisionSlack : ℚ :=
  12 / 10 ^ 8

/-- Amounts that are as near to a whole number as some share of the tolerance. -/
def NearWhole (share x : ℚ) : Prop :=
  ∃ k : ℤ, |x - k| ≤ share / 10 ^ 9 * max x 1

namespace RoundedTest

variable {x : ℚ} (test : RoundedTest x)

include test

theorem quotient_error : |test.quotient - x| ≤ unitRoundoff * max x 1 :=
  test.quotient_rounds.trans
    (mul_le_mul_of_nonneg_left (le_max_left x 1) (by norm_num [unitRoundoff]))

theorem size_le : max test.quotient 1 ≤ (1 + unitRoundoff) * max x 1 := by
  have hquotient := (abs_le.mp test.quotient_error).2
  have hx : x ≤ max x 1 := le_max_left x 1
  have hone : 1 ≤ max x 1 := le_max_right x 1
  generalize max x 1 = size at *
  rw [unitRoundoff] at *
  exact max_le (by linarith) (by linarith)

theorem le_size : (1 - unitRoundoff) * max x 1 ≤ max test.quotient 1 := by
  have hquotient := (abs_le.mp test.quotient_error).1
  rcases le_total x 1 with hx | hx
  · rw [max_eq_right hx]
    exact le_max_of_le_right (by norm_num [unitRoundoff])
  · rw [max_eq_left hx] at hquotient ⊢
    exact le_max_of_le_left (by linarith)

theorem tolerance_le : test.tolerance ≤ (1 + unitRoundoff) ^ 3 / 10 ^ 9 * max x 1 := by
  have hu : 0 ≤ 1 + unitRoundoff := by norm_num [unitRoundoff]
  have hsize : 0 ≤ max test.quotient 1 := zero_le_one.trans (le_max_right _ _)
  calc test.tolerance ≤ (1 + unitRoundoff) * (test.unit * max test.quotient 1) :=
        test.tolerance_rounds.le
    _ ≤ (1 + unitRoundoff) *
          ((1 + unitRoundoff) * (1 / 10 ^ 9) * ((1 + unitRoundoff) * max x 1)) := by
      gcongr
      · exact test.unit_rounds.le
      · exact test.size_le
    _ = (1 + unitRoundoff) ^ 3 / 10 ^ 9 * max x 1 := by ring

theorem le_tolerance : (1 - unitRoundoff) ^ 3 / 10 ^ 9 * max x 1 ≤ test.tolerance := by
  have hu : 0 ≤ 1 - unitRoundoff := by norm_num [unitRoundoff]
  have hunit := test.unit_rounds.ge
  have hsize : 0 ≤ max x 1 := zero_le_one.trans (le_max_right _ _)
  calc (1 - unitRoundoff) ^ 3 / 10 ^ 9 * max x 1
      = (1 - unitRoundoff) *
          ((1 - unitRoundoff) * (1 / 10 ^ 9) * ((1 - unitRoundoff) * max x 1)) := by ring
    _ ≤ (1 - unitRoundoff) * (test.unit * max test.quotient 1) := by
      gcongr
      · exact le_trans (by positivity) hunit
      · exact test.le_size
    _ ≤ test.tolerance := test.tolerance_rounds.ge

theorem near_of_le (h : test.distance ≤ test.tolerance) : NearWhole (1 + divisionSlack) x := by
  refine ⟨round test.quotient, ?_⟩
  have hquotient := test.quotient_error
  have hdistance := test.distance_rounds.ge
  have htolerance := test.tolerance_le
  have htriangle := abs_sub_le x test.quotient (round test.quotient)
  have hone : 1 ≤ max x 1 := le_max_right x 1
  rw [abs_sub_comm x test.quotient] at htriangle
  -- Every error is now a share of the size; that of the quotient is the one that matters.
  generalize max x 1 = size at *
  rw [unitRoundoff] at *
  rw [divisionSlack]
  linarith

theorem le_of_near (h : NearWhole (1 - divisionSlack) x) : test.distance ≤ test.tolerance := by
  obtain ⟨k, hk⟩ := h
  have hquotient := test.quotient_error
  have hdistance := test.distance_rounds.le
  have htolerance := test.le_tolerance
  -- The nearest whole number to the rounded quotient may be another one, but is no farther.
  have hnearest := round_le test.quotient k
  have htriangle := abs_sub_le test.quotient x k
  have hone : 1 ≤ max x 1 := le_max_right x 1
  generalize max x 1 = size at *
  rw [unitRoundoff] at *
  rw [divisionSlack] at hk
  linarith

end RoundedTest

namespace Number

variable {s t : Bool} {m n : Magnitude}

theorem exists_roundedTest (hn : n.quanta ≠ 0) (h : Moderate (m.value / n.value)) :
    ∃ test : RoundedTest (m.value / n.value),
      isExactQuotient (finite s m) (finite t n) = true ↔ test.distance ≤ test.tolerance := by
  -- The numbers that the test goes through, in its order.
  obtain ⟨q, hq, hquotient⟩ := exists_divide (s := s) (t := t) hn h
  obtain ⟨w, hw, hwhole⟩ := exists_roundHalfAway (s != t) q
  have hdistance : |q.value - w.value| ≤ 2 ^ 64 := by
    rw [hwhole]
    exact (abs_sub_round q.value).trans (by norm_num)
  obtain ⟨d, hd, hdistance⟩ := exists_abs_subtract (s := s != t) hdistance
  obtain ⟨u, hu, hunit⟩ := exists_divisionTolerance
  obtain ⟨i, hi, hone⟩ := exists_one
  obtain ⟨k, hk, hsize⟩ := exists_max q i
  rw [hone] at hsize
  have hmoderate : Moderate (u.value * k.value) := by
    rw [hsize]
    exact moderate_tolerance h.upper hquotient hunit
  obtain ⟨p, hp, htolerance⟩ := exists_multiply (s := false) (t := false) hmoderate
  rw [hwhole] at hdistance
  rw [hsize] at htolerance
  refine ⟨⟨q.value, d.value, u.value, p.value, hquotient, hdistance, hunit, htolerance⟩, ?_⟩
  have hzero : (finite t n).isZero = false := by simpa [isZero] using hn
  have habs : (finite (s != t) q).abs = finite false q := rfl
  rw [isExactQuotient, hzero]
  simp only [isFinite, hq, hw, hd, hu, hi, habs, hk, hp]
  simp only [Bool.not_true, Bool.or_self, Bool.false_eq_true, if_false, bne_self_eq_false]
  exact atMost_iff

/-- Quotients that are well within the tolerance are exact. -/
theorem isExactQuotient_of_nearWhole (hn : n.quanta ≠ 0) (h : Moderate (m.value / n.value))
    (hnear : NearWhole (1 - divisionSlack) (m.value / n.value)) :
    isExactQuotient (finite s m) (finite t n) = true := by
  obtain ⟨test, htest⟩ := exists_roundedTest (s := s) (t := t) hn h
  exact htest.mpr (test.le_of_near hnear)

/-- Exact quotients are not far beyond the tolerance. -/
theorem nearWhole_of_isExactQuotient (hn : n.quanta ≠ 0) (h : Moderate (m.value / n.value))
    (hexact : isExactQuotient (finite s m) (finite t n) = true) :
    NearWhole (1 + divisionSlack) (m.value / n.value) := by
  obtain ⟨test, htest⟩ := exists_roundedTest (s := s) (t := t) hn h
  exact test.near_of_le (htest.mp hexact)

end Number

end ValueAssertions
