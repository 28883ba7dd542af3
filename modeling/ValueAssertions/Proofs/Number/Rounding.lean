import Mathlib.Algebra.Order.Round
import Mathlib.Data.Nat.Cast.Order.Field
import Mathlib.Data.Rat.Floor
import Mathlib.Tactic.FieldSimp
import Mathlib.Tactic.Linarith
import Mathlib.Tactic.NormNum
import Mathlib.Tactic.Ring
import ValueAssertions.Number.Rounding

/-!
# Errors of rounding

Rounding a ratio to a representable count moves it by at most half of the spacing around
it.  Counts of at most 53 bits have spacing one, and above them the spacing is at most the
part `2 ^ -52` of the count (`powerOfTwo_mul_spacing_le`).  So a ratio that is not below
`2 ^ 52` moves by at most the part `2 ^ -53` of itself (`roundsTo_roundQuotient`), and a
whole number, which below that limit does not move at all, moves no further either
(`roundsTo_roundQuotient_one`).

The nearest whole number, with halves away from zero, is `round`
(`nearestAway_eq_round`).
-/

namespace ValueAssertions

/-- The greatest relative error of rounding, `2 ^ -53`. -/
def unitRoundoff : ℚ :=
  1 / 2 ^ 53

/-- The second amount is what rounding may make of the first. -/
def RoundsTo (x y : ℚ) : Prop :=
  |y - x| ≤ unitRoundoff * x

namespace RoundsTo

variable {x y : ℚ}

theorem le (h : RoundsTo x y) : y ≤ (1 + unitRoundoff) * x := by
  have := (abs_le.mp h).2
  linarith

theorem ge (h : RoundsTo x y) : (1 - unitRoundoff) * x ≤ y := by
  have := (abs_le.mp h).1
  linarith

theorem refl (hx : 0 ≤ x) : RoundsTo x x := by
  rw [RoundsTo, sub_self, abs_zero]
  exact mul_nonneg (by norm_num [unitRoundoff]) hx

theorem div (h : RoundsTo x y) {c : ℚ} (hc : 0 < c) : RoundsTo (x / c) (y / c) := by
  rw [RoundsTo, ← sub_div, abs_div, abs_of_pos hc, ← mul_div_assoc]
  exact (div_le_div_iff_of_pos_right hc).mpr h

end RoundsTo

/-! ## Spacing -/

theorem powerOfTwo_le {d e : ℕ} (h : d ≤ e) : powerOfTwo d ≤ powerOfTwo e :=
  Nat.pow_le_pow_right Nat.two_pos h

theorem powerOfTwo_lt {d e : ℕ} (h : d < e) : powerOfTwo d < powerOfTwo e :=
  Nat.pow_lt_pow_right Nat.one_lt_two h

theorem spacing_pos (n : ℕ) : 0 < spacing n :=
  powerOfTwo_pos _

theorem spacing_eq_one {n : ℕ} (h : n < powerOfTwo 53) : spacing n = 1 := by
  have hlog : n.log2 ≤ 52 := by
    rcases Nat.eq_zero_or_pos n with rfl | hpos
    · decide
    · exact Nat.lt_succ_iff.mp ((Nat.log2_lt (Nat.ne_of_gt hpos)).mpr h)
  rw [spacing, Nat.sub_eq_zero_of_le hlog]
  rfl

theorem powerOfTwo_le_iff_le_log2 {n e : ℕ} (hn : n ≠ 0) : powerOfTwo e ≤ n ↔ e ≤ n.log2 :=
  (Nat.le_log2 hn).symm

theorem powerOfTwo_mul_spacing_le {n : ℕ} (h : powerOfTwo 52 ≤ n) :
    powerOfTwo 52 * spacing n ≤ n := by
  have hn : n ≠ 0 := Nat.ne_of_gt (Nat.lt_of_lt_of_le (powerOfTwo_pos 52) h)
  have hlog : 52 ≤ n.log2 := (powerOfTwo_le_iff_le_log2 hn).mp h
  rw [spacing, ← powerOfTwo_add, powerOfTwo_le_iff_le_log2 hn]
  omega

/-- Counts that reach a power of two are whole multiples of the part `2 ^ -52` of it. -/
theorem powerOfTwo_dvd_of_representable {n e : ℕ} (h : Representable n)
    (hle : powerOfTwo (52 + e) ≤ n) : powerOfTwo e ∣ n := by
  have hn : n ≠ 0 := Nat.ne_of_gt (Nat.lt_of_lt_of_le (powerOfTwo_pos _) hle)
  have hlog : 52 + e ≤ n.log2 := (powerOfTwo_le_iff_le_log2 hn).mp hle
  exact Nat.dvd_trans (powerOfTwo_dvd (by omega)) h.2

/-! ## Nearest whole numbers -/

theorem nearestEven_mul {den : ℕ} (hden : 0 < den) (k : ℕ) : nearestEven (k * den) den = k := by
  rw [nearestEven, Nat.mul_mod_left, Nat.mul_div_cancel k hden]
  simp [hden]

/-- The even nearest whole number is at most half away, on either side. -/
theorem nearestEven_mul_bounds {den : ℕ} (hden : 0 < den) (num : ℕ) :
    2 * (nearestEven num den * den) ≤ 2 * num + den ∧
      2 * num ≤ 2 * (nearestEven num den * den) + den := by
  have hdiv : num = num / den * den + num % den := by
    rw [Nat.mul_comm]
    exact (Nat.div_add_mod num den).symm
  have hmod : num % den < den := Nat.mod_lt num hden
  have hlast : num / den % 2 = 0 ∨ num / den % 2 = 1 := Nat.mod_two_eq_zero_or_one _
  rw [nearestEven]
  generalize num / den = whole at *
  generalize num % den = rest at *
  split
  · omega
  · split
    · rw [Nat.add_mul]
      omega
    · rcases hlast with h | h
      · rw [h, Nat.add_zero]
        omega
      · rw [h, Nat.add_mul]
        omega

theorem nearestEven_error {den : ℕ} (hden : 0 < den) (num : ℕ) :
    |(nearestEven num den : ℚ) * den - num| ≤ den / 2 := by
  have hbounds := nearestEven_mul_bounds hden num
  have hupper : (2 * (nearestEven num den * den) : ℚ) ≤ 2 * num + den := by
    exact_mod_cast hbounds.1
  have hlower : (2 * num : ℚ) ≤ 2 * (nearestEven num den * den) + den := by
    exact_mod_cast hbounds.2
  rw [abs_le]
  constructor <;> linarith

theorem nearestAway_mul {den : ℕ} (hden : 0 < den) (k : ℕ) : nearestAway (k * den) den = k := by
  rw [nearestAway, show 2 * (k * den) + den = den + k * (2 * den) by ring,
    Nat.add_mul_div_right _ _ (by omega), Nat.div_eq_of_lt (by omega), Nat.zero_add]

theorem nearestAway_le {num den bound : ℕ} (h : num < bound * den) :
    nearestAway num den ≤ bound := by
  have hden : 0 < den := Nat.pos_of_mul_pos_left (Nat.zero_lt_of_lt h)
  rw [nearestAway, ← Nat.lt_succ_iff, Nat.div_lt_iff_lt_mul (by omega)]
  calc 2 * num + den < 2 * (bound * den) + 2 * den := by omega
    _ = (bound + 1) * (2 * den) := by ring

theorem nearestAway_eq_round {den : ℕ} (hden : 0 < den) (num : ℕ) :
    (nearestAway num den : ℤ) = round (num / den : ℚ) := by
  have hpos : (0 : ℚ) < den := by exact_mod_cast hden
  have hhalf : (num / den : ℚ) + 1 / 2 = ((2 * num + den : ℕ) : ℚ) / (2 * den : ℕ) := by
    push_cast
    field_simp
  rw [round_eq, hhalf, Rat.floor_natCast_div_natCast, nearestAway]
  rfl

/-! ## Rounded ratios -/

/-- A rounded ratio is at most half of the spacing away. -/
theorem roundQuotient_error {den : ℕ} (hden : 0 < den) (num : ℕ) :
    |(roundQuotient num den : ℚ) - num / den| ≤ spacing (num / den) / 2 := by
  have hpos : (0 : ℚ) < den := by exact_mod_cast hden
  have herror := nearestEven_error (Nat.mul_pos hden (spacing_pos (num / den))) num
  rw [roundQuotient]
  generalize spacing (num / den) = unit at *
  generalize nearestEven num (den * unit) = nearest at *
  have hscale : ((nearest * unit : ℕ) : ℚ) - num / den =
      (nearest * (den * unit : ℕ) - num) / den := by
    push_cast
    field_simp
  rw [hscale, abs_div, abs_of_pos hpos, div_le_iff₀ hpos]
  calc |(nearest : ℚ) * (den * unit : ℕ) - num| ≤ (den * unit : ℕ) / 2 := herror
    _ = unit / 2 * den := by
      push_cast
      ring

/-- Ratios that are not below `2 ^ 52` have a small relative error. -/
theorem roundsTo_roundQuotient {num den : ℕ} (hden : 0 < den)
    (h : powerOfTwo 52 * den ≤ num) : RoundsTo (num / den) (roundQuotient num den) := by
  have hpos : (0 : ℚ) < den := by exact_mod_cast hden
  have hwhole : powerOfTwo 52 ≤ num / den := (Nat.le_div_iff_mul_le hden).mpr h
  have hspacing : ((2 ^ 52 * spacing (num / den) : ℕ) : ℚ) ≤ (num / den : ℕ) := by
    exact_mod_cast powerOfTwo_mul_spacing_le hwhole
  have hfloor : ((num / den : ℕ) : ℚ) ≤ num / den := Nat.cast_div_le
  calc |(roundQuotient num den : ℚ) - num / den| ≤ spacing (num / den) / 2 :=
        roundQuotient_error hden num
    _ ≤ unitRoundoff * (num / den) := by
      push_cast at hspacing
      rw [unitRoundoff]
      linarith

/-- Counts of at most 53 significant bits stay as they are. -/
theorem roundQuotient_one_of_dvd {n : ℕ} (h : spacing n ∣ n) : roundQuotient n 1 = n := by
  have hcount : n / spacing n * spacing n = n := Nat.div_mul_cancel h
  have hnearest := nearestEven_mul (spacing_pos n) (n / spacing n)
  rw [hcount] at hnearest
  rw [roundQuotient, Nat.div_one, Nat.one_mul, hnearest, hcount]

/-- Whole numbers of any size have a small relative error. -/
theorem roundsTo_roundQuotient_one (n : ℕ) : RoundsTo n (roundQuotient n 1) := by
  rcases Nat.lt_or_ge n (powerOfTwo 53) with hsmall | hlarge
  · have hexact : roundQuotient n 1 = n :=
      roundQuotient_one_of_dvd (spacing_eq_one hsmall ▸ Nat.one_dvd n)
    rw [hexact]
    exact .refl n.cast_nonneg
  · have hle : powerOfTwo 52 * 1 ≤ n := le_trans (by decide) hlarge
    simpa using roundsTo_roundQuotient Nat.one_pos hle

end ValueAssertions
