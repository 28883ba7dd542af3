import ValueAssertions.Number.Basic

/-!
# Rounding to the nearest number

A ratio of two natural numbers, read as a count of quanta, is rounded to the
nearest representable count, and a ratio midway between two goes to the one
whose last bit is zero.  `representable_roundQuotient` says that the result is
representable unless it is out of range, in which case the number is infinite.
-/

namespace ValueAssertions

/-- The whole number nearest to `num / den`; a tie goes to the even one. -/
def nearestEven (num den : Nat) : Nat :=
  let whole := num / den
  let rest := num % den
  if 2 * rest < den then whole
  else if den < 2 * rest then whole + 1
  else whole + whole % 2

/-- The whole number nearest to `num / den`; a tie goes away from zero. -/
def nearestAway (num den : Nat) : Nat :=
  (2 * num + den) / (2 * den)

/-- The count of at most 53 significant bits nearest to `num / den`. -/
def roundQuotient (num den : Nat) : Nat :=
  let unit := spacing (num / den)
  nearestEven num (den * unit) * unit

theorem nearestEven_le (num den : Nat) : nearestEven num den ≤ num / den + 1 := by
  unfold nearestEven
  dsimp only
  split
  · omega
  · split
    · omega
    · have : num / den % 2 < 2 := Nat.mod_lt _ (by decide)
      omega

/-- The binary logarithm of a multiple of a power of two. -/
theorem log2_mul_powerOfTwo {k : Nat} (hk : k ≠ 0) (e : Nat) :
    (k * powerOfTwo e).log2 = k.log2 + e := by
  have hpos : 0 < powerOfTwo e := powerOfTwo_pos e
  have hne : k * powerOfTwo e ≠ 0 := Nat.mul_ne_zero hk (Nat.ne_of_gt hpos)
  have hlow : powerOfTwo k.log2 ≤ k := Nat.log2_self_le hk
  have hhigh : k < powerOfTwo (k.log2 + 1) := Nat.lt_log2_self
  apply (Nat.log2_eq_iff hne).mpr
  change powerOfTwo (k.log2 + e) ≤ _ ∧ _ < powerOfTwo (k.log2 + e + 1)
  constructor
  · rw [powerOfTwo_add]
    exact Nat.mul_le_mul_right _ hlow
  · rw [show k.log2 + e + 1 = (k.log2 + 1) + e by omega, powerOfTwo_add]
    exact Nat.mul_lt_mul_of_pos_right hhigh hpos

/-- Any count of at most `2 ^ 53` units, where the unit is a power of two, has
at most 53 significant bits. -/
theorem spacing_mul_powerOfTwo_dvd (k e : Nat) (h : k ≤ powerOfTwo 53) :
    spacing (k * powerOfTwo e) ∣ k * powerOfTwo e := by
  by_cases hk : k = 0
  · subst hk
    simp
  unfold spacing
  rw [log2_mul_powerOfTwo hk]
  rcases Nat.lt_or_eq_of_le h with hlt | heq
  · have hsmall : k.log2 < 53 := (Nat.log2_lt hk).mpr hlt
    exact Nat.dvd_trans (powerOfTwo_dvd (by omega)) (Nat.dvd_mul_left _ _)
  · have hlog : k.log2 = 53 := by
      rw [heq]
      exact Nat.log2_two_pow
    rw [hlog, heq, ← powerOfTwo_add]
    exact powerOfTwo_dvd (by omega)

theorem div_spacing_lt (n : Nat) : n / spacing n < powerOfTwo 53 := by
  unfold spacing
  apply (Nat.div_lt_iff_lt_mul (powerOfTwo_pos _)).mpr
  rw [← powerOfTwo_add]
  have hlog : n < powerOfTwo (n.log2 + 1) := Nat.lt_log2_self
  exact Nat.lt_of_lt_of_le hlog (Nat.pow_le_pow_right (by decide) (by omega))

/-- A rounded ratio has at most 53 significant bits. -/
theorem spacing_roundQuotient_dvd (num den : Nat) :
    spacing (roundQuotient num den) ∣ roundQuotient num den := by
  unfold roundQuotient
  dsimp only
  apply spacing_mul_powerOfTwo_dvd
  have h := nearestEven_le num (den * spacing (num / den))
  rw [← Nat.div_div_eq_div_mul] at h
  have := div_spacing_lt (num / den)
  omega

/-- A rounded ratio is representable as soon as it is in range. -/
theorem representable_roundQuotient {num den : Nat}
    (h : roundQuotient num den < quantaLimit) : Representable (roundQuotient num den) :=
  ⟨h, spacing_roundQuotient_dvd num den⟩

namespace Number

/-- The number nearest to `num / den` quanta with the given sign; out of range
it is infinite. -/
def ofQuotient (negative : Bool) (num den : Nat) : Number :=
  if h : roundQuotient num den < quantaLimit then
    .finite negative ⟨roundQuotient num den, representable_roundQuotient h⟩
  else
    .infinite negative

/-- The number nearest to an integer. -/
def ofInt (n : Int) : Number :=
  ofQuotient (n < 0) (n.natAbs * quantaPerOne) 1

/-- The number nearest to a natural number. -/
def ofNat (n : Nat) : Number :=
  ofInt n

end Number

end ValueAssertions
