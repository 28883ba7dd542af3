import ValueAssertions.Number.Arithmetic
import ValueAssertions.Number.Text

/-!
# Equal numbers

Equal numbers stand at one place of the integer line.  Two different numbers do so
only when they are the zeros of both signs, and not-a-number, which stands nowhere, is
not even equal to itself.  So equality is symmetric and transitive but not reflexive,
and whatever does not tell the two zeros apart takes the same value at equal numbers.
That is what is shown here of the order, of the test for whole numbers, of the written
form, and of the division test.

The division test is the only one of these that computes with its numbers.  A zero
divisor is turned away whatever its sign is.  From a zero dividend the sign goes into
the quotient, and is lost again in the absolute values that are compared.
-/

namespace ValueAssertions.Number

variable {a b c a' b' : Number}

/-! ## Equality -/

theorem beq_iff_place : (a == b) = true ↔ ∃ place, a.place = some place ∧ b.place = some place := by
  change (a.compare? b == some .eq) = true ↔ _
  unfold compare?
  cases a.place with
  | none => simp
  | some x =>
      cases b.place with
      | none => simp
      | some y =>
          simp only [beq_iff_eq, Option.some.injEq, Int.compare_eq_eq, exists_eq_left']
          exact eq_comm

theorem beq_symm (h : (a == b) = true) : (b == a) = true := by
  rw [beq_iff_place] at h ⊢
  obtain ⟨place, ha, hb⟩ := h
  exact ⟨place, hb, ha⟩

theorem beq_trans (hab : (a == b) = true) (hbc : (b == c) = true) : (a == c) = true := by
  rw [beq_iff_place] at hab hbc ⊢
  obtain ⟨place, ha, hb⟩ := hab
  obtain ⟨place', hb', hc⟩ := hbc
  obtain rfl : place = place' := Option.some.inj (hb.symm.trans hb')
  exact ⟨place, ha, hc⟩

/-- Counts with signs are equal when the counts are, and the signs too unless nothing is
counted. -/
theorem signed_inj {s t : Bool} {m n : Nat} (h : signed s m = signed t n) :
    m = n ∧ (s = t ∨ m = 0) := by
  cases s <;> cases t <;> simp only [signed] at h <;> simp at h ⊢ <;> omega

theorem finite_eq_zero {s : Bool} {m : Magnitude} (h : m.quanta = 0) : finite s m = zero s := by
  obtain ⟨quanta, hrepresentable⟩ := m
  cases h
  rfl

/-- Equal numbers are the same number, or zeros. -/
theorem eq_or_zero_of_beq (h : (a == b) = true) :
    a = b ∨ ∃ s t, a = zero s ∧ b = zero t := by
  obtain ⟨place, ha, hb⟩ := beq_iff_place.mp h
  cases a with
  | nan => cases ha
  | infinite s =>
      cases b with
      | nan => cases hb
      | infinite t =>
          obtain ⟨-, hsign⟩ := signed_inj (Option.some.inj (ha.trans hb.symm))
          exact .inl (congrArg infinite (hsign.resolve_right (Nat.ne_of_gt quantaLimit_pos)))
      | finite t n =>
          obtain ⟨hcount, -⟩ := signed_inj (Option.some.inj (ha.trans hb.symm))
          exact absurd n.representable.1 (by simp [hcount])
  | finite s m =>
      cases b with
      | nan => cases hb
      | infinite t =>
          obtain ⟨hcount, -⟩ := signed_inj (Option.some.inj (ha.trans hb.symm))
          exact absurd m.representable.1 (by simp [hcount])
      | finite t n =>
          obtain ⟨hcount, hsign⟩ := signed_inj (Option.some.inj (ha.trans hb.symm))
          rcases hsign with rfl | hzero
          · obtain ⟨quanta, hm⟩ := m
            obtain ⟨quanta', hn⟩ := n
            cases hcount
            exact .inl rfl
          · exact .inr ⟨s, t, finite_eq_zero hzero, finite_eq_zero (hcount ▸ hzero)⟩

/-- Every number is equal to itself except the one that is none. -/
theorem beq_self_of_ne_nan (h : a ≠ nan) : (a == a) = true := by
  rw [beq_iff_place]
  cases a with
  | nan => exact absurd rfl h
  | infinite s => exact ⟨_, rfl, rfl⟩
  | finite s m => exact ⟨_, rfl, rfl⟩

theorem ofNat_beq_self (n : Nat) : (ofNat n == ofNat n) = true := by
  apply beq_self_of_ne_nan
  rw [ofNat, ofInt, ofQuotient]
  split <;> nofun

/-! ## What equal numbers share -/

theorem compare?_congr (ha : (a == a') = true) (hb : (b == b') = true) :
    a.compare? b = a'.compare? b' := by
  obtain ⟨x, hx, hx'⟩ := beq_iff_place.mp ha
  obtain ⟨y, hy, hy'⟩ := beq_iff_place.mp hb
  rw [compare?, compare?, hx, hx', hy, hy']

theorem isIntegral_eq_of_beq (h : (a == b) = true) : a.isIntegral = b.isIntegral := by
  rcases eq_or_zero_of_beq h with rfl | ⟨s, t, rfl, rfl⟩ <;> rfl

theorem text_zero (s : Bool) : (zero s).text = ['0'] := by
  simp [text, zero]

theorem text_eq_of_beq (h : (a == b) = true) : a.text = b.text := by
  rcases eq_or_zero_of_beq h with rfl | ⟨s, t, rfl, rfl⟩
  · rfl
  · rw [text_zero, text_zero]

/-! ## The division test -/

/-- Nothing divided by anything rounds to nothing. -/
theorem roundQuotient_zero (den : Nat) : roundQuotient 0 den = 0 := by
  simp [roundQuotient, nearestEven, spacing]

theorem ofQuotient_zero (s : Bool) (den : Nat) : ofQuotient s 0 den = zero s := by
  have hround : roundQuotient 0 den = 0 := roundQuotient_zero den
  have hrange : roundQuotient 0 den < quantaLimit := by
    rw [hround]
    exact quantaLimit_pos
  rw [ofQuotient, dif_pos hrange]
  exact finite_eq_zero hround

theorem divide_zero_finite {m : Magnitude} (hm : m.quanta ≠ 0) (s t : Bool) :
    (zero s).divide (finite t m) = zero (s != t) := by
  rw [zero, divide, if_neg hm, Nat.zero_mul, ofQuotient_zero]

theorem roundHalfAway_zero (s : Bool) : (zero s).roundHalfAway = zero s := by
  have hnearest : nearestAway 0 quantaPerOne = 0 := by
    have hpos : 0 < quantaPerOne := powerOfTwo_pos 1074
    rw [nearestAway, Nat.mul_zero, Nat.zero_add]
    exact Nat.div_eq_of_lt (by omega)
  have hround : (zero s).roundHalfAway =
      ofQuotient s (nearestAway 0 quantaPerOne * quantaPerOne) 1 := by
    simp only [zero, roundHalfAway]
  rw [hround, hnearest, Nat.zero_mul, ofQuotient_zero]

theorem subtract_zero_zero (s : Bool) : (zero s).subtract (zero s) = zero false := by
  simp [subtract, zero, signed]

/-- What goes into a zero does not depend on the sign of the zero. -/
theorem isExactQuotient_zero (s : Bool) (b : Number) :
    isExactQuotient (zero s) b = isExactQuotient (zero false) b := by
  unfold isExactQuotient
  cases b with
  | nan => simp [isFinite]
  | infinite t => simp [isFinite]
  | finite t m =>
      by_cases hm : m.quanta = 0
      · simp [isZero, hm]
      · -- Both quotients are zeros, and only absolute values are looked at.
        have hzero : (finite t m).isZero = false := by simpa [isZero] using hm
        have habs : ∀ u, (zero u).abs = zero false := fun u => by simp only [zero, abs]
        have hfinite : ∀ u, (zero u).isFinite = true := fun u => by simp only [zero, isFinite]
        simp only [hzero, hfinite, divide_zero_finite hm, roundHalfAway_zero, subtract_zero_zero,
          habs]

theorem isExactQuotient_congr (ha : (a == a') = true) (hb : (b == b') = true) :
    isExactQuotient a b = isExactQuotient a' b' := by
  have hdividend : ∀ b, isExactQuotient a b = isExactQuotient a' b := by
    intro b
    rcases eq_or_zero_of_beq ha with rfl | ⟨s, t, rfl, rfl⟩
    · rfl
    · rw [isExactQuotient_zero s, isExactQuotient_zero t]
  have hdivisor : isExactQuotient a' b = isExactQuotient a' b' := by
    rcases eq_or_zero_of_beq hb with rfl | ⟨s, t, rfl, rfl⟩
    · rfl
    · simp [isExactQuotient, isZero, zero]
  exact (hdividend b).trans hdivisor

end ValueAssertions.Number
