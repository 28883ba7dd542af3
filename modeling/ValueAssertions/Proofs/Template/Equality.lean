import ValueAssertions.Proofs.Value.Equality
import ValueAssertions.Template.Expression

/-!
# Loose and strict equality

Blocks compare a token with a literal in two ways.  Strictly equal are equal values.  Loosely
equal are values with one number, if one of them is a number, and values with one plain text
otherwise, so that `"1e1"` and `10` are, and `[1]` and `"[1]"` too.

The loose equality takes in the strict one: equal values are written alike, although the
zeros in them may have different signs (`Value.plain_eq_of_beq`), and equal numbers are
compared as numbers.  The absent value, although it is equal to itself, is loosely equal to
nothing.
-/

namespace ValueAssertions

theorem Number.beq_comm (m n : Number) : (m == n) = (n == m) := by
  rw [Bool.eq_iff_iff]
  exact ⟨Number.beq_symm, Number.beq_symm⟩

theorem Context.value_eq_undefined {context : Context} {name : String}
    (h : context.contains name = false) : context.value name = .undefined := by
  have hnone : context.get? name = none := by simpa [contains] using h
  rw [value, hnone, Option.getD_none]

namespace Template.Expression

variable {a b : Value}

theorem looseEq_of_beq (ha : a.isUndefined = false) (hab : (a == b) = true) :
    looseEq a b = true := by
  have hplain : (a.plain == b.plain) = true := beq_iff_eq.mpr (Value.plain_eq_of_beq hab)
  induction a, b, hab using Value.beq_induction with
  | undefined => cases ha
  | number m n h => exact h
  | _ => exact hplain

theorem looseEq_comm (a b : Value) : looseEq a b = looseEq b a := by
  rw [looseEq, looseEq, Bool.or_comm a.isUndefined, Bool.or_comm a.asNumber?.isSome,
    Number.beq_comm, BEq.comm (a := a.plain)]

/-- **Loose equality.**  Values that are there and strictly equal are loosely equal, so that
those that differ loosely differ strictly.  Loose equality is symmetric, `!=` is its
opposite, and a token that is not there differs from every literal. -/
theorem looseEq_extends_strictEq (a b : Value) :
    (a.isUndefined = false → b.isUndefined = false →
      (compares .strictEq a b = true → compares .eq a b = true) ∧
        (compares .ne a b = true → compares .strictNe a b = true)) ∧
      compares .eq a b = compares .eq b a ∧
      compares .ne a b = !compares .eq a b ∧
      ∀ (context : Context) (name : String),
        (Expression.mk .ne name (some b)).holds context =
            !(Expression.mk .eq name (some b)).holds context ∧
          (context.contains name = false →
            (Expression.mk .ne name (some b)).holds context = true) := by
  have hstrict (ha : a.isUndefined = false) :
      compares .strictEq a b = true → compares .eq a b = true := looseEq_of_beq ha
  refine ⟨fun ha _ => ⟨hstrict ha, fun hne => ?_⟩, looseEq_comm a b, rfl,
    fun context name => ⟨rfl, fun habsent => ?_⟩⟩
  · -- Both tests are opposites, so this is the first part from right to left.
    by_contra hsame
    have hloose : looseEq a b = true := hstrict ha (by simpa [compares] using hsame)
    have hdiffer : looseEq a b = false := by simpa [compares] using hne
    rw [hloose] at hdiffer
    cases hdiffer
  · rw [holds, Context.value_eq_undefined habsent]
    rfl

/-- A zero with a sign inside, beside a function and an absent value. -/
def zeroInside (negative : Bool) : Value :=
  .array [.object [("zero", .number (.zero negative))], .function "f", .undefined]

theorem zeroInside_loosely :
    (zeroInside true).isUndefined = false ∧ (zeroInside false).isUndefined = false ∧
      compares .strictEq (zeroInside true) (zeroInside false) = true ∧
      compares .eq (zeroInside true) (zeroInside false) = true :=
  ⟨rfl, rfl, rfl, ((looseEq_extends_strictEq _ _).1 rfl rfl).1 rfl⟩

/-- Loose equality does not pass from one pair to the next: two texts of one number are equal
to it, but not to each other. -/
example : looseEq (.string "1e1") (.number (.ofNat 10)) = true ∧
    looseEq (.number (.ofNat 10)) (.string "10") = true ∧
    looseEq (.string "1e1") (.string "10") = false := by
  decide +kernel

end Template.Expression

end ValueAssertions
