/-!
# Numbers

A number is one of the IEEE 754 binary64 numbers, held exactly.  Every finite
number of that format is a whole count of one quantum, `2 ^ -1074`, so a finite
number is a sign and a count of quanta.  A count belongs to the format when it
has at most 53 significant bits and stays below `2 ^ 2098`; `Magnitude` carries
that condition.

The order of two numbers is the order of their places on the integer line
(`Number.place`), where both zeros share one place and not-a-number has none.
-/

namespace ValueAssertions

/-- The power of two with an exponent. -/
def powerOfTwo (e : Nat) : Nat :=
  Nat.pow 2 e

theorem powerOfTwo_pos (e : Nat) : 0 < powerOfTwo e :=
  Nat.two_pow_pos e

theorem powerOfTwo_add (d e : Nat) : powerOfTwo (d + e) = powerOfTwo d * powerOfTwo e :=
  Nat.pow_add 2 d e

theorem powerOfTwo_dvd {d e : Nat} (h : d ≤ e) : powerOfTwo d ∣ powerOfTwo e :=
  Nat.pow_dvd_pow 2 h

/-- The distance between neighbouring counts of the format around `quanta`:
counts of at most 53 bits are all there, and each further bit doubles it. -/
def spacing (quanta : Nat) : Nat :=
  powerOfTwo (quanta.log2 - 52)

/-- Finite counts of quanta have at most this many bits. -/
def quantaBits : Nat :=
  2098

/-- The counts of quanta below this one are finite. -/
def quantaLimit : Nat :=
  powerOfTwo quantaBits

theorem quantaLimit_pos : 0 < quantaLimit :=
  powerOfTwo_pos quantaBits

/-- The number one, in quanta. -/
def quantaPerOne : Nat :=
  powerOfTwo 1074

/-- A count of quanta is representable when it is below the limit and has at
most 53 significant bits. -/
def Representable (quanta : Nat) : Prop :=
  quanta < quantaLimit ∧ spacing quanta ∣ quanta

instance (quanta : Nat) : Decidable (Representable quanta) :=
  inferInstanceAs (Decidable (_ ∧ _))

/-- The absolute value of a finite number. -/
structure Magnitude where
  /-- How many quanta it holds. -/
  quanta : Nat
  /-- The count belongs to the format. -/
  representable : Representable quanta
deriving DecidableEq

/-- A binary64 number. -/
inductive Number where
  /-- Not a number: unequal to everything, itself included. -/
  | nan
  /-- One of the two infinities. -/
  | infinite (negative : Bool)
  /-- A finite number; zero has both signs. -/
  | finite (negative : Bool) (magnitude : Magnitude)
deriving DecidableEq

namespace Number

theorem representable_zero : Representable 0 :=
  ⟨quantaLimit_pos, Nat.dvd_zero _⟩

/-- Zero with the given sign. -/
def zero (negative : Bool) : Number :=
  .finite negative ⟨0, representable_zero⟩

/-- Whether this is not-a-number. -/
def isNan : Number → Bool
  | .nan => true
  | _ => false

/-- Whether the number is neither infinite nor not-a-number. -/
def isFinite : Number → Bool
  | .finite _ _ => true
  | _ => false

/-- Whether the number is finite and has no fractional part. -/
def isIntegral : Number → Bool
  | .finite _ m => m.quanta % quantaPerOne == 0
  | _ => false

/-- A count of quanta with a sign, as an integer; the sign of zero is lost. -/
def signed (negative : Bool) (quanta : Nat) : Int :=
  if negative then -(quanta : Int) else quanta

/-- Where a number stands on the integer line of quanta.  The infinities stand
at the first counts that are out of range; not-a-number stands nowhere. -/
def place : Number → Option Int
  | .nan => none
  | .infinite negative => some (signed negative quantaLimit)
  | .finite negative m => some (signed negative m.quanta)

/-- The order of two numbers; there is none when one of them is not a number. -/
def compare? (a b : Number) : Option Ordering :=
  match a.place, b.place with
  | some x, some y => some (compare x y)
  | _, _ => none

/-- Equality of numbers: zeros of both signs are equal and not-a-number is
unequal to itself. -/
instance : BEq Number where
  beq a b := a.compare? b == some .eq

/-- Whether the number is equal to zero. -/
def isZero : Number → Bool
  | .finite _ m => m.quanta == 0
  | _ => false

/-- The integer that an integral number is. -/
def toInt? : Number → Option Int
  | .finite negative m =>
    if m.quanta % quantaPerOne = 0 then some (signed negative (m.quanta / quantaPerOne)) else none
  | _ => none

end Number

end ValueAssertions
