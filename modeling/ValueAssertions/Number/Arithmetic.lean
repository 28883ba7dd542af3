import ValueAssertions.Number.Rounding

/-!
# Arithmetic on numbers

Each operation is the exact one on counts of quanta, rounded once to the nearest
number.  Operations on infinities and on zero divisors follow IEEE 754.

`isExactQuotient` is the division test of the library: the quotient is whole up
to a relative tolerance of one in a thousand million, so that decimals such as
`42.42 / 7.07` count as divided exactly.
-/

namespace ValueAssertions.Number

/-- The quotient of two numbers. -/
def divide : Number → Number → Number
  | .nan, _ => .nan
  | _, .nan => .nan
  | .infinite _, .infinite _ => .nan
  | .infinite s, .finite t _ => .infinite (s != t)
  | .finite s _, .infinite t => zero (s != t)
  | .finite s a, .finite t b =>
    if b.quanta = 0 then
      if a.quanta = 0 then .nan else .infinite (s != t)
    else
      ofQuotient (s != t) (a.quanta * quantaPerOne) b.quanta

/-- The product of two numbers. -/
def multiply : Number → Number → Number
  | .nan, _ => .nan
  | _, .nan => .nan
  | .infinite s, .infinite t => .infinite (s != t)
  | .infinite s, .finite t b => if b.quanta = 0 then .nan else .infinite (s != t)
  | .finite s a, .infinite t => if a.quanta = 0 then .nan else .infinite (s != t)
  | .finite s a, .finite t b => ofQuotient (s != t) (a.quanta * b.quanta) quantaPerOne

/-- The difference of two numbers; a difference of nothing is a positive zero
unless a positive zero is taken from a negative one. -/
def subtract : Number → Number → Number
  | .nan, _ => .nan
  | _, .nan => .nan
  | .infinite s, .infinite t => if s = t then .nan else .infinite s
  | .infinite s, .finite _ _ => .infinite s
  | .finite _ _, .infinite t => .infinite (!t)
  | .finite s a, .finite t b =>
    let difference := signed s a.quanta - signed t b.quanta
    if difference = 0 then zero (s && !t)
    else ofQuotient (difference < 0) difference.natAbs 1

/-- The number without its sign. -/
def abs : Number → Number
  | .nan => .nan
  | .infinite _ => .infinite false
  | .finite _ m => .finite false m

/-- The nearest integral number; a half goes away from zero. -/
def roundHalfAway : Number → Number
  | .nan => .nan
  | .infinite s => .infinite s
  | .finite s m => ofQuotient s (nearestAway m.quanta quantaPerOne * quantaPerOne) 1

/-- The greater of two numbers; not-a-number gives way to the other one. -/
def max (a b : Number) : Number :=
  match a.compare? b with
  | some .lt => b
  | some _ => a
  | none => if a.place.isNone then b else a

/-- Whether the first number is at most the second. -/
def atMost (a b : Number) : Bool :=
  match a.compare? b with
  | some .gt => false
  | some _ => true
  | none => false

/-- The number one. -/
def one : Number :=
  ofNat 1

/-- The relative tolerance of the division test, one in a thousand million. -/
def divisionTolerance : Number :=
  ofQuotient false quantaPerOne 1000000000

/-- Whether `divisor` goes into `dividend` a whole number of times, up to the
tolerance that decimals need.  Nothing is divided by zero, and numbers that are
not finite take no part. -/
def isExactQuotient (dividend divisor : Number) : Bool :=
  if divisor.isZero || !divisor.isFinite || !dividend.isFinite then false
  else
    let quotient := dividend.divide divisor
    (quotient.subtract quotient.roundHalfAway).abs.atMost
      (divisionTolerance.multiply (quotient.abs.max one))

end ValueAssertions.Number
