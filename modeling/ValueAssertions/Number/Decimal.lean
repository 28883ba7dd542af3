import ValueAssertions.Number.Rounding

/-!
# Decimals

A decimal is a sign, a natural number of digits and a power of ten.  It is what
a number is read from: `Decimal.toNumber` gives the nearest number, and
`Decimal.read?` reads the written form, digits with at most one point and an
optional exponent.  `Number.read?` also knows the names of the infinities and of
not-a-number.
-/

namespace ValueAssertions

/-- The value `± digits * 10 ^ exponent`. -/
structure Decimal where
  /-- Whether it carries a minus sign. -/
  negative : Bool
  /-- The digits, read as one natural number. -/
  digits : Nat
  /-- The power of ten that they count. -/
  exponent : Int
deriving DecidableEq

/-- The natural number that a row of decimal digits writes. -/
def digitsValue (digits : List Char) : Nat :=
  digits.foldl (fun value c => 10 * value + (c.toNat - '0'.toNat)) 0

namespace Decimal

/-- Powers of ten beyond this one, in either direction, are out of the range of
every number. -/
def exponentBound : Nat := 400

/-- The number nearest to a decimal.  An exponent that puts every digit beyond
the range is decided without computing the power. -/
def toNumber (d : Decimal) : Number :=
  if d.digits = 0 then .zero d.negative
  else match d.exponent with
    | .ofNat e =>
      if exponentBound < e then .infinite d.negative
      else .ofQuotient d.negative (d.digits * Nat.pow 10 e * quantaPerOne) 1
    | .negSucc e =>
      if exponentBound + d.digits.log2 < e then .zero d.negative
      else .ofQuotient d.negative (d.digits * quantaPerOne) (Nat.pow 10 (e + 1))

/-- A leading sign, which is positive when there is none. -/
def readSign : List Char → Bool × List Char
  | '-' :: rest => (true, rest)
  | '+' :: rest => (false, rest)
  | rest => (false, rest)

/-- A row of digits and what comes after it. -/
def readDigits (s : List Char) : List Char × List Char :=
  (s.takeWhile Char.isDigit, s.dropWhile Char.isDigit)

/-- The digits after a point, if a point comes next. -/
def readFraction : List Char → List Char × List Char
  | '.' :: rest => readDigits rest
  | rest => ([], rest)

/-- The exponent that ends a decimal: nothing, or a letter `e`, an optional sign
and at least one digit. -/
def readExponent? : List Char → Option Int
  | [] => some 0
  | c :: rest =>
    if c = 'e' ∨ c = 'E' then
      let (negative, rest) := readSign rest
      let (digits, rest) := readDigits rest
      if digits.isEmpty || !rest.isEmpty then none
      else some (Number.signed negative (digitsValue digits))
    else none

/-- Reads a whole text as a decimal: a sign, digits with at most one point among,
before or after them, and an exponent. -/
def read? (s : List Char) : Option Decimal :=
  let (negative, rest) := readSign s
  let (whole, rest) := readDigits rest
  let (fraction, rest) := readFraction rest
  if whole.isEmpty && fraction.isEmpty then none
  else (readExponent? rest).map fun exponent =>
    ⟨negative, digitsValue (whole ++ fraction), exponent - fraction.length⟩

end Decimal

namespace Number

/-- A name for a number that has no digits, in any mixture of cases. -/
def ofName? (negative : Bool) (name : List Char) : Option Number :=
  let name := name.map Char.toLower
  if name = "inf".toList ∨ name = "infinity".toList then some (.infinite negative)
  else if name = "nan".toList then some .nan
  else none

/-- Reads a whole text as a number: a signed name or a decimal. -/
def read? (s : List Char) : Option Number :=
  let (negative, rest) := Decimal.readSign s
  (ofName? negative rest).or ((Decimal.read? s).map Decimal.toNumber)

end Number

end ValueAssertions
