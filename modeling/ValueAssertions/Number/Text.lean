import ValueAssertions.Number.Shortest

/-!
# Written numbers

A number is written in one of two styles.  Diagnostics write it without an
exponent, whole numbers below `10 ^ 21` with all their digits.  Documents write
the shortest decimal, with an exponent when the number is large or small, and
mark a whole number by `.0`.
-/

namespace ValueAssertions

/-- How a shortest decimal is laid out. -/
structure NumberStyle where
  /-- Which of two equally near decimals is taken. -/
  ties : TieRule
  /-- Whether the power of ten of the first digit asks for a positional form. -/
  positional : Int → Bool
  /-- What follows a positional form without a fraction. -/
  wholeMark : List Char

namespace NumberStyle

/-- The style of diagnostics: always positional. -/
def diagnostic : NumberStyle where
  ties := .away
  positional := fun _ => true
  wholeMark := []

/-- The style of documents: positional from the fifth place after the point to
the sixteenth before it. -/
def document : NumberStyle where
  ties := .even
  positional := fun power => -5 ≤ power && power ≤ 15
  wholeMark := ['.', '0']

/-- Digits with the point where the power of ten puts it. -/
def positionalText (wholeMark digits : List Char) (exponent : Int) : List Char :=
  match exponent with
  | .ofNat zeros => digits ++ List.replicate zeros '0' ++ wholeMark
  | .negSucc places =>
    let places := places + 1
    if places < digits.length then
      digits.take (digits.length - places) ++ '.' :: digits.drop (digits.length - places)
    else
      '0' :: '.' :: List.replicate (places - digits.length) '0' ++ digits

/-- One digit, the others after a point, and the power of ten with its sign. -/
def exponentText (digits : List Char) (power : Int) : List Char :=
  let fraction := digits.drop 1
  digits.take 1 ++ (if fraction.isEmpty then [] else '.' :: fraction) ++
    'e' :: (if power < 0 then '-' else '+') :: Nat.toDigits 10 power.natAbs

/-- A magnitude in the style. -/
def magnitudeText (style : NumberStyle) (m : Magnitude) : List Char :=
  let (value, exponent) := m.shortest style.ties
  let digits := Nat.toDigits 10 value
  let power := exponent + digits.length - 1
  if style.positional power then positionalText style.wholeMark digits exponent
  else exponentText digits power

end NumberStyle

/-- The text of a magnitude behind its sign. -/
def signedText (negative : Bool) (text : List Char) : List Char :=
  if negative then '-' :: text else text

namespace Number

/-- Whole numbers below this one are written in diagnostics with all their
digits. -/
def exactTextLimit : Nat := 1000000000000000000000

/-- The text of a number in diagnostics. -/
def text : Number → List Char
  | .nan => "NaN".toList
  | .infinite negative => signedText negative "Infinity".toList
  | .finite negative m =>
    if m.quanta = 0 then ['0']
    else if m.quanta % quantaPerOne = 0 ∧ m.quanta < exactTextLimit * quantaPerOne then
      signedText negative (Nat.toDigits 10 (m.quanta / quantaPerOne))
    else signedText negative (NumberStyle.diagnostic.magnitudeText m)

/-- The text of a finite number in documents; there is none for the others. -/
def documentText? : Number → Option (List Char)
  | .finite negative m =>
    some (signedText negative
      (if m.quanta = 0 then "0.0".toList else NumberStyle.document.magnitudeText m))
  | _ => none

end Number

end ValueAssertions
