import ValueAssertions.Number.Decimal

/-!
# Shortest decimals

Every number is a whole count of `10 ^ -1074` (`exactDigits`), so its decimal
expansion and that of its neighbours are natural numbers.  The shortest decimal
of a number is the one with the fewest digits that lies between the midpoints to
its two neighbours; of two such decimals the nearer one is taken.
-/

namespace ValueAssertions

/-- Which of two equally near decimals is taken. -/
inductive TieRule where
  /-- The one with an even last digit. -/
  | even
  /-- The one that is farther from zero. -/
  | away
deriving DecidableEq

namespace Magnitude

/-- The power of ten, taken negatively, of which every magnitude is a whole
count. -/
def decimalPlaces : Nat := 1074

/-- The magnitude as a count of `10 ^ -1074`. -/
def exactDigits (m : Magnitude) : Nat :=
  m.quanta * Nat.pow 5 decimalPlaces

/-- The decimals that are nearest to a magnitude, as bounds on four times a
count of `10 ^ -1074`. -/
structure Interval where
  /-- Four times the midpoint to the neighbour below. -/
  lower : Nat
  /-- Four times the midpoint to the neighbour above. -/
  upper : Nat
  /-- Whether the midpoints themselves belong to the magnitude. -/
  closed : Bool

/-- The interval of a magnitude.  The neighbour below a power of two is half as
far away as the one above, and a midpoint belongs to the even neighbour. -/
def interval (m : Magnitude) : Interval :=
  let unit := spacing m.quanta
  let above := 2 * unit * Nat.pow 5 decimalPlaces
  let below := if 1 < unit ∧ m.quanta = powerOfTwo m.quanta.log2 then above / 2 else above
  { lower := 4 * m.exactDigits - below
    upper := 4 * m.exactDigits + above
    closed := m.quanta / unit % 2 = 0 }

/-- Whether a count of `10 ^ -1074` belongs to an interval. -/
def Interval.contains (i : Interval) (count : Nat) : Bool :=
  if i.closed then i.lower ≤ 4 * count ∧ 4 * count ≤ i.upper
  else i.lower < 4 * count ∧ 4 * count < i.upper

/-- The multiple of `step` that stands for `exact`, if one of its two
neighbouring multiples lies in the interval. -/
def nearestOnGrid? (ties : TieRule) (i : Interval) (exact step : Nat) : Option Nat :=
  let low := exact / step
  let high := low + 1
  match i.contains (low * step), i.contains (high * step) with
  | true, true =>
    let toLow := exact - low * step
    let toHigh := high * step - exact
    if toLow < toHigh then some low
    else if toHigh < toLow then some high
    else match ties with
      | .away => some high
      | .even => some (low + low % 2)
  | true, false => some low
  | false, true => some high
  | false, false => none

/-- Takes the zeros off the end of a natural number and counts them. -/
def stripZeros : Nat → Nat → Nat × Nat
  | 0, digits => (digits, 0)
  | fuel + 1, digits =>
    if digits ≠ 0 ∧ digits % 10 = 0 then
      let (rest, zeros) := stripZeros fuel (digits / 10)
      (rest, zeros + 1)
    else (digits, 0)

/-- The shortest decimal of a magnitude: grids of one digit, of two, and so on
are tried until one has a point in the interval.  Seventeen digits always do. -/
def shortest (ties : TieRule) (m : Magnitude) : Nat × Int :=
  let exact := m.exactDigits
  let size := (Nat.toDigits 10 exact).length
  let i := m.interval
  let found := (List.range' 1 17).findSome? fun count =>
    let zeros := size - count
    (nearestOnGrid? ties i exact (Nat.pow 10 zeros)).map fun digits => (digits, zeros)
  let (digits, zeros) := found.getD (exact, 0)
  let (digits, stripped) := stripZeros 20 digits
  (digits, (zeros + stripped : Nat) - (decimalPlaces : Int))

end Magnitude

end ValueAssertions
