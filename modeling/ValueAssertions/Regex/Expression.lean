import ValueAssertions.Unicode.Query

/-!
# Regular expressions

A regular expression is built from sets of characters and from assertions about
a place in the text, by sequence, choice and repetition.  How often something is
repeated lies between two counts, of which the second may be missing.
-/

namespace ValueAssertions.Regex

/-- A condition on a place between two characters of a text. -/
inductive Assertion where
  /-- The start of the text. -/
  | textStart
  /-- The end of the text. -/
  | textEnd
  /-- The start of a line; with `returns`, a carriage return ends a line too. -/
  | lineStart (returns : Bool)
  /-- The end of a line; with `returns`, a carriage return ends a line too. -/
  | lineEnd (returns : Bool)
  /-- A word character on one side only. -/
  | wordBoundary (unicode : Bool)
  /-- Word characters on both sides or on neither. -/
  | noWordBoundary (unicode : Bool)
  /-- A word character after the place and none before it. -/
  | wordStart (unicode : Bool)
  /-- A word character before the place and none after it. -/
  | wordEnd (unicode : Bool)
  /-- No word character before the place. -/
  | wordStartHalf (unicode : Bool)
  /-- No word character after the place. -/
  | wordEndHalf (unicode : Bool)
deriving DecidableEq

/-- A regular expression. -/
inductive Expression where
  /-- Nothing, which is found everywhere. -/
  | empty
  /-- One character of a set. -/
  | characters (set : CharacterSet)
  /-- A place in the text. -/
  | place (assertion : Assertion)
  /-- One after the other. -/
  | sequence (first second : Expression)
  /-- One or the other. -/
  | choice (first second : Expression)
  /-- At least `least` times and, if there is a bound, at most `most` times. -/
  | repeated (body : Expression) (least : Nat) (most : Option Nat)
deriving DecidableEq

namespace Expression

/-- How many bytes an automaton for one character of a set takes, roughly: a
state, and more for every range of characters beyond ASCII. -/
def setSize (set : CharacterSet) : Nat :=
  if set.isAscii then 32 + 8 * set.ranges.length else 32 + 64 * set.ranges.length

/-- How many bytes an automaton for the expression takes, roughly. -/
def automatonSize : Expression → Nat
  | .empty => 32
  | .characters set => setSize set
  | .place _ => 32
  | .sequence first second => first.automatonSize + second.automatonSize
  | .choice first second => first.automatonSize + second.automatonSize + 32
  | .repeated body least most =>
    match most with
    | none => (Nat.max least 1) * body.automatonSize + 32
    | some most => least * body.automatonSize + (most - least) * (body.automatonSize + 32)

end Expression

end ValueAssertions.Regex
