import ValueAssertions.Regex.Expression

/-!
# Searching a text

A place in a text of `n` characters is a number from `0` to `n`.  From a list of
places, in order, `Expression.ends` computes the places where an expression can
end that begins at one of them, so a search asks whether there is any such place
when all places may begin.  Repetition follows the places that are new after each
round, and there are no more than `n + 1` places.
-/

namespace ValueAssertions.Regex

/-- The word characters of ASCII. -/
def asciiWords : CharacterSet :=
  ⟨[('0'.toNat, '9'.toNat), ('A'.toNat, 'Z'.toNat), ('_'.toNat, '_'.toNat), ('a'.toNat, 'z'.toNat)]⟩

/-- Whether there is a word character at an index of the text. -/
def isWordAt (unicode : Bool) (c : Option Char) : Bool :=
  match c with
  | none => false
  | some c => if unicode then Unicode.wordCharacters.contains c else asciiWords.contains c

/-- Whether an assertion holds between two characters, one of which is missing
at an end of the text. -/
def Assertion.holds (before after : Option Char) : Assertion → Bool
  | .textStart => before.isNone
  | .textEnd => after.isNone
  | .lineStart false => before.isNone || before == some '\n'
  | .lineStart true =>
    before.isNone || before == some '\n' || (before == some '\r' && after != some '\n')
  | .lineEnd false => after.isNone || after == some '\n'
  | .lineEnd true =>
    after.isNone || after == some '\r' || (after == some '\n' && before != some '\r')
  | .wordBoundary unicode => isWordAt unicode before != isWordAt unicode after
  | .noWordBoundary unicode => isWordAt unicode before == isWordAt unicode after
  | .wordStart unicode => !isWordAt unicode before && isWordAt unicode after
  | .wordEnd unicode => isWordAt unicode before && !isWordAt unicode after
  | .wordStartHalf unicode => !isWordAt unicode before
  | .wordEndHalf unicode => !isWordAt unicode after

/-- The places of two lists in order, each once. -/
def mergePlaces : List Nat → List Nat → List Nat
  | [], places => places
  | places, [] => places
  | a :: as, b :: bs =>
    if a < b then a :: mergePlaces as (b :: bs)
    else if b < a then b :: mergePlaces (a :: as) bs
    else a :: mergePlaces as bs
termination_by as bs => as.length + bs.length

/-- Applies a step as often as asked, unless no place is left. -/
def stepTimes (step : List Nat → List Nat) : Nat → List Nat → List Nat
  | 0, places => places
  | count + 1, places => if places.isEmpty then [] else stepTimes step count (step places)

/-- The places reached by at most so many steps, from those that have been
reached and those of them that are new. -/
def reach (step : List Nat → List Nat) : Nat → List Nat → List Nat → List Nat
  | 0, reached, _ => reached
  | count + 1, reached, new =>
    let found := (step new).filter fun place => !reached.contains place
    if found.isEmpty then reached
    else reach step count (mergePlaces reached found) found

/-- The places where an expression can end that begins at one of the given
places of a text. -/
def Expression.ends (text : Array Char) : Expression → List Nat → List Nat
  | .empty, places => places
  | .characters set, places =>
    places.filterMap fun place =>
      match text[place]? with
      | some c => if set.contains c then some (place + 1) else none
      | none => none
  | .place assertion, places =>
    places.filter fun place =>
      assertion.holds (if place = 0 then none else text[place - 1]?) text[place]?
  | .sequence first second, places => second.ends text (first.ends text places)
  | .choice first second, places => mergePlaces (first.ends text places) (second.ends text places)
  | .repeated body least most, places =>
    let start := stepTimes (body.ends text) least places
    match most with
    | some most => reach (body.ends text) (most - least) start start
    | none => reach (body.ends text) (text.size + 1) start start

/-- Whether the expression is found anywhere in a text. -/
def Expression.isFoundIn (expression : Expression) (text : String) : Bool :=
  let characters := text.toList.toArray
  !(expression.ends characters (List.range (characters.size + 1))).isEmpty

end ValueAssertions.Regex
