/-!
# Sets of characters

A set of characters is a list of ranges of code points, in order and without
overlaps (`CharacterSet.ofRanges` puts any ranges in that form).  The sets are
closed under union, complement, intersection and difference.
-/

namespace ValueAssertions

/-- A set of code points, as ranges that include both of their ends. -/
structure CharacterSet where
  /-- The ranges. -/
  ranges : List (Nat × Nat)
deriving DecidableEq

namespace CharacterSet

/-- The greatest code point. -/
def lastCodePoint : Nat := 0x10ffff

/-- Joins ranges that touch, given ranges in the order of their beginnings; the
range that is being extended comes first. -/
def joinTouching (current : Nat × Nat) : List (Nat × Nat) → List (Nat × Nat)
  | [] => [current]
  | next :: rest =>
    if next.1 ≤ current.2 + 1 then joinTouching (current.1, Nat.max current.2 next.2) rest
    else current :: joinTouching next rest

/-- The set of the code points of any ranges. -/
def ofRanges (ranges : List (Nat × Nat)) : CharacterSet :=
  match ranges.mergeSort (fun a b => a.1 ≤ b.1) with
  | [] => ⟨[]⟩
  | first :: rest => ⟨joinTouching first rest⟩

/-- The set without characters. -/
def empty : CharacterSet := ⟨[]⟩

/-- The set of one character. -/
def singleton (c : Char) : CharacterSet := ⟨[(c.toNat, c.toNat)]⟩

/-- The set of the characters from one to another. -/
def interval (first last : Char) : CharacterSet := ⟨[(first.toNat, last.toNat)]⟩

/-- Whether a code point is in the set. -/
def hasCodePoint (set : CharacterSet) (code : Nat) : Bool :=
  set.ranges.any fun range => range.1 ≤ code && code ≤ range.2

/-- Whether a character is in the set. -/
def contains (set : CharacterSet) (c : Char) : Bool :=
  set.hasCodePoint c.toNat

/-- The characters of either set. -/
def union (a b : CharacterSet) : CharacterSet :=
  ofRanges (a.ranges ++ b.ranges)

/-- The ranges between ranges, from a code point on. -/
def gaps (start : Nat) : List (Nat × Nat) → List (Nat × Nat)
  | [] => if start ≤ lastCodePoint then [(start, lastCodePoint)] else []
  | range :: rest =>
    if start < range.1 then (start, range.1 - 1) :: gaps (range.2 + 1) rest
    else gaps (range.2 + 1) rest

/-- The characters that are not in the set. -/
def complement (set : CharacterSet) : CharacterSet :=
  ⟨gaps 0 set.ranges⟩

/-- The characters of both sets. -/
def intersection (a b : CharacterSet) : CharacterSet :=
  (a.complement.union b.complement).complement

/-- The characters of the first set that are not in the second. -/
def difference (a b : CharacterSet) : CharacterSet :=
  a.intersection b.complement

/-- The characters that are in one of the sets and not in the other. -/
def symmetricDifference (a b : CharacterSet) : CharacterSet :=
  (a.difference b).union (b.difference a)

/-- Whether all characters of the set are ASCII. -/
def isAscii (set : CharacterSet) : Bool :=
  set.ranges.all fun range => range.2 < 128

end CharacterSet

end ValueAssertions
