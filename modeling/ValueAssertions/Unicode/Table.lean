import ValueAssertions.Unicode.CharacterSet

/-!
# Tables of characters

A table row names a set of characters and lists it as numbers in turn: how many
code points are left out, how many follow that belong to the set, how many are
left out after those, and so on.
-/

namespace ValueAssertions.Unicode

/-- A set of characters with its names, written without case, blanks, hyphens
and underscores. -/
structure NamedSet where
  /-- The names of the set. -/
  names : List String
  /-- The numbers of code points left out and included in turn. -/
  runs : List String

/-- The numbers of a row, given the digits of an unfinished one. -/
def numbers (digits : List Char) : List Char → List Nat
  | [] => if digits.isEmpty then [] else [value digits.reverse]
  | c :: rest =>
    if c = ' ' then
      if digits.isEmpty then numbers [] rest else value digits.reverse :: numbers [] rest
    else numbers (c :: digits) rest
where
  /-- The number that digits write. -/
  value (digits : List Char) : Nat :=
    digits.foldl (fun n c => 10 * n + (c.toNat - '0'.toNat)) 0

/-- The ranges that numbers of code points left out and included give, from a
code point on. -/
def rangesFrom (start : Nat) : List Nat → List (Nat × Nat)
  | skipped :: included :: rest =>
    (start + skipped, start + skipped + included - 1) ::
      rangesFrom (start + skipped + included) rest
  | _ => []

/-- The characters of a row. -/
def NamedSet.characters (set : NamedSet) : CharacterSet :=
  ⟨rangesFrom 0 (set.runs.flatMap fun line => numbers [] line.toList)⟩

/-- The set of a name in a table. -/
def find? (table : List NamedSet) (name : String) : Option CharacterSet :=
  (table.find? fun set => set.names.contains name).map NamedSet.characters

end ValueAssertions.Unicode
