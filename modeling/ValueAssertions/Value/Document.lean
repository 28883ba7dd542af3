import ValueAssertions.Value.Basic
import ValueAssertions.Document.Basic

/-!
# Values and documents

Every document is read as a value (`Value.ofDocument`), with the members of an
object in the order of their names.  Every value is written as a document
(`Value.toDocument`): what JSON does not have becomes null, and a whole number of
at most `2 ^ 63` becomes a whole numeral.
-/

namespace ValueAssertions.Value

mutual

/-- The value of a document. -/
def ofDocument : Document → Value
  | .null => .null
  | .bool b => .bool b
  | .number n => .number n.toNumber
  | .string s => .string s
  | .array items => .array (ofItems items)
  | .object members => .object (sortFields (ofMembers members))

/-- The values of the items of an array. -/
def ofItems : List Document → List Value
  | [] => []
  | item :: rest => ofDocument item :: ofItems rest

/-- The values of the members of an object. -/
def ofMembers : List (String × Document) → List (String × Value)
  | [] => []
  | (key, item) :: rest => (key, ofDocument item) :: ofMembers rest

end

theorem ofItems_eq_map (items : List Document) : ofItems items = items.map ofDocument := by
  induction items with
  | nil => rfl
  | cons item items ih => rw [ofItems, ih, List.map_cons]

theorem ofMembers_eq_map (members : List (String × Document)) :
    ofMembers members = members.map fun member => (member.1, ofDocument member.2) := by
  induction members with
  | nil => rfl
  | cons member members ih => rw [ofMembers, ih, List.map_cons]

/-- Whole numbers up to this one, in either direction, are written as whole
numerals. -/
def wholeLimit : Nat := 9223372036854775808

/-- The document of a number.  The limit itself is one too large for 64 bits
with a sign and is written as the number below it. -/
def numberDocument (n : Number) : Document :=
  match n.toInt? with
  | some i =>
    if i.natAbs ≤ wholeLimit then .number (.whole (min i (wholeLimit - 1)))
    else .number (.real n)
  | none => if n.isFinite then .number (.real n) else .null

mutual

/-- The document of a value. -/
def toDocument : Value → Document
  | .undefined => .null
  | .null => .null
  | .bool b => .bool b
  | .number n => numberDocument n
  | .string s => .string s
  | .array items => .array (toItems items)
  | .object fields => .object (toMembers fields)
  | .function _ => .null

/-- The documents of the elements of an array. -/
def toItems : List Value → List Document
  | [] => []
  | item :: rest => item.toDocument :: toItems rest

/-- The documents of the fields of an object. -/
def toMembers : List (String × Value) → List (String × Document)
  | [] => []
  | (name, value) :: rest => (name, value.toDocument) :: toMembers rest

end

theorem toItems_eq_map (items : List Value) : toItems items = items.map toDocument := by
  induction items with
  | nil => rfl
  | cons item items ih => rw [toItems, ih, List.map_cons]

theorem toMembers_eq_map (fields : List (String × Value)) :
    toMembers fields = fields.map fun field => (field.1, field.2.toDocument) := by
  induction fields with
  | nil => rfl
  | cons field fields ih => rw [toMembers, ih, List.map_cons]

end ValueAssertions.Value
