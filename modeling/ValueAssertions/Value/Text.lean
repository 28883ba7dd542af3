import ValueAssertions.Value.Basic
import ValueAssertions.Number.Text
import ValueAssertions.Text.Quoted
import ValueAssertions.Text.Search

/-!
# Written values

The quoted form of a value is what diagnostics show: strings between quotes,
arrays and objects in a compact bracket form.  The plain form differs from it in
two places only, at a string, which stands for itself, and at an absent value.
Inside arrays and objects what has no JSON form is written `null`.
-/

namespace ValueAssertions.Value

mutual

/-- The characters of a value inside an array or an object. -/
def compact : Value → List Char
  | .undefined => "null".toList
  | .null => "null".toList
  | .bool true => "true".toList
  | .bool false => "false".toList
  | .number n => n.text
  | .string s => Quoted.encode s.toList
  | .array items => '[' :: (joinWith [','] (compactItems items) ++ [']'])
  | .object fields => '{' :: (joinWith [','] (compactFields fields) ++ ['}'])
  | .function _ => "null".toList

/-- The characters of every element of an array. -/
def compactItems : List Value → List (List Char)
  | [] => []
  | item :: rest => item.compact :: compactItems rest

/-- The characters of every field of an object, name and value with a colon
between them. -/
def compactFields : List (String × Value) → List (List Char)
  | [] => []
  | (name, value) :: rest =>
    (Quoted.encode name.toList ++ ':' :: value.compact) :: compactFields rest

end

/-- The form of a value in diagnostics. -/
def quoted : Value → String
  | .undefined => "<undefined>"
  | .function name => "[Function: " ++ name ++ "]"
  | value => String.ofList value.compact

/-- The bare form of a value. -/
def plain : Value → String
  | .undefined => "undefined"
  | .string s => s
  | value => value.quoted

end ValueAssertions.Value
