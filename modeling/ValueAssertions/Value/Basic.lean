import ValueAssertions.Number.Decimal
import ValueAssertions.Text.Blank

/-!
# Values

A value is what conditions are checked against and what tokens of a message
stand for: JSON data, and two things that JSON does not have, an absent value
and a function.  The fields of an object stand in the order of their names, each
name once (`Value.insertField` keeps that).

Values have a structural equality, in which numbers are compared as numbers, a
partial order on numbers and on strings, a truth value and a numeric reading.
-/

namespace ValueAssertions

/-- A value. -/
inductive Value where
  /-- An absent value. -/
  | undefined
  | null
  | bool (value : Bool)
  | number (value : Number)
  | string (text : String)
  | array (items : List Value)
  /-- Fields in the order of their names. -/
  | object (fields : List (String × Value))
  /-- A function, known by its name. -/
  | function (name : String)

instance : Inhabited Value := ⟨.undefined⟩

namespace Value

/-- The tag of the value's type. -/
def typeTag : Value → String
  | .undefined => "undefined"
  | .null => "null"
  | .bool _ => "boolean"
  | .number _ => "number"
  | .string _ => "string"
  | .array _ => "array"
  | .object _ => "object"
  | .function _ => "function"

/-- Whether the value is absent. -/
def isUndefined : Value → Bool
  | .undefined => true
  | _ => false

/-- The number that the value is. -/
def asNumber? : Value → Option Number
  | .number n => some n
  | _ => none

/-- The text that the value is. -/
def asString? : Value → Option String
  | .string s => some s
  | _ => none

/-- The truth value that the value is. -/
def asBool? : Value → Option Bool
  | .bool b => some b
  | _ => none

/-- The value of a field among fields. -/
def findField (name : String) : List (String × Value) → Value
  | [] => .undefined
  | (key, value) :: rest => if key = name then value else findField name rest

/-- The value of a field, which is absent when the object does not have it or
the value is no object. -/
def field (name : String) : Value → Value
  | .object fields => findField name fields
  | _ => .undefined

/-- Puts a field where the order of names wants it, in the place of a field of
the same name. -/
def insertField (name : String) (value : Value) :
    List (String × Value) → List (String × Value)
  | [] => [(name, value)]
  | (key, old) :: rest =>
    if name = key then (name, value) :: rest
    else if name < key then (name, value) :: (key, old) :: rest
    else (key, old) :: insertField name value rest

/-- The fields in the order of their names; of two with one name the later
counts. -/
def sortFields (fields : List (String × Value)) : List (String × Value) :=
  fields.foldl (fun sorted field => insertField field.1 field.2 sorted) []

/-- How many characters a string has, or how many elements an array. -/
def length? : Value → Option Nat
  | .string s => some s.length
  | .array items => some items.length
  | _ => none

/-- The length as a value, absent when there is none. -/
def lengthValue (v : Value) : Value :=
  match v.length? with
  | some n => .number (.ofNat n)
  | none => .undefined

/-- Whether the value is a whole number. -/
def isInteger : Value → Bool
  | .number n => n.isIntegral
  | _ => false

/-- Whether the value counts as true: absence, null, false, zero, not-a-number
and the empty string do not. -/
def isTruthy : Value → Bool
  | .undefined => false
  | .null => false
  | .bool b => b
  | .number n => !n.isZero && !n.isNan
  | .string s => !s.isEmpty
  | .array _ => true
  | .object _ => true
  | .function _ => true

mutual

/-- Structural equality, with numbers compared as numbers. -/
def same : Value → Value → Bool
  | .undefined, .undefined => true
  | .null, .null => true
  | .bool a, .bool b => a == b
  | .number a, .number b => a == b
  | .string a, .string b => a == b
  | .array a, .array b => sameItems a b
  | .object a, .object b => sameFields a b
  | .function a, .function b => a == b
  | _, _ => false

/-- Equality of arrays, element by element. -/
def sameItems : List Value → List Value → Bool
  | [], [] => true
  | a :: as, b :: bs => a.same b && sameItems as bs
  | _, _ => false

/-- Equality of objects, field by field. -/
def sameFields : List (String × Value) → List (String × Value) → Bool
  | [], [] => true
  | (m, a) :: as, (n, b) :: bs => m == n && a.same b && sameFields as bs
  | _, _ => false

end

instance : BEq Value := ⟨same⟩

/-- The natural order: of numbers by size, of strings by their characters.  No
other two values have an order. -/
def compare? : Value → Value → Option Ordering
  | .number a, .number b => a.compare? b
  | .string a, .string b => some (compare a b)
  | _, _ => none

/-- The number that a text writes, blanks around it apart: nothing at all is
zero, and what is no number is not-a-number. -/
def textToNumber (s : String) : Number :=
  match trim s.toList with
  | [] => .zero false
  | text => (Number.read? text).getD .nan

/-- The numeric reading of a value. -/
def toNumber : Value → Number
  | .number n => n
  | .bool true => .ofNat 1
  | .bool false => .zero false
  | .null => .zero false
  | .string s => textToNumber s
  | _ => .nan

end Value

end ValueAssertions
