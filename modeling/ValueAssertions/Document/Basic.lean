import ValueAssertions.Number.Text
import ValueAssertions.Text.Quoted
import ValueAssertions.Text.Search

/-!
# Documents

A document is a JSON tree whose objects keep their keys in the order in which
they were written.  A numeral remembers whether it was written as a whole number
of at most 64 bits or as a real number, because the two are printed differently.

`Document.print` writes a document without blanks.
-/

namespace ValueAssertions

/-- A number as a document holds it. -/
inductive Numeral where
  /-- A whole number. -/
  | whole (n : Int)
  /-- A number with a fraction or an exponent, or one too long to be whole. -/
  | real (x : Number)
deriving DecidableEq

namespace Numeral

/-- The number that a numeral stands for. -/
def toNumber : Numeral → Number
  | .whole n => .ofInt n
  | .real x => x

/-- The written form of an integer. -/
def integerText (n : Int) : List Char :=
  signedText (n < 0) (Nat.toDigits 10 n.natAbs)

/-- The written form of a numeral; a document has no form for numbers that are
not finite, and shows nothing in their place. -/
def text : Numeral → List Char
  | .whole n => integerText n
  | .real x => x.documentText?.getD "null".toList

end Numeral

/-- A JSON tree. -/
inductive Document where
  | null
  | bool (value : Bool)
  | number (numeral : Numeral)
  | string (text : String)
  | array (items : List Document)
  | object (members : List (String × Document))

/-- The value of the first pair with the key. -/
def lookup? {α : Type} (key : String) : List (String × α) → Option α
  | [] => none
  | (name, value) :: rest => if name = key then some value else lookup? key rest

/-- Gives the key a value: in its place when the list has it, at the end
otherwise. -/
def setKey {α : Type} (key : String) (value : α) : List (String × α) → List (String × α)
  | [] => [(key, value)]
  | (name, old) :: rest =>
    if name = key then (name, value) :: rest else (name, old) :: setKey key value rest

/-- The pairs with each key once, at its first place and with its last value. -/
def settleKeys {α : Type} (pairs : List (String × α)) : List (String × α) :=
  pairs.foldl (fun kept pair => setKey pair.1 pair.2 kept) []

namespace Document

mutual

/-- The document with each key of an object once, at its first place and with
its last value. -/
def settle : Document → Document
  | .array items => .array (settleItems items)
  | .object members => .object (settleKeys (settleMembers members))
  | .null => .null
  | .bool value => .bool value
  | .number numeral => .number numeral
  | .string text => .string text

/-- `settle` on every item of an array. -/
def settleItems : List Document → List Document
  | [] => []
  | item :: rest => item.settle :: settleItems rest

/-- `settle` on every value of an object. -/
def settleMembers : List (String × Document) → List (String × Document)
  | [] => []
  | (key, value) :: rest => (key, value.settle) :: settleMembers rest

end

mutual

/-- The characters of a document, written without blanks. -/
def characters : Document → List Char
  | .null => "null".toList
  | .bool true => "true".toList
  | .bool false => "false".toList
  | .number numeral => numeral.text
  | .string text => Quoted.encode text.toList
  | .array items => '[' :: (joinWith [','] (itemCharacters items) ++ [']'])
  | .object members => '{' :: (joinWith [','] (memberCharacters members) ++ ['}'])

/-- The characters of every item of an array. -/
def itemCharacters : List Document → List (List Char)
  | [] => []
  | item :: rest => item.characters :: itemCharacters rest

/-- The characters of every member of an object, key and value with a colon
between them. -/
def memberCharacters : List (String × Document) → List (List Char)
  | [] => []
  | (key, value) :: rest =>
    (Quoted.encode key.toList ++ ':' :: value.characters) :: memberCharacters rest

end

/-- The text of a document, written without blanks. -/
def print (document : Document) : String :=
  String.ofList document.characters

/-- The text of a document that is a string. -/
def asString? : Document → Option String
  | .string text => some text
  | _ => none

/-- The value of a key in an object. -/
def get? (key : String) : Document → Option Document
  | .object members => lookup? key members
  | _ => none

end Document

end ValueAssertions
