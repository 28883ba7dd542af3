/-!
# Quoted text

The quoted form of a text puts it between double quotes.  A quote, a backslash
and the control characters below the blank are escaped, and nothing else is:
`escaped c = [c]` for every other character.
-/

namespace ValueAssertions.Quoted

/-- The escape of a control character that has no letter of its own: four
hexadecimal digits in lower case, of which the first two are zero. -/
def controlEscape (c : Char) : List Char :=
  let digit (n : Nat) : Char := Nat.digitChar n
  ['\\', 'u', '0', '0', digit (c.toNat / 16), digit (c.toNat % 16)]

/-- What stands for one character inside quotes. -/
def escaped (c : Char) : List Char :=
  match c with
  | '"' => ['\\', '"']
  | '\\' => ['\\', '\\']
  | '\x08' => ['\\', 'b']
  | '\x0c' => ['\\', 'f']
  | '\n' => ['\\', 'n']
  | '\r' => ['\\', 'r']
  | '\t' => ['\\', 't']
  | c => if c < ' ' then controlEscape c else [c]

/-- The quoted form of a text. -/
def encode (s : List Char) : List Char :=
  '"' :: (s.flatMap escaped ++ ['"'])

end ValueAssertions.Quoted

namespace ValueAssertions

/-- The quoted form of a string. -/
def quote (s : String) : String :=
  String.ofList (Quoted.encode s.toList)

end ValueAssertions
