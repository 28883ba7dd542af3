import ValueAssertions.Document.Basic
import ValueAssertions.Text.Hexadecimal

/-!
# Tokens of a written document

A written document is read character by character into tokens.  What has been
read of an unfinished token is the state (`Partial`), and one character either
extends it, or ends it with a token, or is refused.  Reading is strict JSON:
blanks are the four ASCII ones, strings hold no raw control character and no
lone surrogate, and a number out of range is refused.
-/

namespace ValueAssertions

/-- The smallest meaningful parts of a written document. -/
inductive Token where
  | openArray
  | closeArray
  | openObject
  | closeObject
  | comma
  | colon
  | null
  | bool (value : Bool)
  | number (numeral : Numeral)
  | string (text : String)

namespace Token

/-- The part of a token that has been read, with its characters in reverse. -/
inductive Partial where
  /-- Nothing: between two tokens. -/
  | nothing
  /-- The letters of a literal name. -/
  | word (reversed : List Char)
  /-- The characters of a numeral. -/
  | numeral (reversed : List Char)
  /-- A string up to here. -/
  | quoted (reversed : List Char)
  /-- A string and a backslash. -/
  | escape (reversed : List Char)
  /-- A string, `\u`, and the value of the digits so far; `high` is the first
  half of a surrogate pair when the digits are those of the second. -/
  | unit (reversed : List Char) (high : Option Nat) (digits : Nat) (value : Nat)
  /-- A string and the first half of a surrogate pair. -/
  | afterHigh (reversed : List Char) (high : Nat)
  /-- A string, the first half of a surrogate pair, and a backslash. -/
  | escapeAfterHigh (reversed : List Char) (high : Nat)

/-- The blanks that may stand between tokens. -/
def isSeparator (c : Char) : Bool :=
  c == ' ' || c == '\t' || c == '\n' || c == '\r'

/-- The token of a literal name. -/
def ofWord? (word : List Char) : Option Token :=
  if word = "null".toList then some .null
  else if word = "true".toList then some (.bool true)
  else if word = "false".toList then some (.bool false)
  else none

/-- Whether the whole part of a numeral is written as JSON asks: no zero in front
of other digits. -/
def isWholePart (digits : List Char) : Bool :=
  digits == ['0'] || (!digits.isEmpty && digits.head? != some '0')

/-- Whether a fraction has a digit when it has a point. -/
def isFraction (text : List Char) : Bool :=
  match text with
  | '.' :: rest => !(Decimal.readDigits rest).1.isEmpty
  | _ => true

/-- The numeral of a whole number: a negative zero and numbers of more than 64
bits are real. -/
def wholeNumeral (negative : Bool) (value : Nat) : Numeral :=
  if negative then
    if value = 0 then .real (.zero true)
    else if value ≤ 9223372036854775808 then .whole (-(value : Int))
    else .real (Decimal.toNumber ⟨true, value, 0⟩)
  else if value < 18446744073709551616 then .whole value
  else .real (Decimal.toNumber ⟨false, value, 0⟩)

/-- A numeral, unless it is out of range. -/
def ofNumeral? : Numeral → Option Token
  | .whole n => some (.number (.whole n))
  | .real x => if x.isFinite then some (.number (.real x)) else none

/-- The token of a numeral: an optional minus sign, a whole part, an optional
fraction and an optional exponent. -/
def ofNumeralText? (text : List Char) : Option Token :=
  let negative := text.head? == some '-'
  let unsigned := if negative then text.drop 1 else text
  let (whole, rest) := Decimal.readDigits unsigned
  if !isWholePart whole then none
  else if rest.isEmpty then ofNumeral? (wholeNumeral negative (digitsValue whole))
  else if !isFraction rest then none
  else (Decimal.read? text).bind fun d => ofNumeral? (.real d.toNumber)

/-- What a letter after a backslash stands for. -/
def escapedLetter? : Char → Option Char
  | '"' => some '"'
  | '\\' => some '\\'
  | '/' => some '/'
  | 'b' => some '\x08'
  | 'f' => some '\x0c'
  | 'n' => some '\n'
  | 'r' => some '\r'
  | 't' => some '\t'
  | _ => none

/-- A string with the unit that four digits have given: a character of its own,
the first half of a pair, or the second half of one. -/
def addUnit? (reversed : List Char) (high : Option Nat) (value : Nat) : Option Partial :=
  match high with
  | some high =>
    if 0xdc00 ≤ value ∧ value < 0xe000 then
      some (.quoted (Char.ofNat (0x10000 + (high - 0xd800) * 0x400 + (value - 0xdc00)) :: reversed))
    else none
  | none =>
    if 0xd800 ≤ value ∧ value < 0xdc00 then some (.afterHigh reversed value)
    else if 0xdc00 ≤ value ∧ value < 0xe000 then none
    else some (.quoted (Char.ofNat value :: reversed))

/-- What a character begins between two tokens. -/
def start? (c : Char) : Option (List Token × Partial) :=
  match c with
  | '[' => some ([.openArray], .nothing)
  | ']' => some ([.closeArray], .nothing)
  | '{' => some ([.openObject], .nothing)
  | '}' => some ([.closeObject], .nothing)
  | ',' => some ([.comma], .nothing)
  | ':' => some ([.colon], .nothing)
  | '"' => some ([], .quoted [])
  | c =>
    if isSeparator c then some ([], .nothing)
    else if c.isDigit || c == '-' then some ([], .numeral [c])
    else if c.isAlpha then some ([], .word [c])
    else none

/-- Whether a character can belong to a numeral that has begun. -/
def isNumeralCharacter (c : Char) : Bool :=
  c.isDigit || c == '-' || c == '+' || c == '.' || c == 'e' || c == 'E'

/-- The tokens that one more character ends, and what is unfinished after it. -/
def advance? : Partial → Char → Option (List Token × Partial)
  | .nothing, c => start? c
  | .word reversed, c =>
    if c.isAlpha then some ([], .word (c :: reversed))
    else do
      let token ← ofWord? reversed.reverse
      let (tokens, next) ← start? c
      return (token :: tokens, next)
  | .numeral reversed, c =>
    if isNumeralCharacter c then some ([], .numeral (c :: reversed))
    else do
      let token ← ofNumeralText? reversed.reverse
      let (tokens, next) ← start? c
      return (token :: tokens, next)
  | .quoted reversed, c =>
    if c = '"' then some ([.string (String.ofList reversed.reverse)], .nothing)
    else if c = '\\' then some ([], .escape reversed)
    else if c < ' ' then none
    else some ([], .quoted (c :: reversed))
  | .escape reversed, c =>
    if c = 'u' then some ([], .unit reversed none 0 0)
    else (escapedLetter? c).map fun letter => ([], .quoted (letter :: reversed))
  | .unit reversed high digits value, c => do
    let value := 16 * value + (← hexDigit? c)
    if digits = 3 then
      return ([], ← addUnit? reversed high value)
    else
      return ([], .unit reversed high (digits + 1) value)
  | .afterHigh reversed high, c =>
    if c = '\\' then some ([], .escapeAfterHigh reversed high) else none
  | .escapeAfterHigh reversed high, c =>
    if c = 'u' then some ([], .unit reversed (some high) 0 0) else none

/-- The token that the end of the text ends; strings must have been closed. -/
def finish? : Partial → Option (List Token)
  | .nothing => some []
  | .word reversed => (ofWord? reversed.reverse).map fun token => [token]
  | .numeral reversed => (ofNumeralText? reversed.reverse).map fun token => [token]
  | _ => none

/-- The tokens of a text, from an unfinished token on. -/
def scan? : Partial → List Char → Option (List Token)
  | state, [] => finish? state
  | state, c :: rest => do
    let (tokens, next) ← advance? state c
    let others ← scan? next rest
    return tokens ++ others

end Token

end ValueAssertions
