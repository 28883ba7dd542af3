import ValueAssertions.Template.Context
import ValueAssertions.Value.Text

/-!
# Expressions of blocks

The expression that opens a block is the name of a token, which holds when the
token counts as true, or a comparison of a token with a literal.  A literal is a
quoted text, `true`, `false` or a decimal, and anything else is not-a-number.

The comparison starts at the first place outside quotes where one of the eight
operators does, and the longest of those that start there is taken.
-/

namespace ValueAssertions.Template

/-- What an expression asks of a token. -/
inductive Test where
  /-- To count as true. -/
  | truthy
  /-- `===`, the same type and value. -/
  | strictEq
  /-- `!==`, not the same type and value. -/
  | strictNe
  /-- `==`, equal as numbers if either is a number, as texts otherwise. -/
  | eq
  /-- `!=`, the opposite of `==`. -/
  | ne
  | gte
  | lte
  | gt
  | lt
deriving DecidableEq

namespace Test

/-- How a test is written. -/
def symbol : Test → String
  | .truthy => "boolean"
  | .strictEq => "==="
  | .strictNe => "!=="
  | .eq => "=="
  | .ne => "!="
  | .gte => ">="
  | .lte => "<="
  | .gt => ">"
  | .lt => "<"

/-- The tests that are written between a name and a literal, each before those
that it begins with. -/
def comparisons : List Test := [.strictEq, .strictNe, .eq, .ne, .gte, .lte, .gt, .lt]

/-- All tests. -/
def all : List Test := .truthy :: comparisons

/-- The test with a symbol. -/
def ofSymbol? (symbol : String) : Option Test :=
  all.find? fun test => test.symbol == symbol

/-- The comparison that a text begins with. -/
def startOf? (s : List Char) : Option Test :=
  comparisons.find? fun test => test.symbol.toList.isPrefixOf s

end Test

/-- An expression. -/
structure Expression where
  /-- What is asked of the token. -/
  test : Test
  /-- The name of the token. -/
  name : String
  /-- What the token is compared with. -/
  literal : Option Value

/-- Whether a character opens and closes quoted text. -/
def isQuote (c : Char) : Bool :=
  c == '\'' || c == '"'

/-- The text between quotes, if the text begins and ends with the same one. -/
def unquote? : List Char → Option (List Char)
  | [] => none
  | c :: rest =>
    if isQuote c && !rest.isEmpty && rest.getLast? == some c then some rest.dropLast else none

/-- Whether a text is a sign, digits, and perhaps a point and more digits. -/
def isDecimal (s : List Char) : Bool :=
  let (whole, rest) := Decimal.readDigits (Decimal.readSign s).2
  !whole.isEmpty &&
    match rest with
    | [] => true
    | '.' :: fraction => !fraction.isEmpty && fraction.all Char.isDigit
    | _ => false

/-- The value of a literal. -/
def readLiteral (s : List Char) : Value :=
  match unquote? s with
  | some text => .string (String.ofList text)
  | none =>
    if s = "true".toList then .bool true
    else if s = "false".toList then .bool false
    else if isDecimal s then .number ((Number.read? s).getD .nan)
    else .number .nan

/-- The texts before and after the first comparison outside quotes, given the quote
that is open. -/
def splitAtTest? (openQuote : Option Char) :
    List Char → Option (List Char × Test × List Char)
  | [] => none
  | c :: rest =>
    let next (openQuote : Option Char) : Option (List Char × Test × List Char) :=
      (splitAtTest? openQuote rest).map fun (before, test, after) => (c :: before, test, after)
    match openQuote with
    | some quote => next (if c = quote then none else some quote)
    | none =>
      if isQuote c then next (some c)
      else match Test.startOf? (c :: rest) with
        | some test => some ([], test, (c :: rest).drop test.symbol.length)
        | none => next none

namespace Expression

/-- The expression that a text writes. -/
def read (s : List Char) : Expression :=
  let s := trim s
  match splitAtTest? none s with
  | some (name, test, literal) =>
    ⟨test, String.ofList (trim name), some (readLiteral (trim literal))⟩
  | none => ⟨.truthy, String.ofList s, none⟩

/-- Equality that compares numbers if either side is a number and plain texts
otherwise.  An absent value is equal to nothing. -/
def looseEq (a b : Value) : Bool :=
  if a.isUndefined || b.isUndefined then false
  else if a.asNumber?.isSome || b.asNumber?.isSome then a.toNumber == b.toNumber
  else a.plain == b.plain

/-- Whether two values have an order and it is one of those accepted. -/
def ordered (a b : Value) (accepts : Ordering → Bool) : Bool :=
  (a.compare? b).any accepts

/-- Whether a test holds between a token and a literal. -/
def compares (test : Test) (token literal : Value) : Bool :=
  match test with
  | .truthy => token.isTruthy
  | .strictEq => token == literal
  | .strictNe => !(token == literal)
  | .eq => looseEq token literal
  | .ne => !looseEq token literal
  | .gt => ordered token literal Ordering.isGT
  | .gte => ordered token literal Ordering.isGE
  | .lt => ordered token literal Ordering.isLT
  | .lte => ordered token literal Ordering.isLE

/-- Whether an expression holds in a context.  Without a literal the token has to
count as true. -/
def holds (expression : Expression) (context : Context) : Bool :=
  let token := context.value expression.name
  match expression.literal with
  | some literal => compares expression.test token literal
  | none => token.isTruthy

end Expression

end ValueAssertions.Template
