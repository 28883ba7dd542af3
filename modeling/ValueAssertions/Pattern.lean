import ValueAssertions.Condition.Error
import ValueAssertions.Regex.Reader
import ValueAssertions.Regex.Search

/-!
# Patterns

A pattern is a regular expression with the text it was written as.  A literal
pattern is text only, a compiled one has flags too, of which `i`, `m` and `s`
matter to the search.  The expression is determined by the text and the flags, so
two patterns are equal when these are.
-/

namespace ValueAssertions

/-- The flags that a pattern may have. -/
def patternFlags : List Char := ['d', 'g', 'i', 'm', 's', 'u', 'y']

/-- The expression of a source text under the letters of its flags. -/
def readExpression? (source : String) (flags : String) : Option Regex.Expression :=
  let letters := flags.toList
  Regex.Expression.read?
    { ignoreCase := letters.contains 'i'
      multiLine := letters.contains 'm'
      dotAll := letters.contains 's'
      unicode := true
      returns := false
      verbose := false }
    source

/-- A regular expression in its written form. -/
structure Pattern where
  /-- The text of the expression. -/
  source : String
  /-- The flags, if it was compiled with any. -/
  flags : Option String
  /-- What the text stands for. -/
  expression : Regex.Expression
  /-- The expression is the one that the text writes. -/
  reads : readExpression? source (flags.getD "") = some expression

namespace Pattern

/-- Patterns are equal when their texts and flags are. -/
instance : BEq Pattern where
  beq a b := a.source == b.source && a.flags == b.flags

/-- The pattern of a text, with flags or without. -/
def ofSource? (source : String) (flags : Option String) : Except ConditionError Pattern :=
  match h : readExpression? source (flags.getD "") with
  | some expression => .ok ⟨source, flags, expression, h⟩
  | none => .error (.malformedPattern source)

/-- A pattern given as plain text. -/
def literal (source : String) : Except ConditionError Pattern :=
  ofSource? source none

/-- The display form of a text with flags. -/
def slashed (source flags : String) : String :=
  "/" ++ source ++ "/" ++ flags

/-- A pattern given with flags, each of which must be known. -/
def compiled (source flags : String) : Except ConditionError Pattern :=
  match flags.toList.find? fun flag => !patternFlags.contains flag with
  | some flag => .error (.unsupportedFlag (slashed source flags) flag)
  | none => ofSource? source (some flags)

/-- Whether the pattern was given as plain text. -/
def isLiteral (pattern : Pattern) : Bool :=
  pattern.flags.isNone

/-- Whether the pattern is found anywhere in a text. -/
def isFoundIn (pattern : Pattern) (text : String) : Bool :=
  pattern.expression.isFoundIn text

/-- The display form: a literal pattern between quotes, a compiled one between
slashes and with its flags. -/
def display (pattern : Pattern) : String :=
  match pattern.flags with
  | none => "\"" ++ pattern.source ++ "\""
  | some flags => slashed pattern.source flags

end Pattern

end ValueAssertions
