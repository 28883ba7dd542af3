import ValueAssertions.Operator

/-!
# Errors of conditions

What can be wrong with a condition when it is built or read, and the text that
says so.  A regular expression that is malformed has no text of its own here.
-/

namespace ValueAssertions

/-- Why a reference does not suit its operator. -/
inductive ReferenceFault where
  /-- A nested condition is needed. -/
  | notCondition
  /-- The alternatives of a pattern operator must be texts. -/
  | notPatternText
  /-- A pattern operator needs a text or a pattern. -/
  | notPattern
  /-- A value or a list of values is needed. -/
  | notValue
  /-- The alternatives of `type` must be names of types. -/
  | notTypeName
  /-- The alternatives of `integer` must be truth values. -/
  | notBool
  /-- A document that should be a pattern is something else, as printed here. -/
  | notPatternDocument (printed : String)
deriving DecidableEq

/-- Why a condition cannot be built. -/
inductive ConditionError where
  /-- No operator has this key. -/
  | unknownOperator (key : String)
  /-- A flag is not known; the pattern is given in its display form. -/
  | unsupportedFlag (pattern : String) (flag : Char)
  /-- The source of a pattern is no regular expression. -/
  | malformedPattern (source : String)
  /-- The reference does not suit the operator. -/
  | invalidReference (operator : Operator) (fault : ReferenceFault)
  /-- Clauses cannot be added to alternatives. -/
  | clauseOnAlternatives
  /-- A pattern object has no text under `pattern`. -/
  | patternWithoutSource
  /-- A text is not a written document. -/
  | malformedDocument
deriving DecidableEq

/-- The fault in words. -/
def ReferenceFault.message : ReferenceFault → String
  | .notCondition => "expected a nested condition"
  | .notPatternText => "expected pattern text"
  | .notPattern => "expected pattern text or a compiled pattern"
  | .notValue => "expected a value or a list of values"
  | .notTypeName => "expected type names"
  | .notBool => "expected true or false"
  | .notPatternDocument printed => "expected a pattern, got " ++ printed

namespace ConditionError

/-- The text of an error; a malformed expression or document has none. -/
def message? : ConditionError → Option String
  | .unknownOperator key => some ("Unknown operator: " ++ key)
  | .unsupportedFlag pattern flag =>
    some ("Invalid pattern '" ++ pattern ++ "': unsupported flag '" ++ flag.toString ++ "'")
  | .malformedPattern _ => none
  | .invalidReference operator fault =>
    some ("Invalid reference for operator '" ++ operator.key ++ "': " ++ fault.message)
  | .clauseOnAlternatives =>
    some "Invalid condition: cannot add clauses to a compound condition"
  | .patternWithoutSource =>
    some "Invalid condition: pattern object needs a 'pattern' string"
  | .malformedDocument => none

end ConditionError

end ValueAssertions
