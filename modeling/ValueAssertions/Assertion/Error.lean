import ValueAssertions.Assertion.Kind
import ValueAssertions.Condition.Evaluation

/-!
# Errors of assertions

An assertion fails with a violation when the value does not hold to it.  Other
errors say that a condition, a catalog or a list of rules cannot be built.
-/

namespace ValueAssertions

/-- That a value does not hold to an assertion. -/
structure Violation where
  /-- The kind of the assertion. -/
  kind : AssertionKind
  /-- The rendered message. -/
  message : String
  /-- The field at fault, for assertions on fields. -/
  field : Option String
  /-- What the evaluation reported, for assertions on values. -/
  diagnostics : Option Failure

/-- What can be wrong with the data that assertions are configured with. -/
inductive ConfigurationFault where
  /-- The template of a kind is blank. -/
  | blankTemplate (kind : AssertionKind)
  /-- A document, printed here, is no name of a type. -/
  | notTypeName (printed : String)
  /-- A document, printed here, is no object of rules. -/
  | notRules (printed : String)
deriving DecidableEq

/-- The fault in words. -/
def ConfigurationFault.message : ConfigurationFault → String
  | .blankTemplate kind => "empty message template for '" ++ kind.key ++ "'"
  | .notTypeName printed => "expected a type name, got " ++ printed
  | .notRules printed => "expected an object of field rules, got " ++ printed

/-- Why an assertion fails or cannot be made. -/
inductive AssertionError where
  /-- The value does not hold to it. -/
  | violated (violation : Violation)
  /-- Its condition cannot be built. -/
  | condition (error : ConditionError)
  /-- It is not configured as it should be. -/
  | configuration (fault : ConfigurationFault)
  /-- A catalog is no JSON object of templates. -/
  | malformedJson
  /-- A catalog is no YAML mapping of templates. -/
  | malformedYaml

/-- The text of an error; malformed texts have none. -/
def AssertionError.message? : AssertionError → Option String
  | .violated violation => some violation.message
  | .condition error => error.message?.map ("Condition error: " ++ ·)
  | .configuration fault => some ("Configuration error: " ++ fault.message)
  | .malformedJson => none
  | .malformedYaml => none

end ValueAssertions
