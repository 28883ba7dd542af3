/-!
# Kinds of assertions

There are eight kinds of assertions.  Each has a key, under which a catalog holds
the template of its message.
-/

namespace ValueAssertions

/-- The kinds of assertions. -/
inductive AssertionKind where
  /-- The type of a value. -/
  | type
  /-- A condition on a value. -/
  | value
  /-- The types of fields. -/
  | fieldTypes
  /-- Conditions on fields. -/
  | fieldValues
  /-- The types of fields that need not be there. -/
  | optionalFieldTypes
  /-- Conditions on fields that need not be there. -/
  | optionalFieldValues
  /-- The fields that an object may have. -/
  | allowedFields
  /-- The fields that an object must not have. -/
  | forbiddenFields
deriving DecidableEq

namespace AssertionKind

/-- All kinds, in the order of a catalog. -/
def all : List AssertionKind := [
  .type, .value, .fieldTypes, .fieldValues, .optionalFieldTypes, .optionalFieldValues,
  .allowedFields, .forbiddenFields]

/-- The key of a kind. -/
def key : AssertionKind → String
  | .type => "type"
  | .value => "value"
  | .fieldTypes => "field_types"
  | .fieldValues => "field_values"
  | .optionalFieldTypes => "optional_field_types"
  | .optionalFieldValues => "optional_field_values"
  | .allowedFields => "allowed_fields"
  | .forbiddenFields => "forbidden_fields"

/-- The kind with a key. -/
def ofKey? (key : String) : Option AssertionKind :=
  all.find? fun kind => kind.key == key

end AssertionKind

end ValueAssertions
