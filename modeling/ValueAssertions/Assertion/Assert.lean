import ValueAssertions.Assertion.Catalog
import ValueAssertions.Assertion.Rules
import ValueAssertions.Template.Rendering

/-!
# Assertions

An assertion checks a value, or the fields of an object, and fails with a violation
whose message is rendered from the template of its kind.  The tokens of a message
are the names that the subject gives, the value at fault, and what was expected.
-/

namespace ValueAssertions

/-- The names that a message shows. -/
structure Subject where
  /-- The name of the value, if it has one of its own. -/
  name : Option String
  /-- The name of the function in which it is checked. -/
  caller : Option String
deriving DecidableEq

/-- How assertions report. -/
structure Assert where
  /-- The templates of messages. -/
  catalog : Catalog
  /-- The name of values that have none of their own. -/
  defaultName : String

namespace Assert

/-- Assertions that report with the built-in templates. -/
def standard : Assert :=
  ⟨.builtIn, "argument"⟩

/-- The tokens of every message. -/
def context (assert : Assert) (subject : Subject) : Context :=
  (Context.empty.insert "varName" (.string (subject.name.getD assert.defaultName))).insert?
    "funName" (subject.caller.map Value.string)

/-- The tokens of a message about a value that has failed a condition. -/
def failureContext (assert : Assert) (subject : Subject) (v : Value) (failure : Failure) :
    Context :=
  (((assert.context subject).insert "value" v).insert
    "expected" (.string failure.details)).insert "actual" failure.actual

/-- The error of a violation, with its message rendered. -/
def violation (assert : Assert) (kind : AssertionKind) (context : Context)
    (field : Option String) (diagnostics : Option Failure) : AssertionError :=
  .violated
    { kind
      message := Template.render (assert.catalog.template kind) context
      field
      diagnostics }

/-! ## Values -/

/-- The value must have one of the types. -/
def type (assert : Assert) (v : Value) (types : TypeList) (subject : Subject) :
    Except AssertionError Unit :=
  if types.contains v.typeTag then .ok ()
  else
    let context := ((assert.context subject).insert "value" v).insert
      "type" (.string types.joined)
    .error (assert.violation .type context none none)

/-- The value must pass the condition. -/
def value (assert : Assert) (v : Value) (condition : Condition) (subject : Subject) :
    Except AssertionError Unit :=
  match condition.evaluate v with
  | .pass => .ok ()
  | .fail failure =>
    .error (assert.violation .value (assert.failureContext subject v failure) none
      (some failure))

/-- The value must stand to the reference as the operator asks. -/
def clause (assert : Assert) (v : Value) (operator : Operator) (reference : Reference)
    (subject : Subject) : Except AssertionError Unit := do
  let condition ← (Condition.clause operator reference).mapError .condition
  assert.value v condition subject

/-! ## Fields -/

/-- What a message about the type of a field shows in place of its value. -/
def shownType (v : Value) : String :=
  if v.isUndefined then "<undefined>" else v.typeTag

/-- The error of a field with a wrong type. -/
def fieldTypeViolation (assert : Assert) (kind : AssertionKind) (name : String) (v : Value)
    (types : TypeList) (subject : Subject) : AssertionError :=
  let context := ((((assert.context subject).insert "value" v).insert
    "type" (.string types.joined)).insert "actual" (.string (shownType v))).insert
    "field" (.string name)
  assert.violation kind context (some name) none

/-- The error of a field that has failed its condition. -/
def fieldValueViolation (assert : Assert) (kind : AssertionKind) (name : String) (v : Value)
    (failure : Failure) (subject : Subject) : AssertionError :=
  let context := (assert.failureContext subject v failure).insert "field" (.string name)
  assert.violation kind context (some name) (some failure)

/-- Checks the types of fields in the order of the rules.  Absent fields are passed
over when they are optional. -/
def checkFieldTypes (assert : Assert) (kind : AssertionKind) (absentPasses : Bool) (v : Value)
    (subject : Subject) : List (String × TypeList) → Except AssertionError Unit
  | [] => .ok ()
  | (name, types) :: rest =>
    let field := v.field name
    if (absentPasses && field.isUndefined) || types.contains field.typeTag then
      checkFieldTypes assert kind absentPasses v subject rest
    else .error (assert.fieldTypeViolation kind name field types subject)

/-- Checks the values of fields in the order of the rules.  Absent fields are passed
over when they are optional. -/
def checkFieldValues (assert : Assert) (kind : AssertionKind) (absentPasses : Bool) (v : Value)
    (subject : Subject) : List (String × Condition) → Except AssertionError Unit
  | [] => .ok ()
  | (name, condition) :: rest =>
    let field := v.field name
    if absentPasses && field.isUndefined then
      checkFieldValues assert kind absentPasses v subject rest
    else match condition.evaluate field with
      | .pass => checkFieldValues assert kind absentPasses v subject rest
      | .fail failure => .error (assert.fieldValueViolation kind name field failure subject)

/-- Every field must be there and have one of its types. -/
def fieldTypes (assert : Assert) (v : Value) (fields : FieldRules TypeList)
    (subject : Subject) : Except AssertionError Unit :=
  assert.checkFieldTypes .fieldTypes false v subject fields.rules

/-- Every field that is there must have one of its types. -/
def optionalFieldTypes (assert : Assert) (v : Value) (fields : FieldRules TypeList)
    (subject : Subject) : Except AssertionError Unit :=
  assert.checkFieldTypes .optionalFieldTypes true v subject fields.rules

/-- Every field must pass its condition; one that is not there is checked as absent. -/
def fieldValues (assert : Assert) (v : Value) (fields : FieldRules Condition)
    (subject : Subject) : Except AssertionError Unit :=
  assert.checkFieldValues .fieldValues false v subject fields.rules

/-- Every field that is there must pass its condition. -/
def optionalFieldValues (assert : Assert) (v : Value) (fields : FieldRules Condition)
    (subject : Subject) : Except AssertionError Unit :=
  assert.checkFieldValues .optionalFieldValues true v subject fields.rules

/-- The names of the fields of an object, in order; other values have none. -/
def fieldNames : Value → List String
  | .object fields => fields.map Prod.fst
  | _ => []

/-- Checks that every name of a field is accepted; the first that is not is
reported. -/
def checkNames (assert : Assert) (kind : AssertionKind) (v : Value) (subject : Subject)
    (accepts : String → Bool) : Except AssertionError Unit :=
  match (fieldNames v).find? fun name => !accepts name with
  | none => .ok ()
  | some name =>
    let context := (assert.context subject).insert "field" (.string name)
    .error (assert.violation kind context (some name) none)

/-- Every field of an object must be among the names. -/
def allowedFields (assert : Assert) (v : Value) (names : List String) (subject : Subject) :
    Except AssertionError Unit :=
  assert.checkNames .allowedFields v subject fun name => names.contains name

/-- No field of an object may be among the names. -/
def forbiddenFields (assert : Assert) (v : Value) (names : List String) (subject : Subject) :
    Except AssertionError Unit :=
  assert.checkNames .forbiddenFields v subject fun name => !names.contains name

end Assert

end ValueAssertions
