import ValueAssertions.Assertion.Error
import ValueAssertions.Document.Reader
import ValueAssertions.Yaml.Mapping

/-!
# Catalogs of messages

A catalog has one template for each kind of assertion.  It is loaded from a
document that gives templates to some of the keys; the other kinds keep the
built-in template.  A key that is unknown or repeated, a template that is no text,
and a template that is blank are refused.
-/

namespace ValueAssertions

/-- One template for each kind of assertion. -/
structure Catalog where
  type : String
  value : String
  fieldTypes : String
  fieldValues : String
  optionalFieldTypes : String
  optionalFieldValues : String
  allowedFields : String
  forbiddenFields : String
deriving DecidableEq

namespace Catalog

/-- The built-in templates. -/
def builtIn : Catalog where
  type := "Wrong type for '%varName%', expected %type%, got %_TYPE_%(?funName in %funName%?)"
  value :=
    "Wrong value for '%varName%', expected %expected%, got %_ACTUAL_%(?funName in %funName%?)"
  fieldTypes :=
    "Wrong type for field '%field%' of '%varName%', expected %type%, got %actual%" ++
      "(?funName in %funName%?)"
  fieldValues :=
    "Wrong value for field '%field%' of '%varName%', expected %expected%, got %_ACTUAL_%" ++
      "(?funName in %funName%?)"
  optionalFieldTypes :=
    "Wrong type for field '%field%' of '%varName%', expected %type%, got %actual%" ++
      "(?funName in %funName%?)"
  optionalFieldValues :=
    "Wrong value for field '%field%' of '%varName%', expected %expected%, got %_ACTUAL_%" ++
      "(?funName in %funName%?)"
  allowedFields := "Unexpected field '%field%' in '%varName%'(?funName in %funName%?)"
  forbiddenFields := "Field '%field%' not allowed in '%varName%'(?funName in %funName%?)"

/-- The template of a kind. -/
def template (catalog : Catalog) : AssertionKind → String
  | .type => catalog.type
  | .value => catalog.value
  | .fieldTypes => catalog.fieldTypes
  | .fieldValues => catalog.fieldValues
  | .optionalFieldTypes => catalog.optionalFieldTypes
  | .optionalFieldValues => catalog.optionalFieldValues
  | .allowedFields => catalog.allowedFields
  | .forbiddenFields => catalog.forbiddenFields

/-- The catalog with another template for a kind. -/
def set (catalog : Catalog) (kind : AssertionKind) (template : String) : Catalog :=
  match kind with
  | .type => { catalog with type := template }
  | .value => { catalog with value := template }
  | .fieldTypes => { catalog with fieldTypes := template }
  | .fieldValues => { catalog with fieldValues := template }
  | .optionalFieldTypes => { catalog with optionalFieldTypes := template }
  | .optionalFieldValues => { catalog with optionalFieldValues := template }
  | .allowedFields => { catalog with allowedFields := template }
  | .forbiddenFields => { catalog with forbiddenFields := template }

/-- Whether a template has no character but blanks. -/
def isBlankTemplate (template : String) : Bool :=
  template.toList.all isBlank

/-- The first kind whose template is blank. -/
def blankKind? (catalog : Catalog) : Option AssertionKind :=
  AssertionKind.all.find? fun kind => isBlankTemplate (catalog.template kind)

/-- The catalog, unless a template is blank. -/
def validate (catalog : Catalog) : Except AssertionError Catalog :=
  match catalog.blankKind? with
  | some kind => .error (.configuration (.blankTemplate kind))
  | none => .ok catalog

/-- The document of a catalog, with the kinds in order. -/
def toDocument (catalog : Catalog) : Document :=
  .object (AssertionKind.all.map fun kind => (kind.key, .string (catalog.template kind)))

/-- The catalog as a text that can be loaded. -/
def print (catalog : Catalog) : String :=
  catalog.toDocument.print

/-- The catalog with the templates of some keys, unless a key is unknown or among
those that have been seen. -/
def setEntries? (seen : List AssertionKind) (catalog : Catalog) :
    List (String × String) → Option Catalog
  | [] => some catalog
  | (key, template) :: rest => do
    let kind ← AssertionKind.ofKey? key
    if seen.contains kind then none
    else setEntries? (kind :: seen) (catalog.set kind template) rest

/-- The keys of an object whose values are all texts. -/
def textMembers? : List (String × Document) → Option (List (String × String))
  | [] => some []
  | (key, document) :: rest => do
    let text ← document.asString?
    return (key, text) :: (← textMembers? rest)

/-- The templates of an array, given to the kinds in order. -/
def positionalMembers? : List AssertionKind → List Document → Option (List (String × String))
  | _, [] => some []
  | [], _ :: _ => none
  | kind :: kinds, document :: rest => do
    let text ← document.asString?
    return (kind.key, text) :: (← positionalMembers? kinds rest)

/-- The entries of a catalog document: an object, or an array of templates in the
order of the kinds. -/
def entriesOfDocument? : Document → Option (List (String × String))
  | .object members => textMembers? members
  | .array items => positionalMembers? AssertionKind.all items
  | _ => none

/-- The catalog that a JSON text gives. -/
def readJson (text : String) : Except AssertionError Catalog :=
  match (Document.parse? text).bind entriesOfDocument? |>.bind (setEntries? [] builtIn) with
  | some catalog => catalog.validate
  | none => .error .malformedJson

/-- The catalog that a YAML text gives. -/
def readYaml (text : String) : Except AssertionError Catalog :=
  match (Yaml.readMapping? text).bind (setEntries? [] builtIn) with
  | some catalog => catalog.validate
  | none => .error .malformedYaml

end Catalog

end ValueAssertions
