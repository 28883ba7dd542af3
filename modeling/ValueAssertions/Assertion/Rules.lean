import ValueAssertions.Assertion.Error
import ValueAssertions.Condition.Reader

/-!
# Rules for fields

Rules give types or conditions to the names of fields and are checked in order; a
name may have several.  In a document they are an object from names to rules.
-/

namespace ValueAssertions

/-- The tags of the types that are accepted. -/
structure TypeList where
  /-- The tags. -/
  tags : List String
deriving DecidableEq

namespace TypeList

/-- Whether a tag is accepted. -/
def contains (types : TypeList) (tag : String) : Bool :=
  types.tags.contains tag

/-- The tags with slashes between them. -/
def joined (types : TypeList) : String :=
  String.intercalate "/" types.tags

/-- The tag that a document is. -/
def tagOfDocument : Document → Except AssertionError String
  | .string tag => .ok tag
  | document => .error (.configuration (.notTypeName document.print))

/-- The tags of documents, up to the first that is none. -/
def tagsOfDocuments : List Document → Except AssertionError (List String)
  | [] => .ok []
  | document :: rest => do
    let tag ← tagOfDocument document
    return tag :: (← tagsOfDocuments rest)

/-- The tags of a document: those of an array, or one. -/
def ofDocument : Document → Except AssertionError TypeList
  | .array items => return ⟨← tagsOfDocuments items⟩
  | document => return ⟨[← tagOfDocument document]⟩

end TypeList

/-- Rules for named fields, in the order in which they are checked. -/
structure FieldRules (α : Type) where
  /-- The rules with their names. -/
  rules : List (String × α)

namespace FieldRules

/-- How many rules there are. -/
def size {α : Type} (fields : FieldRules α) : Nat :=
  fields.rules.length

/-- Whether there are no rules. -/
def isEmpty {α : Type} (fields : FieldRules α) : Bool :=
  fields.rules.isEmpty

/-- The rules of the members of an object, up to the first that is none. -/
def ofMembers {α : Type} (read : Document → Except AssertionError α) :
    List (String × Document) → Except AssertionError (List (String × α))
  | [] => .ok []
  | (name, document) :: rest => do
    let rule ← read document
    return (name, rule) :: (← ofMembers read rest)

/-- The rules of a document, which must be an object. -/
def ofDocument {α : Type} (read : Document → Except AssertionError α) :
    Document → Except AssertionError (FieldRules α)
  | .object members => return ⟨← ofMembers read members⟩
  | document => .error (.configuration (.notRules document.print))

/-- Rules on types. -/
def types (document : Document) : Except AssertionError (FieldRules TypeList) :=
  ofDocument TypeList.ofDocument document

/-- Rules on values. -/
def values (document : Document) : Except AssertionError (FieldRules Condition) :=
  ofDocument (fun rule => (Condition.ofDocument rule).mapError .condition) document

end FieldRules

end ValueAssertions
