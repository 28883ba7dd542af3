import ValueAssertions.Condition.Basic
import ValueAssertions.Value.Document
import ValueAssertions.Document.Reader

/-!
# Conditions in documents

In a document an array is a list of alternatives, an object a list of clauses in
the order of its keys, and anything else a bare value.  A pattern is a text, or an
object with a text under `pattern` and perhaps flags under `flags`.

The first error in the order of the document counts: an unknown key before what
stands under it, and what stands under a key before whether it suits the operator.
-/

namespace ValueAssertions

/-- The pattern of a document.  Whatever the operator is, a document that is no
pattern is reported under `matches`. -/
def Pattern.ofDocument : Document → Except ConditionError Pattern
  | .string source => Pattern.literal source
  | .object members =>
    match (lookup? "pattern" members).bind Document.asString? with
    | some source =>
      Pattern.compiled source (((lookup? "flags" members).bind Document.asString?).getD "")
    | none => .error .patternWithoutSource
  | document => .error (.invalidReference .matches (.notPatternDocument document.print))

/-- The patterns of documents, up to the first that is none. -/
def patternsOfDocuments : List Document → Except ConditionError (List Pattern)
  | [] => .ok []
  | document :: rest => do
    let pattern ← Pattern.ofDocument document
    return pattern :: (← patternsOfDocuments rest)

namespace Reference

/-- The patterns of a document: those of an array, or one. -/
def patternsOfDocument : Document → Except ConditionError Reference
  | .array items => return .patterns (← patternsOfDocuments items)
  | document => return .pattern (← Pattern.ofDocument document)

/-- The values of a document: those of an array, or one. -/
def valuesOfDocument : Document → Reference
  | .array items => .values (Value.ofItems items)
  | document => .value (Value.ofDocument document)

end Reference

mutual

/-- The condition of a document. -/
def Condition.ofDocument : Document → Except ConditionError Condition
  | .array items => return .any (← conditionsOfItems items)
  | .object members => return .all (← clausesOfMembers members)
  | .null => .ok (.literal .null)
  | .bool b => .ok (.literal (.bool b))
  | .number n => .ok (.literal (.number n.toNumber))
  | .string s => .ok (.literal (.string s))

/-- The conditions of the items of an array, up to the first error. -/
def conditionsOfItems : List Document → Except ConditionError (List Condition)
  | [] => .ok []
  | item :: rest => do
    let condition ← Condition.ofDocument item
    return condition :: (← conditionsOfItems rest)

/-- The clauses of the members of an object, up to the first error. -/
def clausesOfMembers : List (String × Document) → Except ConditionError (List Clause)
  | [] => .ok []
  | (key, document) :: rest =>
    match Operator.ofKey? key with
    | none => .error (.unknownOperator key)
    | some operator => do
      let reference ←
        if operator.isNested then
          (Condition.ofDocument document).map Reference.condition
        else if operator.isPattern then Reference.patternsOfDocument document
        else .ok (Reference.valuesOfDocument document)
      let clause ← Clause.build operator reference
      return clause :: (← clausesOfMembers rest)

end

/-- The condition that a text writes as a document. -/
def Condition.read (text : String) : Except ConditionError Condition :=
  match Document.read? text with
  | some document => Condition.ofDocument document
  | none => .error .malformedDocument

end ValueAssertions
