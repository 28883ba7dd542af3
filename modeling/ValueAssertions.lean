import ValueAssertions.Assertion.Assert
import ValueAssertions.Condition.Evaluation
import ValueAssertions.Condition.Reader
import ValueAssertions.Proofs.Assertion.FieldRules
import ValueAssertions.Proofs.Assertion.Message
import ValueAssertions.Proofs.Assertion.Saving
import ValueAssertions.Proofs.Assertion.TypeCondition
import ValueAssertions.Proofs.Condition.Arithmetic
import ValueAssertions.Proofs.Condition.BareValue
import ValueAssertions.Proofs.Condition.Blame
import ValueAssertions.Proofs.Condition.Building
import ValueAssertions.Proofs.Condition.CheckedMerging
import ValueAssertions.Proofs.Condition.Conjunction
import ValueAssertions.Proofs.Condition.Description
import ValueAssertions.Proofs.Condition.Diagnosis
import ValueAssertions.Proofs.Condition.Equality
import ValueAssertions.Proofs.Condition.Evaluation
import ValueAssertions.Proofs.Condition.Grammar
import ValueAssertions.Proofs.Condition.Merging
import ValueAssertions.Proofs.Condition.Multiple
import ValueAssertions.Proofs.Condition.Negation
import ValueAssertions.Proofs.Condition.Nesting
import ValueAssertions.Proofs.Condition.NormalForm
import ValueAssertions.Proofs.Condition.Order
import ValueAssertions.Proofs.Condition.Origin
import ValueAssertions.Proofs.Condition.Phrase
import ValueAssertions.Proofs.Condition.Reevaluation
import ValueAssertions.Proofs.Condition.Satisfaction
import ValueAssertions.Proofs.Condition.Shape
import ValueAssertions.Proofs.Condition.Union
import ValueAssertions.Proofs.Condition.Wording
import ValueAssertions.Proofs.Number.Division
import ValueAssertions.Proofs.Number.Equality
import ValueAssertions.Proofs.Number.Rounding
import ValueAssertions.Proofs.Template.Comparison
import ValueAssertions.Proofs.Template.Concatenation
import ValueAssertions.Proofs.Template.Deletion
import ValueAssertions.Proofs.Template.Equality
import ValueAssertions.Proofs.Template.Extraction
import ValueAssertions.Proofs.Template.Literal
import ValueAssertions.Proofs.Template.Marker
import ValueAssertions.Proofs.Template.Piece
import ValueAssertions.Proofs.Template.Reading
import ValueAssertions.Proofs.Template.Rewriting
import ValueAssertions.Proofs.Template.Splitting
import ValueAssertions.Proofs.Template.Structure
import ValueAssertions.Proofs.Template.Symbol
import ValueAssertions.Proofs.Template.Tree
import ValueAssertions.Proofs.Template.Written
import ValueAssertions.Proofs.Value.Document
import ValueAssertions.Proofs.Value.Equality
import ValueAssertions.Proofs.Value.Quoted
import ValueAssertions.Template.Rendering
