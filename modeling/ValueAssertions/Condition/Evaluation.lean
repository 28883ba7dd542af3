import ValueAssertions.Condition.Description
import ValueAssertions.Condition.Leaf

/-!
# Evaluation

A value passes a condition or fails it.  A failure says which check failed, with
the reference of that check, the value that was examined, a phrase for what was
expected, and the index of the element when the outermost check is on elements.

When all alternatives fail, the reference of the failure is one list of clauses
in which clauses with the same operator are merged (`mergeAlternatives`).
-/

namespace ValueAssertions

/-- The check that failed: an operator, the alternatives of a condition, or a check
on the length or on an element. -/
inductive FailedCheck where
  | operator (failed : Operator)
  | alternatives
  | length (inner : FailedCheck)
  | each (inner : FailedCheck)
deriving DecidableEq

/-- The check as a path, for instance `length/eq`. -/
def FailedCheck.path : FailedCheck → String
  | .operator failed => failed.key
  | .alternatives => "compound"
  | .length inner => "length/" ++ inner.path
  | .each inner => "each/" ++ inner.path

/-- Why a value does not pass a condition. -/
structure Failure where
  /-- Which check failed. -/
  check : FailedCheck
  /-- What the check compared with. -/
  reference : Reference
  /-- What the check examined. -/
  actual : Value
  /-- What the check expected, in words. -/
  details : String
  /-- The index of the element, when the check is on elements. -/
  index : Option Nat

/-- The outcome of an evaluation. -/
inductive Outcome where
  | pass
  | fail (failure : Failure)

namespace Outcome

/-- Whether the value passed. -/
def isPass : Outcome → Bool
  | .pass => true
  | .fail _ => false

/-- The failure, if the value did not pass. -/
def failure? : Outcome → Option Failure
  | .pass => none
  | .fail failure => some failure

/-- The first outcome if it is a failure, the second otherwise. -/
def andThen : Outcome → Outcome → Outcome
  | .pass, next => next
  | .fail failure, _ => .fail failure

/-- The outcome of a check on the length, from that of its nested condition. -/
def underLength : Outcome → Outcome
  | .pass => .pass
  | .fail failure =>
    .fail { failure with
      check := .length failure.check
      details := "length " ++ failure.details }

/-- The outcome of a check on the element at an index, from that of its nested
condition. -/
def underEach (index : Nat) : Outcome → Outcome
  | .pass => .pass
  | .fail failure => .fail { failure with check := .each failure.check, index := some index }

end Outcome

/-! ## Merging alternatives -/

/-- The union of the alternatives of two references of one operator.  Of nested
conditions the second becomes one more alternative of the first. -/
def Reference.merge : Reference → Reference → Reference
  | .condition (.any items), .condition second => .condition (.any (items ++ [second]))
  | .condition first, .condition second => .condition (.any [first, second])
  | .pattern p, .pattern q => .patterns [p, q]
  | .pattern p, .patterns qs => .patterns (p :: qs)
  | .patterns ps, .pattern q => .patterns (ps ++ [q])
  | .patterns ps, .patterns qs => .patterns (ps ++ qs)
  | .value v, .value w => .values [v, w]
  | .value v, .values ws => .values (v :: ws)
  | .values vs, .value w => .values (vs ++ [w])
  | .values vs, .values ws => .values (vs ++ ws)
  | first, _ => first

/-- Adds a reference to the clause with the operator, or a new clause at the end. -/
def mergeClause (operator : Operator) (reference : Reference) : List Clause → List Clause
  | [] => [.mk operator reference]
  | .mk other old :: rest =>
    if other = operator then .mk other (old.merge reference) :: rest
    else .mk other old :: mergeClause operator reference rest

mutual

/-- The operators of an alternative with their references, nested alternatives
included; a bare value is compared for equality. -/
def Condition.flatten : Condition → List (Operator × Reference)
  | .literal v => [(.eq, .value v)]
  | .all clauses => clauses.map fun c => (c.operator, c.reference)
  | .any alternatives => flattenAlternatives alternatives

/-- The operators of all alternatives with their references. -/
def flattenAlternatives : List Condition → List (Operator × Reference)
  | [] => []
  | c :: rest => c.flatten ++ flattenAlternatives rest

end

/-- The clauses of all alternatives, one for each operator in the order in which
the operators first occur. -/
def mergeAlternatives (alternatives : List Condition) : List Clause :=
  (flattenAlternatives alternatives).foldl
    (fun merged pair => mergeClause pair.1 pair.2 merged) []

/-! ## Evaluation -/

/-- What a leaf operator examines: for `type` the tag of the value's type. -/
def Operator.examined (operator : Operator) (v : Value) : Value :=
  if operator = .type then .string v.typeTag else v

/-- The outcome of a leaf operator. -/
def evaluateLeaf (v : Value) (operator : Operator) (reference : Reference) : Outcome :=
  if operator.holds v reference then .pass
  else .fail
    { check := .operator operator
      reference
      actual := operator.examined v
      details := (Clause.mk operator reference).describe
      index := none }

/-- The outcome of a check on elements for a value that has none. -/
def failEach (v : Value) (reference : Reference) : Outcome :=
  .fail
    { check := .operator .each
      reference
      actual := v
      details := "array"
      index := none }

/-- The first failure of a check on elements, from an index on. -/
def firstFailure (check : Value → Outcome) (index : Nat) : List Value → Outcome
  | [] => .pass
  | item :: rest => ((check item).underEach index).andThen (firstFailure check (index + 1) rest)

/-- The failure of alternatives that have all failed with the given phrases. -/
def failAlternatives (v : Value) (alternatives : List Condition) (phrases : List String) :
    Outcome :=
  .fail
    { check := .alternatives
      reference := .condition (.all (mergeAlternatives alternatives))
      actual := v
      details := joinAlternatives phrases
      index := none }

mutual

/-- Evaluates a value against a condition. -/
def Condition.evaluate (v : Value) : Condition → Outcome
  | .literal x => evaluateLeaf v .eq (.value x)
  | .all clauses => evaluateAll v clauses
  | .any alternatives =>
    match failurePhrases? v alternatives with
    | none => .pass
    | some phrases => failAlternatives v alternatives phrases

/-- Evaluates a value against a clause. -/
def Clause.evaluate (v : Value) : Clause → Outcome
  | .mk .length (.condition c) => (c.evaluate v.lengthValue).underLength
  | .mk .each (.condition c) =>
    match v with
    | .array items => firstFailure (fun item => c.evaluate item) 0 items
    | v => failEach v (.condition c)
  | .mk operator reference => evaluateLeaf v operator reference

/-- Evaluates a value against clauses that must all hold: the first failure
counts. -/
def evaluateAll (v : Value) : List Clause → Outcome
  | [] => .pass
  | c :: rest => (c.evaluate v).andThen (evaluateAll v rest)

/-- What each alternative expected, unless one of them passes. -/
def failurePhrases? (v : Value) : List Condition → Option (List String)
  | [] => some []
  | c :: rest =>
    match c.evaluate v with
    | .pass => none
    | .fail failure => (failurePhrases? v rest).map (failure.details :: ·)

end

end ValueAssertions
