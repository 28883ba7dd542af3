import ValueAssertions.Proofs.Condition.Evaluation
import ValueAssertions.Proofs.Document.Reading

/-!
# Conjunctions

Clauses that must all hold are checked in order, and the first failure counts.  So a list
of clauses may be cut anywhere: the part before the cut decides if it fails, and the part
after it decides otherwise (`evaluateAll_append`).

The conditions that take one more clause, a bare value or clauses, are such lists
(`Condition.IsConjunction`).  A clause that is added comes last (`exists_and_eq_ok`), and
so does each clause of a chain (`Condition.andAll`).  `evaluate_conjunction` puts this
together: the outcome of a chain is the first failure among that of the condition it
starts from and those of its clauses, each by itself.
-/

namespace ValueAssertions

/-! ## The first failure -/

namespace Outcome

/-- The first of several outcomes that is a failure, if there is one. -/
def first (outcomes : List Outcome) : Outcome :=
  (outcomes.find? fun outcome => !outcome.isPass).getD .pass

theorem andThen_eq_ite (a b : Outcome) : a.andThen b = if a.isPass then b else a := by
  cases a <;> rfl

theorem andThen_assoc (a b c : Outcome) : (a.andThen b).andThen c = a.andThen (b.andThen c) := by
  cases a <;> rfl

theorem first_cons (a : Outcome) (rest : List Outcome) :
    first (a :: rest) = a.andThen (first rest) := by
  cases a <;> rfl

end Outcome

/-- Clauses may be cut anywhere: the part after the cut counts if the part before it
passes. -/
theorem evaluateAll_append (v : Value) (cs ds : List Clause) :
    evaluateAll v (cs ++ ds) = (evaluateAll v cs).andThen (evaluateAll v ds) := by
  induction cs with
  | nil => rfl
  | cons c cs ih => rw [List.cons_append, evaluateAll, evaluateAll, ih, Outcome.andThen_assoc]

/-! ## Adding clauses -/

namespace Condition

/-- A condition that takes one more clause: a bare value, or clauses. -/
inductive IsConjunction : Condition → Prop
  | literal (x : Value) : IsConjunction (.literal x)
  | all (clauses : List Clause) : IsConjunction (.all clauses)

/-- The condition with several more clauses, added one after the other. -/
def andAll (c : Condition) (pairs : List (Operator × Reference)) :
    Except ConditionError Condition :=
  pairs.foldlM (fun condition pair => condition.and pair.1 pair.2) c

variable {c one : Condition} {operator : Operator} {reference : Reference}

/-- A conjunction is evaluated as a list of clauses, to which `and` adds one more. -/
theorem IsConjunction.exists_clauses (hc : c.IsConjunction) :
    ∃ clauses, (∀ v, c.evaluate v = evaluateAll v clauses) ∧
      ∀ operator reference added, Clause.build operator reference = .ok added →
        c.and operator reference = .ok (.all (clauses ++ [added])) := by
  cases hc with
  | literal x =>
      refine ⟨[.mk .eq (.value x)], fun v => ?_, fun operator reference added hadded => ?_⟩
      · rw [evaluate, ← Clause.evaluate_leaf rfl, ← evaluate_single, evaluate]
      · rw [and, hadded]
        rfl
  | all clauses =>
      refine ⟨clauses, fun v => by rw [evaluate], fun operator reference added hadded => ?_⟩
      rw [and, hadded]
      rfl

/-- A conjunction takes every clause that can be built, and checks it last. -/
theorem IsConjunction.exists_and_eq_ok (hc : c.IsConjunction)
    (hbuild : ∃ added, Clause.build operator reference = .ok added) :
    ∃ one d, clause operator reference = .ok one ∧ c.and operator reference = .ok d ∧
      d.IsConjunction ∧ ∀ v, d.evaluate v = (c.evaluate v).andThen (one.evaluate v) := by
  obtain ⟨added, hadded⟩ := hbuild
  obtain ⟨clauses, hclauses, hand⟩ := hc.exists_clauses
  refine ⟨.all [added], _, ?_, hand operator reference added hadded, .all _, fun v => ?_⟩
  · rw [clause, hadded]
    rfl
  · rw [hclauses, evaluate, evaluate, evaluateAll_append]

/-- A conjunction takes a chain of clauses that can be built, and the first failure
counts. -/
theorem IsConjunction.exists_andAll_eq_ok {pairs : List (Operator × Reference)}
    (hc : c.IsConjunction)
    (hbuild : ∀ pair ∈ pairs, ∃ added, Clause.build pair.1 pair.2 = .ok added) :
    ∃ ones d, List.Forall₂ (fun pair one => clause pair.1 pair.2 = .ok one) pairs ones ∧
      c.andAll pairs = .ok d ∧
        ∀ v, d.evaluate v = Outcome.first ((c :: ones).map (·.evaluate v)) := by
  induction pairs generalizing c with
  | nil =>
      refine ⟨[], c, .nil, rfl, fun v => ?_⟩
      rw [List.map_cons, Outcome.first_cons]
      cases c.evaluate v <;> rfl
  | cons pair pairs ih =>
      obtain ⟨hpair, hpairs⟩ := List.forall_mem_cons.mp hbuild
      obtain ⟨one, d, hone, hand, hd, hevaluate⟩ := hc.exists_and_eq_ok hpair
      obtain ⟨ones, e, hones, hrest, hfirst⟩ := ih hd hpairs
      refine ⟨one :: ones, e, .cons hone hones, ?_, fun v => ?_⟩
      · rw [andAll, List.foldlM_cons, hand]
        exact hrest
      · simp only [hfirst, hevaluate, List.map_cons, Outcome.first_cons, Outcome.andThen_assoc]

end Condition

/-- **The first failure counts.**  Of two lists of clauses, put together, the outcome is
that of the first if it fails and that of the second otherwise.  The same holds of a
conjunction and the clause that is added to it, and along a chain of such clauses. -/
theorem evaluate_conjunction :
    (∀ (cs ds : List Clause) (v : Value),
      (Condition.all (cs ++ ds)).evaluate v =
        if ((Condition.all cs).evaluate v).isPass then (Condition.all ds).evaluate v
        else (Condition.all cs).evaluate v) ∧
    ∀ c : Condition, c.IsConjunction →
      (∀ operator reference, (∃ added, Clause.build operator reference = .ok added) →
        ∃ one d, Condition.clause operator reference = .ok one ∧
          c.and operator reference = .ok d ∧
            ∀ v, d.evaluate v =
              if (c.evaluate v).isPass then one.evaluate v else c.evaluate v) ∧
      ∀ pairs : List (Operator × Reference),
        (∀ pair ∈ pairs, ∃ added, Clause.build pair.1 pair.2 = .ok added) →
          ∃ ones d,
            List.Forall₂ (fun pair one => Condition.clause pair.1 pair.2 = .ok one) pairs ones ∧
            c.andAll pairs = .ok d ∧
              ∀ v, d.evaluate v = Outcome.first ((c :: ones).map (·.evaluate v)) := by
  refine ⟨fun cs ds v => ?_, fun c hc => ⟨fun operator reference hbuild => ?_,
    fun pairs hbuild => hc.exists_andAll_eq_ok hbuild⟩⟩
  · rw [Condition.evaluate, Condition.evaluate, Condition.evaluate, evaluateAll_append,
      Outcome.andThen_eq_ite]
  · obtain ⟨one, d, hone, hand, -, hevaluate⟩ := hc.exists_and_eq_ok hbuild
    exact ⟨one, d, hone, hand, fun v => by rw [hevaluate, Outcome.andThen_eq_ite]⟩

/-- Three clauses, of which the first and the last are on parts of the value. -/
def lengthBeginningElements : List (Operator × Reference) :=
  [(.length, .values [.null, .bool true]), (.begins, .value (.string "b")), (.each, .value .null)]

/-- Of the three clauses, added to the value `"abcd"`, the first two fail for this value,
and the first of them counts.  Without it the second does. -/
theorem lengthBeginningElements_conjunction :
    (Condition.literal (.string "abcd")).IsConjunction ∧
      (∀ pair ∈ lengthBeginningElements, ∃ added, Clause.build pair.1 pair.2 = .ok added) ∧
      (∃ d, (Condition.literal (.string "abcd")).andAll lengthBeginningElements = .ok d ∧
        (d.evaluate (.string "abcd")).failure?.map Failure.check =
          some (.length .alternatives)) ∧
      (∃ added, Clause.build .begins (.value (.string "b")) = .ok added) ∧
      ∃ d, (Condition.literal (.string "abcd")).and .begins (.value (.string "b")) = .ok d ∧
        (d.evaluate (.string "abcd")).failure?.map Failure.check = some (.operator .begins) := by
  have hc : (Condition.literal (.string "abcd")).IsConjunction := .literal _
  have hbuild : ∀ pair ∈ lengthBeginningElements,
      ∃ added, Clause.build pair.1 pair.2 = .ok added := by
    simp only [lengthBeginningElements, List.forall_mem_cons]
    exact ⟨⟨_, rfl⟩, ⟨_, rfl⟩, ⟨_, rfl⟩, nofun⟩
  have hbegins : ∃ added, Clause.build .begins (.value (.string "b")) = .ok added := ⟨_, rfl⟩
  refine ⟨hc, hbuild, ?_, hbegins, ?_⟩
  · obtain ⟨ones, d, hones, hd, hevaluate⟩ := (evaluate_conjunction.2 _ hc).2 _ hbuild
    cases hones with
    | cons hone hrest =>
        cases hone
        refine ⟨d, hd, ?_⟩
        rw [hevaluate]
        rfl
  · obtain ⟨one, d, hone, hd, hevaluate⟩ := (evaluate_conjunction.2 _ hc).1 _ _ hbegins
    cases hone
    refine ⟨d, hd, ?_⟩
    rw [hevaluate]
    rfl

end ValueAssertions
