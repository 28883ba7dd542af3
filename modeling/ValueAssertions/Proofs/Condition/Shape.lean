import ValueAssertions.Proofs.Condition.Evaluation

/-!
# The shape of results

A result can be written down as one record with a field for everything that may be said of
a failure (`Report`), each of which may be missing.  Evaluation can be told in such records
too (`Condition.report`), and then it has to say what to put in the place of a field that is
missing from the result of a nested condition.  It never comes to that: the records are the
outcomes of `Condition.evaluate` written down, and these have no missing fields
(`report_eq_ofOutcome`).

So a result has one of two shapes.  It is a pass, of which nothing is said, or a failure
with all its fields but the index.  The path of a failure goes into elements first and then
to lengths, and ends in an operator or in alternatives (`FailedCheck.ElementPath`), and the
index is there exactly when the path begins with an element.

## Strategy

`length` leaves the index alone that its nested condition reports.  If there were one, it
would be reported without a step into elements before it, and such a step would stand below
a length.  Neither happens because lengths are no arrays, so the induction has to carry what
is known of failures for values that are no arrays (`Shaped.lengths`).  It goes through all
ways in which a failure is made or passed on, which is what `Condition.failure_induction` is
for.
-/

namespace ValueAssertions

/-! ## Paths -/

namespace FailedCheck

/-- A path to lengths, of any number, that ends in alternatives or in an operator, which is
not `length`. -/
inductive LengthPath : FailedCheck → Prop
  | operator {failed : Operator} (hne : failed ≠ .length) : LengthPath (.operator failed)
  | alternatives : LengthPath .alternatives
  | length {inner : FailedCheck} (h : LengthPath inner) : LengthPath (.length inner)

/-- A path into elements, of any depth, and then to lengths. -/
inductive ElementPath : FailedCheck → Prop
  | lengths {check : FailedCheck} (h : LengthPath check) : ElementPath check
  | each {inner : FailedCheck} (h : ElementPath inner) : ElementPath (.each inner)

theorem LengthPath.ne_each {check : FailedCheck} (h : check.LengthPath) :
    ¬ ∃ inner, check = .each inner := by
  rintro ⟨inner, rfl⟩
  cases h

end FailedCheck

/-- What is known of every failure of a value. -/
structure Shaped (v : Value) (failure : Failure) : Prop where
  path : failure.check.ElementPath
  index : failure.index.isSome = true ↔ ∃ inner, failure.check = .each inner
  /-- Only arrays have elements to go into. -/
  lengths : ¬ v.IsArray → failure.check.LengthPath

namespace Shaped

variable {v : Value} {failure inner : Failure}

/-- A failure that is made where it is reported has a single step and no index. -/
theorem here (hpath : failure.check.LengthPath) (hindex : failure.index = none) :
    Shaped v failure where
  path := .lengths hpath
  index := by
    rw [hindex]
    exact iff_of_false nofun hpath.ne_each
  lengths _ := hpath

/-- A length passes on the index of its nested condition, which has none. -/
theorem underLength (h : Shaped v.lengthValue inner) :
    Shaped v { inner with
      check := .length inner.check
      details := "length " ++ inner.details } := by
  have hinner : inner.check.LengthPath := h.lengths v.not_isArray_lengthValue
  have hindex : inner.index = none := by
    rw [← Option.not_isSome_iff_eq_none, h.index]
    exact hinner.ne_each
  exact .here (.length hinner) hindex

theorem underEach {items : List Value} {item : Value} (i : Nat) (h : Shaped item inner) :
    Shaped (.array items) { inner with check := .each inner.check, index := some i } where
  path := .each h.path
  index := iff_of_true rfl ⟨inner.check, rfl⟩
  lengths harray := absurd ⟨items, rfl⟩ harray

end Shaped

/-- **The shape of failures.** -/
theorem shaped_of_evaluate_eq_fail {c : Condition} (hc : c.Normal) {v : Value}
    {failure : Failure} (hfail : c.evaluate v = .fail failure) : Shaped v failure := by
  refine Condition.failure_induction ?_ ?_ ?_ ?_ ?_ hc hfail
  · intro v operator reference hnested _
    refine .here (.operator ?_) rfl
    rintro rfl
    cases hnested
  · intro v nested _
    exact .here (.operator nofun) rfl
  · intro v clauses details
    exact .here .alternatives rfl
  · intro v inner h
    exact h.underLength
  · intro items i item inner _ h
    exact h.underEach i

/-! ## Results as records -/

/-- A result with a field for everything that may be said of a failure. -/
structure Report where
  /-- Whether the value passed. -/
  result : Bool
  /-- Which check failed. -/
  check : Option FailedCheck
  /-- What the check compared with. -/
  reference : Option Reference
  /-- What the check examined. -/
  actual : Option Value
  /-- What the check expected, in words. -/
  details : Option String
  /-- The index of the element. -/
  index : Option Nat

namespace Report

/-- A pass, of which nothing is said. -/
def pass : Report :=
  ⟨true, none, none, none, none, none⟩

/-- A failure without an index. -/
def fail (check : FailedCheck) (reference : Reference) (actual : Value) (details : String) :
    Report :=
  ⟨false, some check, some reference, some actual, some details, none⟩

/-- An outcome, written down. -/
def ofOutcome : Outcome → Report
  | .pass => pass
  | .fail failure =>
    ⟨false, some failure.check, some failure.reference, some failure.actual,
      some failure.details, failure.index⟩

/-- The result of a check on the length, from that of its nested condition.  A missing path
counts as alternatives, a missing phrase as none, and a missing value as the length. -/
def underLength (length : Value) (nested : Report) : Report :=
  if nested.result then nested
  else
    { nested with
      result := false
      check := some (.length (nested.check.getD .alternatives))
      details := some ("length " ++ nested.details.getD "")
      actual := some (nested.actual.getD length) }

/-- The result of a check on the element at an index, from that of its nested condition. -/
def underEach (index : Nat) (nested : Report) : Report :=
  { nested with
    check := some (.each (nested.check.getD .alternatives))
    index := some index }

theorem underLength_ofOutcome (length : Value) (outcome : Outcome) :
    (ofOutcome outcome).underLength length = ofOutcome outcome.underLength := by
  cases outcome <;> rfl

end Report

/-- The result of a leaf operator. -/
def reportLeaf (v : Value) (operator : Operator) (reference : Reference) : Report :=
  if operator.holds v reference then .pass
  else .fail (.operator operator) reference (operator.examined v)
    (Clause.mk operator reference).describe

/-- The result for the first element that fails, from an index on. -/
def reportFirst (check : Value → Report) (index : Nat) : List Value → Report
  | [] => .pass
  | item :: rest =>
    let nested := check item
    if nested.result then reportFirst check (index + 1) rest else nested.underEach index

mutual

/-- Evaluates a value against a condition. -/
def Condition.report (v : Value) : Condition → Report
  | .literal x => reportLeaf v .eq (.value x)
  | .all clauses => reportAll v clauses
  | .any alternatives =>
    match reportPhrases? v alternatives with
    | none => .pass
    | some phrases =>
      .fail .alternatives (.condition (.all (mergeAlternatives alternatives))) v
        (joinAlternatives phrases)

/-- Evaluates a value against a clause. -/
def Clause.report (v : Value) : Clause → Report
  | .mk .length (.condition c) => (c.report v.lengthValue).underLength v.lengthValue
  | .mk .each (.condition c) =>
    match v with
    | .array items => reportFirst (fun item => c.report item) 0 items
    | v => .fail (.operator .each) (.condition c) v "array"
  | .mk operator reference => reportLeaf v operator reference

/-- Evaluates a value against clauses up to the first failure. -/
def reportAll (v : Value) : List Clause → Report
  | [] => .pass
  | c :: rest =>
    let first := c.report v
    if first.result then reportAll v rest else first

/-- The phrases of alternatives that all fail; a missing phrase counts as none. -/
def reportPhrases? (v : Value) : List Condition → Option (List String)
  | [] => some []
  | c :: rest =>
    let first := c.report v
    if first.result then none
    else (reportPhrases? v rest).map (first.details.getD "" :: ·)

end

/-! ## Nothing is missing -/

theorem reportLeaf_eq_ofOutcome (v : Value) (operator : Operator) (reference : Reference) :
    reportLeaf v operator reference = .ofOutcome (evaluateLeaf v operator reference) := by
  unfold reportLeaf evaluateLeaf
  split <;> rfl

theorem reportFirst_eq_ofOutcome {check : Value → Outcome} {checkReport : Value → Report}
    (hcheck : ∀ v, checkReport v = .ofOutcome (check v)) (index : Nat) (items : List Value) :
    reportFirst checkReport index items = .ofOutcome (firstFailure check index items) := by
  induction items generalizing index with
  | nil => rfl
  | cons item rest ih =>
      rw [reportFirst, firstFailure, hcheck, ih]
      cases check item <;> rfl

theorem reportAll_eq_ofOutcome {v : Value} {clauses : List Clause}
    (hclauses : ∀ c ∈ clauses, c.report v = .ofOutcome (c.evaluate v)) :
    reportAll v clauses = .ofOutcome (evaluateAll v clauses) := by
  induction clauses with
  | nil => rw [reportAll, evaluateAll]; rfl
  | cons c rest ih =>
      obtain ⟨hc, hrest⟩ := List.forall_mem_cons.mp hclauses
      rw [reportAll, evaluateAll, hc, ih hrest]
      cases c.evaluate v <;> rfl

theorem reportPhrases?_eq_failurePhrases? {v : Value} {alternatives : List Condition}
    (halternatives : ∀ c ∈ alternatives, c.report v = .ofOutcome (c.evaluate v)) :
    reportPhrases? v alternatives = failurePhrases? v alternatives := by
  induction alternatives with
  | nil => rw [reportPhrases?, failurePhrases?]
  | cons c rest ih =>
      obtain ⟨hc, hrest⟩ := List.forall_mem_cons.mp halternatives
      rw [reportPhrases?, failurePhrases?, hc, ih hrest]
      cases c.evaluate v <;> rfl

theorem report_clause_eq_ofOutcome {clause : Clause} (hclause : clause.Normal)
    (hnested : ∀ d, clause.reference = .condition d → d.Normal →
      ∀ v, d.report v = .ofOutcome (d.evaluate v)) (v : Value) :
    clause.report v = .ofOutcome (clause.evaluate v) := by
  obtain ⟨operator, reference⟩ := clause
  rcases Clause.normal_cases hclause with hleaf | ⟨d, rfl, hd, rfl | rfl⟩
  · rw [Clause.evaluate_leaf hleaf, ← reportLeaf_eq_ofOutcome]
    cases operator <;> first | rfl | cases hleaf
  · rw [Clause.report, Clause.evaluate_length, hnested d rfl hd, Report.underLength_ofOutcome]
  · by_cases harray : v.IsArray
    · obtain ⟨items, rfl⟩ := harray
      rw [Clause.report, Clause.evaluate_each_array]
      exact reportFirst_eq_ofOutcome (hnested d rfl hd) 0 items
    · rw [Clause.evaluate_each_of_not_isArray harray]
      cases v <;> first | rfl | exact absurd ⟨_, rfl⟩ harray

/-- **Records are outcomes.**  What is put in the place of missing fields never shows. -/
theorem report_eq_ofOutcome {c : Condition} (hc : c.Normal) (v : Value) :
    c.report v = .ofOutcome (c.evaluate v) := by
  induction c, hc using Condition.Normal.induction generalizing v with
  | literal x _ => rw [Condition.report, Condition.evaluate, reportLeaf_eq_ofOutcome]
  | all clauses hnormal ih =>
      rw [Condition.report, Condition.evaluate]
      refine reportAll_eq_ofOutcome fun clause hmem => ?_
      refine report_clause_eq_ofOutcome (Condition.normal_all_iff.mp hnormal _ hmem) ?_ v
      rintro d hreference hd
      obtain ⟨operator, _⟩ := clause
      cases hreference
      exact ih operator d hmem hd
  | any alternatives hnormal ih =>
      rw [Condition.report, Condition.evaluate, reportPhrases?_eq_failurePhrases? fun c hmem =>
        ih c hmem (Condition.normal_any_iff.mp hnormal c hmem) v]
      cases failurePhrases? v alternatives <;> rfl

/-- **Results have one of two shapes.**  Either the value passes and nothing is said, or it
fails with a path into elements and then to lengths, with a reference, a value and a phrase,
and with an index just when the path begins with an element. -/
theorem report_pass_or_shaped {c : Condition} (hc : c.Normal) (v : Value) :
    c.evaluate v = .pass ∧ c.report v = ⟨true, none, none, none, none, none⟩ ∨
      ∃ check reference actual details index,
        c.evaluate v = .fail ⟨check, reference, actual, details, index⟩ ∧
          c.report v =
            ⟨false, some check, some reference, some actual, some details, index⟩ ∧
          check.ElementPath ∧
          (index.isSome = true ↔ ∃ inner, check = .each inner) := by
  rw [report_eq_ofOutcome hc]
  cases hevaluate : c.evaluate v with
  | pass => exact .inl ⟨rfl, rfl⟩
  | fail failure =>
      have hshaped := shaped_of_evaluate_eq_fail hc hevaluate
      exact .inr ⟨failure.check, failure.reference, failure.actual, failure.details,
        failure.index, rfl, rfl, hshaped.path, hshaped.index⟩

/-- Elements of one character, or of more than two. -/
def oneOrManyCharacters : Condition :=
  .all [.mk .each (.condition (.all [.mk .length (.condition (.any [
    .literal (.number (.ofNat 1)), .all [.mk .gt (.value (.number (.ofNat 2)))]]))]))]

/-- The second element of `["abc", "ab"]` has neither. -/
theorem oneOrManyCharacters_shaped :
    oneOrManyCharacters.Normal ∧
      (oneOrManyCharacters.evaluate (.array [.string "abc", .string "ab"])).failure?.map
          (fun failure => (failure.check, failure.index)) =
        some (.each (.length .alternatives), some 1) ∧
      (oneOrManyCharacters.evaluate (.array [.string "abc", .string "ab"]) = .pass ∧
          oneOrManyCharacters.report (.array [.string "abc", .string "ab"]) =
            ⟨true, none, none, none, none, none⟩ ∨
        ∃ check reference actual details index,
          oneOrManyCharacters.evaluate (.array [.string "abc", .string "ab"]) =
              .fail ⟨check, reference, actual, details, index⟩ ∧
            oneOrManyCharacters.report (.array [.string "abc", .string "ab"]) =
              ⟨false, some check, some reference, some actual, some details, index⟩ ∧
            check.ElementPath ∧
            (index.isSome = true ↔ ∃ inner, check = .each inner)) := by
  have hnormal : oneOrManyCharacters.Normal := by
    simp [oneOrManyCharacters, Condition.Normal, ClausesNormal, ConditionsNormal, Clause.Normal,
      Reference.Normal, Operator.isNested, Operator.isPattern]
  exact ⟨hnormal, by decide +kernel, report_pass_or_shaped hnormal _⟩

end ValueAssertions
