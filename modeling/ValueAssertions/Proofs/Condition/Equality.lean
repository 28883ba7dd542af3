import ValueAssertions.Proofs.Condition.Description
import ValueAssertions.Proofs.Condition.Grammar
import ValueAssertions.Proofs.Condition.Merging
import ValueAssertions.Proofs.Value.Equality

/-!
# Equal conditions

Two conditions are equal when they have one form with equal values at the leaves, so that
they may differ in the signs of zeros, and in nothing else.  Evaluation does not see the
difference, neither in the value nor in the condition: equal values and equal conditions
have equal outcomes (`evaluate_equals`), where the outcomes are again only equal as values
are.

A fact about equal conditions is proved by induction on both at once
(`Condition.beq_induction`).  What evaluation puts together is taken in the order in which
it is needed:

* the phrases are the same texts (`Condition.describe_eq_of_beq`);
* a leaf operator holds of both values or of none (`Operator.holds_congr`);
* what is merged from equal alternatives is equal (`mergeAlternatives_congr`).

None of it asks that the clauses are normal.
-/

namespace ValueAssertions

/-! ## Patterns -/

theorem Pattern.eq_of_beq {p q : Pattern} (h : (p == q) = true) : p = q := by
  obtain ⟨hsource, hflags⟩ := Bool.and_eq_true_iff.mp h
  exact Pattern.eq_of_source_eq (beq_iff_eq.mp hsource) (beq_iff_eq.mp hflags)

theorem Pattern.beq_self (p : Pattern) : (p == p) = true :=
  Bool.and_eq_true_iff.mpr ⟨beq_self_eq_true p.source, beq_self_eq_true p.flags⟩

theorem eq_of_samePatterns {ps qs : List Pattern} (h : samePatterns ps qs = true) : ps = qs := by
  have hstep : List.Forall₂ (fun p q : Pattern => (p == q) = true) ps qs :=
    (test_iff_forall₂ rfl (fun _ _ => rfl) (fun _ _ => rfl) (fun _ _ _ _ => rfl)).mp h
  rw [← List.forall₂_eq_eq_eq]
  exact hstep.imp fun _ _ => Pattern.eq_of_beq

/-! ## Equal references, clauses and conditions -/

section Forms

variable {v w : Value} {c d : Condition}

theorem value_beq_iff : (Reference.value v == .value w) = true ↔ (v == w) = true := by
  change Reference.same _ _ = true ↔ _
  rw [Reference.same]

theorem values_beq_iff {vs ws : List Value} :
    (Reference.values vs == .values ws) = true ↔
      List.Forall₂ (fun v w => (v == w) = true) vs ws := by
  change Reference.same _ _ = true ↔ _
  rw [Reference.same, Value.sameItems_iff]

theorem patterns_beq_self (ps : List Pattern) :
    (Reference.patterns ps == .patterns ps) = true := by
  change Reference.same _ _ = true
  rw [Reference.same]
  induction ps with
  | nil => rfl
  | cons p ps ih => simp [samePatterns, ih, Pattern.beq_self]

theorem condition_beq_iff :
    (Reference.condition c == .condition d) = true ↔ (c == d) = true := by
  change Reference.same _ _ = true ↔ _
  rw [Reference.same]
  rfl

end Forms

/-- Equal references have one form, with equal values or equal conditions, or with the
same patterns. -/
@[elab_as_elim]
theorem Reference.beq_cases {motive : (r s : Reference) → (r == s) = true → Prop}
    (value : ∀ (v w : Value) h, (v == w) = true → motive (.value v) (.value w) h)
    (values : ∀ vs ws h, List.Forall₂ (fun v w : Value => (v == w) = true) vs ws →
      motive (.values vs) (.values ws) h)
    (pattern : ∀ p h, motive (.pattern p) (.pattern p) h)
    (patterns : ∀ ps h, motive (.patterns ps) (.patterns ps) h)
    (condition : ∀ (c d : Condition) h, (c == d) = true → motive (.condition c) (.condition d) h)
    (r s : Reference) (h : (r == s) = true) : motive r s h := by
  have hsame : r.same s = true := h
  cases r <;> cases s <;> simp only [Reference.same, Bool.false_eq_true] at hsame
  case value.value v w => exact value v w h hsame
  case values.values vs ws => exact values vs ws h (Value.sameItems_iff.mp hsame)
  case pattern.pattern p q =>
    obtain rfl : p = q := Pattern.eq_of_beq hsame
    exact pattern p h
  case patterns.patterns ps qs =>
    obtain rfl : ps = qs := eq_of_samePatterns hsame
    exact patterns ps h
  case condition.condition c d => exact condition c d h hsame

theorem Clause.beq_iff {a b : Clause} :
    (a == b) = true ↔ a.operator = b.operator ∧ (a.reference == b.reference) = true := by
  obtain ⟨operator, reference⟩ := a
  obtain ⟨operator', reference'⟩ := b
  change (Clause.same _ _) = true ↔ _
  rw [Clause.same, Bool.and_eq_true, beq_iff_eq]
  rfl

theorem sameClauses_iff {as bs : List Clause} :
    sameClauses as bs = true ↔ List.Forall₂ (fun a b => (a == b) = true) as bs :=
  test_iff_forall₂ (by simp [sameClauses]) (by simp [sameClauses]) (by simp [sameClauses])
    fun _ _ _ _ => by rw [sameClauses]; rfl

theorem sameConditions_iff {cs ds : List Condition} :
    sameConditions cs ds = true ↔ List.Forall₂ (fun c d => (c == d) = true) cs ds :=
  test_iff_forall₂ (by simp [sameConditions]) (by simp [sameConditions]) (by simp [sameConditions])
    fun _ _ _ _ => by rw [sameConditions]; rfl

theorem Condition.all_beq_iff {as bs : List Clause} :
    (Condition.all as == .all bs) = true ↔ List.Forall₂ (fun a b => (a == b) = true) as bs := by
  change Condition.same _ _ = true ↔ _
  rw [Condition.same, sameClauses_iff]

theorem Condition.any_beq_iff {cs ds : List Condition} :
    (Condition.any cs == .any ds) = true ↔ List.Forall₂ (fun c d => (c == d) = true) cs ds := by
  change Condition.same _ _ = true ↔ _
  rw [Condition.same, sameConditions_iff]

/-- Induction on two equal conditions.  Of alternatives one may assume the property, and
of clauses for the conditions that they nest. -/
@[elab_as_elim]
theorem Condition.beq_induction {motive : (c d : Condition) → (c == d) = true → Prop}
    (literal : ∀ (x y : Value) h, (x == y) = true → motive (.literal x) (.literal y) h)
    (all : ∀ as bs h,
      List.Forall₂ (fun a b : Clause => (a == b) = true ∧
        ∀ c d, a.reference = .condition c → b.reference = .condition d →
          ∃ hcd, motive c d hcd) as bs →
      motive (.all as) (.all bs) h)
    (any : ∀ cs ds h, List.Forall₂ (fun c d : Condition => ∃ hcd, motive c d hcd) cs ds →
      motive (.any cs) (.any ds) h)
    (c d : Condition) (h : (c == d) = true) : motive c d h := by
  have hsame : c.same d = true := h
  cases c <;> cases d <;> simp only [Condition.same, Bool.false_eq_true] at hsame
  case literal.literal x y => exact literal x y h hsame
  case all.all as bs =>
    have hclauses := Condition.all_beq_iff.mp h
    refine all as bs h (forall₂_imp_mem hclauses fun a hmem b _ hab => ⟨hab, fun c d hc hd => ?_⟩)
    have hcd : (c == d) = true := by
      have hreference := (Clause.beq_iff.mp hab).2
      rwa [hc, hd, condition_beq_iff] at hreference
    exact ⟨hcd, beq_induction literal all any c d hcd⟩
  case any.any cs ds =>
    have halternatives := Condition.any_beq_iff.mp h
    refine any cs ds h (forall₂_imp_mem halternatives fun c hmem d _ hcd => ?_)
    exact ⟨hcd, beq_induction literal all any c d hcd⟩
termination_by sizeOf c
decreasing_by
  · subst_vars
    have hlt := List.sizeOf_lt_of_mem hmem
    obtain ⟨operator, reference⟩ := a
    obtain rfl : reference = .condition _ := hc
    simp only [Clause.mk.sizeOf_spec, Reference.condition.sizeOf_spec] at hlt
    simp only [Condition.all.sizeOf_spec]
    omega
  · subst_vars
    have hlt := List.sizeOf_lt_of_mem hmem
    simp only [Condition.any.sizeOf_spec]
    omega

/-! ## Phrases -/

section References

variable {r s : Reference}

theorem valueList_congr (h : (r == s) = true) :
    List.Forall₂ (fun a b => (a == b) = true) r.valueList s.valueList := by
  cases r, s, h using Reference.beq_cases with
  | value v w _ h => exact .cons h .nil
  | values vs ws _ h => exact h
  | _ => exact .nil

theorem patternList_eq_of_beq (h : (r == s) = true) : r.patternList = s.patternList := by
  cases r, s, h using Reference.beq_cases <;> rfl

/-- Equal references are described alike if the conditions in them are. -/
theorem Reference.describe_eq_of_beq (h : (r == s) = true)
    (hnested : ∀ c d, r = .condition c → s = .condition d → c.describe = d.describe) :
    r.describe = s.describe := by
  cases r, s, h using Reference.beq_cases with
  | value v w _ h =>
      rw [describe, describe]
      exact Value.quoted_eq_of_beq h
  | values vs ws _ h =>
      have hquoted : vs.map Value.quoted = ws.map Value.quoted :=
        map_eq_of_forall₂ (h.imp fun _ _ => Value.quoted_eq_of_beq)
      rw [describe, describe, hquoted]
  | condition c d _ _ =>
      rw [describe, describe]
      exact hnested c d rfl rfl
  | _ => rfl

end References

theorem integerPhrase_eq_of_beq {v w : Value} (h : (v == w) = true) :
    integerPhrase v = integerPhrase w := by
  rw [integerPhrase, integerPhrase, Value.asBool?_eq_of_beq h]

/-- Equal clauses are described alike if the conditions in them are. -/
theorem Clause.describe_eq_of_beq {a b : Clause} (h : (a == b) = true)
    (hnested : ∀ c d, a.reference = .condition c → b.reference = .condition d →
      c.describe = d.describe) : a.describe = b.describe := by
  obtain ⟨operator, r⟩ := a
  obtain ⟨operator', s⟩ := b
  obtain ⟨hoperator, hreference⟩ := Clause.beq_iff.mp h
  obtain rfl : operator = operator' := hoperator
  by_cases hinteger : operator = .integer
  · subst hinteger
    have hphrases : r.valueList.map integerPhrase = s.valueList.map integerPhrase :=
      map_eq_of_forall₂ ((valueList_congr hreference).imp fun _ _ => integerPhrase_eq_of_beq)
    rw [describe_integer, describe_integer, hphrases]
  · have hr : r.describe = s.describe := Reference.describe_eq_of_beq hreference hnested
    rw [describe_of_ne_integer hinteger, describe_of_ne_integer hinteger, hr]

/-- **Phrases.**  Equal conditions are described alike. -/
theorem Condition.describe_eq_of_beq {c d : Condition} (h : (c == d) = true) :
    c.describe = d.describe := by
  induction c, d, h using Condition.beq_induction with
  | literal x y _ h =>
      rw [describe, describe]
      exact Value.quoted_eq_of_beq h
  | all as bs _ ih =>
      have hclauses : as.map Clause.describe = bs.map Clause.describe := by
        refine map_eq_of_forall₂ (ih.imp ?_)
        rintro a b ⟨hab, hnested⟩
        exact Clause.describe_eq_of_beq hab fun c d hc hd => (hnested c d hc hd).2
      rw [describe, describe, describeClauses_eq_map, describeClauses_eq_map, hclauses]
  | any cs ds _ ih =>
      have halternatives : cs.map Condition.describe = ds.map Condition.describe := by
        refine map_eq_of_forall₂ (ih.imp ?_)
        rintro c d ⟨_, hcd⟩
        exact hcd
      rw [describe, describe, describeConditions_eq_map, describeConditions_eq_map, halternatives]

/-! ## Leaf operators -/

section Leaf

variable {v w : Value} {r s : Reference}

theorem Value.needle_eq_of_beq {a b : Value} (h : (a == b) = true) : a.needle = b.needle := by
  rw [needle, needle, plain_eq_of_beq h]

theorem Operator.holdsOfText_congr (operator : Operator) (text : List Char) {a b : Value}
    (h : (a == b) = true) : operator.holdsOfText text a = operator.holdsOfText text b := by
  cases operator <;> simp only [holdsOfText, Value.needle_eq_of_beq h]

/-- **Leaves.**  A leaf operator holds of equal values and equal references alike. -/
theorem Operator.holds_congr (operator : Operator) (hv : (v == w) = true) (hr : (r == s) = true) :
    operator.holds v r = operator.holds w s := by
  have hany : ∀ {p q : Value → Bool}, (∀ a b, (a == b) = true → p a = q b) →
      r.valueList.any p = s.valueList.any q :=
    fun hpq => any_eq_of_forall₂ ((valueList_congr hr).imp hpq)
  cases operator with
  | type =>
      refine hany fun a b hab => ?_
      rw [Value.asString?_eq_of_beq hab, Value.typeTag_eq_of_beq hv]
  | eq => exact hany fun a b hab => Value.beq_congr hv hab
  | neq => exact congrArg not (hany fun a b hab => Value.beq_congr hv hab)
  | lt => exact hany fun a b hab => Value.compares_congr hv hab _
  | lte => exact hany fun a b hab => Value.compares_congr hv hab _
  | gt => exact hany fun a b hab => Value.compares_congr hv hab _
  | gte => exact hany fun a b hab => Value.compares_congr hv hab _
  | integer => exact hany fun a b hab => Value.isIntegerAs_congr hv hab
  | divides => exact hany fun a b hab => Value.isMultipleOf_congr hab hv
  | multiple => exact hany fun a b hab => Value.isMultipleOf_congr hv hab
  | contains | begins | ends | containsNot | beginsNot | endsNot =>
      induction v, w, hv using Value.beq_induction with
      | string text _ =>
          simp only [holds]
          rw [hany fun a b hab => holdsOfText_congr _ text.toList hab]
      | _ => rfl
  | «matches» | matchesNot =>
      induction v, w, hv using Value.beq_induction with
      | string text _ => simp only [holds, patternList_eq_of_beq hr]
      | _ => rfl
  | length | each => rfl

end Leaf

/-! ## Merged clauses -/

theorem Reference.merge_congr {r r' s s' : Reference} (hr : (r == r') = true)
    (hs : (s == s') = true) : (r.merge s == r'.merge s') = true := by
  cases r, r', hr using Reference.beq_cases with
  | value v v' hr hv =>
      cases s, s', hs using Reference.beq_cases with
      | value w w' _ hw => exact values_beq_iff.mpr (.cons hv (.cons hw .nil))
      | values ws ws' _ hws => exact values_beq_iff.mpr (.cons hv hws)
      | _ => exact hr
  | values vs vs' hr hvs =>
      cases s, s', hs using Reference.beq_cases with
      | value w w' _ hw => exact values_beq_iff.mpr (List.rel_append hvs (.cons hw .nil))
      | values ws ws' _ hws => exact values_beq_iff.mpr (List.rel_append hvs hws)
      | _ => exact hr
  | pattern p hr =>
      cases s, s', hs using Reference.beq_cases with
      | pattern q => exact patterns_beq_self [p, q]
      | patterns qs => exact patterns_beq_self (p :: qs)
      | _ => exact hr
  | patterns ps hr =>
      cases s, s', hs using Reference.beq_cases with
      | pattern q => exact patterns_beq_self (ps ++ [q])
      | patterns qs => exact patterns_beq_self (ps ++ qs)
      | _ => exact hr
  | condition c c' hr hc =>
      cases s, s', hs using Reference.beq_cases with
      | condition d d' _ hd =>
          have hlast : List.Forall₂ (fun c d : Condition => (c == d) = true) [d] [d'] :=
            .cons hd .nil
          induction c, c', hc using Condition.beq_induction with
          | any items items' hitems _ =>
              exact condition_beq_iff.mpr (Condition.any_beq_iff.mpr
                (List.rel_append (Condition.any_beq_iff.mp hitems) hlast))
          | literal x y hxy _ =>
              exact condition_beq_iff.mpr (Condition.any_beq_iff.mpr (.cons hxy hlast))
          | all as bs hab _ =>
              exact condition_beq_iff.mpr (Condition.any_beq_iff.mpr (.cons hab hlast))
      | _ => cases c, c', hc using Condition.beq_induction <;> exact hr

/-- Two pairs of one operator with equal references. -/
def EqualPairs (p q : Operator × Reference) : Prop :=
  p.1 = q.1 ∧ (p.2 == q.2) = true

theorem Clause.mk_beq {operator : Operator} {r s : Reference} (h : (r == s) = true) :
    (Clause.mk operator r == .mk operator s) = true :=
  Clause.beq_iff.mpr ⟨rfl, h⟩

theorem mergeClause_congr {operator : Operator} {r s : Reference} (hr : (r == s) = true)
    {as bs : List Clause} (h : List.Forall₂ (fun a b => (a == b) = true) as bs) :
    List.Forall₂ (fun a b => (a == b) = true) (mergeClause operator r as)
      (mergeClause operator s bs) := by
  induction h with
  | nil => exact .cons (Clause.mk_beq hr) .nil
  | @cons a b as bs hab hrest ih =>
      obtain ⟨other, old⟩ := a
      obtain ⟨other', old'⟩ := b
      obtain ⟨hother, hold⟩ := Clause.beq_iff.mp hab
      obtain rfl : other = other' := hother
      -- The operators are the same in both lists, so merging stops at the same clause.
      rw [mergeClause, mergeClause]
      split
      · exact .cons (Clause.mk_beq (Reference.merge_congr hold hr)) hrest
      · exact .cons hab ih

/-- Equal conditions contribute equal pairs in one order. -/
theorem Condition.flatten_congr {c d : Condition} (h : (c == d) = true) :
    List.Forall₂ EqualPairs c.flatten d.flatten := by
  induction c, d, h using Condition.beq_induction with
  | literal x y _ h =>
      rw [flatten, flatten]
      exact .cons ⟨rfl, value_beq_iff.mpr h⟩ .nil
  | all as bs _ ih =>
      rw [flatten, flatten, List.forall₂_map_left_iff, List.forall₂_map_right_iff]
      exact ih.imp fun a b hab => Clause.beq_iff.mp hab.1
  | any cs ds _ ih =>
      rw [flatten_any, flatten_any]
      exact List.rel_flatMap ih fun c d ⟨_, hcd⟩ => hcd

/-- **Merging.**  The clauses merged from equal alternatives are equal. -/
theorem mergeAlternatives_congr {cs ds : List Condition}
    (h : (Condition.any cs == .any ds) = true) :
    List.Forall₂ (fun a b => (a == b) = true) (mergeAlternatives cs) (mergeAlternatives ds) := by
  have hpairs := Condition.flatten_congr h
  rw [Condition.flatten, Condition.flatten] at hpairs
  refine List.rel_foldl ?_ .nil hpairs
  rintro as bs hab ⟨operator, r⟩ ⟨operator', s⟩ ⟨hoperator, hrs⟩
  obtain rfl : operator = operator' := hoperator
  exact mergeClause_congr hrs hab

/-! ## Equal outcomes -/

/-- Failures are equal in every component: references and values as such, all else as it
is. -/
structure Failure.Equals (first second : Failure) : Prop where
  check : first.check = second.check
  reference : (first.reference == second.reference) = true
  actual : (first.actual == second.actual) = true
  details : first.details = second.details
  index : first.index = second.index

/-- Outcomes are equal when the value passes in both, or fails in both with equal
failures. -/
inductive Outcome.Equals : Outcome → Outcome → Prop
  | pass : Equals .pass .pass
  | fail {first second : Failure} (h : first.Equals second) :
      Equals (.fail first) (.fail second)

namespace Outcome.Equals

variable {first second next other : Outcome}

theorem andThen (h : first.Equals second) (hnext : next.Equals other) :
    (first.andThen next).Equals (second.andThen other) := by
  cases h with
  | pass => exact hnext
  | fail h => exact .fail h

theorem underLength (h : first.Equals second) : first.underLength.Equals second.underLength := by
  cases h with
  | pass => exact .pass
  | fail h =>
      exact .fail ⟨congrArg FailedCheck.length h.check, h.reference, h.actual,
        congrArg ("length " ++ ·) h.details, h.index⟩

theorem underEach (h : first.Equals second) (index : Nat) :
    (first.underEach index).Equals (second.underEach index) := by
  cases h with
  | pass => exact .pass
  | fail h =>
      exact .fail ⟨congrArg FailedCheck.each h.check, h.reference, h.actual, h.details, rfl⟩

end Outcome.Equals

section Runs

variable {v w : Value}

theorem evaluateLeaf_equals (operator : Operator) {r s : Reference} (hv : (v == w) = true)
    (hr : (r == s) = true)
    (hdescribe : (Clause.mk operator r).describe = (Clause.mk operator s).describe) :
    (evaluateLeaf v operator r).Equals (evaluateLeaf w operator s) := by
  have hexamined : (operator.examined v == operator.examined w) = true := by
    unfold Operator.examined
    split
    · rw [Value.typeTag_eq_of_beq hv]
      exact beq_self_eq_true w.typeTag
    · exact hv
  unfold evaluateLeaf
  rw [Operator.holds_congr operator hv hr]
  split
  · exact .pass
  · exact .fail ⟨rfl, hr, hexamined, hdescribe, rfl⟩

theorem firstFailure_equals {check other : Value → Outcome}
    (hcheck : ∀ a b : Value, (a == b) = true → (check a).Equals (other b)) {as bs : List Value}
    (h : List.Forall₂ (fun a b => (a == b) = true) as bs) (index : Nat) :
    (firstFailure check index as).Equals (firstFailure other index bs) := by
  induction h generalizing index with
  | nil => exact .pass
  | cons hab _ ih => exact ((hcheck _ _ hab).underEach index).andThen (ih (index + 1))

theorem evaluateAll_equals {as bs : List Clause}
    (h : List.Forall₂ (fun a b => (a.evaluate v).Equals (b.evaluate w)) as bs) :
    (evaluateAll v as).Equals (evaluateAll w bs) := by
  induction h with
  | nil =>
      rw [evaluateAll, evaluateAll]
      exact .pass
  | cons hab _ ih =>
      rw [evaluateAll, evaluateAll]
      exact hab.andThen ih

theorem failurePhrases?_eq_of_equals {cs ds : List Condition}
    (h : List.Forall₂ (fun c d => (c.evaluate v).Equals (d.evaluate w)) cs ds) :
    failurePhrases? v cs = failurePhrases? w ds := by
  induction h with
  | nil => rw [failurePhrases?, failurePhrases?]
  | @cons c d cs ds hcd _ ih =>
      rw [failurePhrases?, failurePhrases?, ih]
      generalize c.evaluate v = first, d.evaluate w = second at hcd
      cases hcd with
      | pass => rfl
      | fail h => simp only [h.details]

/-- Equal clauses have equal outcomes if the conditions in them do. -/
theorem Clause.evaluate_equals_of_nested {a b : Clause} (hv : (v == w) = true) (h : (a == b) = true)
    (hnested : ∀ c d, a.reference = .condition c → b.reference = .condition d →
      ∀ v w : Value, (v == w) = true → (c.evaluate v).Equals (d.evaluate w)) :
    (a.evaluate v).Equals (b.evaluate w) := by
  have hdescribe : a.describe = b.describe := by
    refine Clause.describe_eq_of_beq h fun c d hc hd => ?_
    have hreference := (Clause.beq_iff.mp h).2
    rw [hc, hd, condition_beq_iff] at hreference
    exact Condition.describe_eq_of_beq hreference
  obtain ⟨operator, r⟩ := a
  obtain ⟨operator', s⟩ := b
  obtain ⟨hoperator, hreference⟩ := Clause.beq_iff.mp h
  obtain rfl : operator = operator' := hoperator
  have hleaf := evaluateLeaf_equals operator hv hreference hdescribe
  cases r, s, hreference using Reference.beq_cases with
  | condition c d hreference hcd =>
      cases operator with
      | length =>
          rw [Clause.evaluate_length, Clause.evaluate_length]
          exact (hnested c d rfl rfl _ _ (Value.lengthValue_beq hv)).underLength
      | each =>
          have hfail : (failEach v (.condition c)).Equals (failEach w (.condition d)) :=
            .fail ⟨rfl, hreference, hv, rfl, rfl⟩
          induction v, w, hv using Value.beq_induction with
          | array items items' hitems _ =>
              rw [Clause.evaluate_each_array, Clause.evaluate_each_array]
              exact firstFailure_equals (hnested c d rfl rfl) (Value.beq_array_iff.mp hitems) 0
          | _ => exact hfail
      | _ => exact hleaf
  | _ => cases operator <;> exact hleaf

end Runs

/-- **Evaluation respects equality.**  Equal values have equal outcomes under equal
conditions: both pass, or both fail, and then the failures are equal in every
component. -/
theorem evaluate_equals {c d : Condition} (h : (c == d) = true) {v w : Value}
    (hv : (v == w) = true) : (c.evaluate v).Equals (d.evaluate w) := by
  induction c, d, h using Condition.beq_induction generalizing v w with
  | literal x y _ h =>
      rw [Condition.evaluate, Condition.evaluate]
      have hreference := value_beq_iff.mpr h
      have hdescribe :
          (Clause.mk .eq (.value x)).describe = (Clause.mk .eq (.value y)).describe := by
        refine Clause.describe_eq_of_beq (Clause.mk_beq hreference) fun c d hc => ?_
        cases hc
      exact evaluateLeaf_equals .eq hv hreference hdescribe
  | all as bs _ ih =>
      rw [Condition.evaluate, Condition.evaluate]
      refine evaluateAll_equals (ih.imp ?_)
      rintro a b ⟨hab, hnested⟩
      refine Clause.evaluate_equals_of_nested hv hab fun c d hc hd v w hv => ?_
      obtain ⟨_, hcd⟩ := hnested c d hc hd
      exact hcd hv
  | any cs ds h ih =>
      have hphrases : failurePhrases? v cs = failurePhrases? w ds := by
        refine failurePhrases?_eq_of_equals (ih.imp ?_)
        rintro c d ⟨_, hcd⟩
        exact hcd hv
      rw [Condition.evaluate, Condition.evaluate, hphrases]
      cases failurePhrases? w ds with
      | none => exact .pass
      | some phrases =>
          -- Here the references are no longer the same: the merged clauses are only equal.
          have hmerged : (Condition.all (mergeAlternatives cs) ==
              .all (mergeAlternatives ds)) = true :=
            Condition.all_beq_iff.mpr (mergeAlternatives_congr h)
          exact .fail ⟨rfl, condition_beq_iff.mpr hmerged, hv, rfl, rfl⟩

/-- An array with zeros of one sign in it. -/
def zerosOfSign (negative : Bool) : Value :=
  .array [.number (.zero negative), .object [("a", .array [.number (.zero negative)])]]

/-- Alternatives of which each compares with zeros of one sign. -/
def comparedWithZeros (negative : Bool) : Condition :=
  .any [
    .all [.mk .length (.condition (.literal (.number (.zero negative))))],
    .all [
      .mk .each (.condition (.any [
        .all [.mk .multiple (.values [.null, .number (.zero negative)])],
        .literal (.object [("a", .array [.number (.zero negative)])])])),
      .mk .neq (.value (.number (.zero negative)))]]

theorem comparedWithZeros_equals :
    (comparedWithZeros false == comparedWithZeros true) = true ∧
      (zerosOfSign true == zerosOfSign false) = true ∧
      ((comparedWithZeros false).evaluate (zerosOfSign true)).Equals
        ((comparedWithZeros true).evaluate (zerosOfSign false)) := by
  have hconditions : (comparedWithZeros false == comparedWithZeros true) = true := by
    decide +kernel
  have hvalues : (zerosOfSign true == zerosOfSign false) = true := rfl
  exact ⟨hconditions, hvalues, evaluate_equals hconditions hvalues⟩

end ValueAssertions
