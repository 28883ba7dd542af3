import ValueAssertions.Proofs.Condition.Evaluation
import ValueAssertions.Proofs.Condition.Kind
import Mathlib.Data.List.Induction

/-!
# The merged clauses of failed alternatives

When all alternatives fail, the reference of the failure is one list of clauses.
It is built by adding the pairs of an operator and a reference that the
alternatives contribute (`Contributes`) one after the other.  This file says what
comes out, without the order of additions:

* the operators are distinct, and stand in the order in which they first occur;
* each comes with the union of all references that it occurs with (`unionOf`): an
  only reference as it is, several values or patterns as one list, and several
  conditions as alternatives, those of a first condition that is itself
  alternatives taken one by one.

`Merged` is that description.  `mergeClause_mergedClauses` shows that one addition
keeps it, `foldl_mergeClause` that all of them do, and
`exists_merged_of_evaluate_any_eq_fail` is the statement about evaluation.  An
addition can only lose something when it meets references of different shapes,
which normal references of one operator never have (`Reference.Suits`).
-/

namespace ValueAssertions

/-! ## The description -/

/-- The pairs of an operator and a reference that a condition contributes, from left
to right.  Nested conditions are not entered. -/
inductive Contributes : Condition → List (Operator × Reference) → Prop
  | literal (x : Value) : Contributes (.literal x) [(.eq, .value x)]
  | all (clauses : List Clause) :
      Contributes (.all clauses) (clauses.map fun c => (c.operator, c.reference))
  | none : Contributes (.any []) []
  | first {c : Condition} {rest : List Condition} {pairs others : List (Operator × Reference)}
      (hfirst : Contributes c pairs) (hrest : Contributes (.any rest) others) :
      Contributes (.any (c :: rest)) (pairs ++ others)

/-- The references that come with an operator, in order. -/
def referencesOf (operator : Operator) (pairs : List (Operator × Reference)) : List Reference :=
  (pairs.filter fun pair => pair.1 == operator).map Prod.snd

/-- The alternatives of a nested condition, which is one itself if it has none. -/
def Reference.elements : Reference → List Condition
  | .condition (.any items) => items
  | .condition c => [c]
  | _ => []

/-- The union of several references of one operator. -/
def unionOfMany (operator : Operator) (references : List Reference) : Reference :=
  if operator.isNested then
    .condition (.any (references.head?.toList.flatMap Reference.elements ++
      references.tail.filterMap Reference.condition?))
  else if operator.isPattern then .patterns (references.flatMap Reference.patternList)
  else .values (references.flatMap Reference.valueList)

/-- The union of all references of one operator. -/
def unionOf (operator : Operator) : List Reference → Reference
  | [only] => only
  | references => unionOfMany operator references

/-- What the clauses merged from pairs are. -/
structure Merged (pairs : List (Operator × Reference)) (clauses : List Clause) : Prop where
  /-- No operator occurs twice. -/
  distinct : (clauses.map Clause.operator).Nodup
  /-- The operators stand in the order in which they first occur. -/
  order : clauses.map Clause.operator = (pairs.map Prod.fst).eraseDups
  /-- Each operator has the union of the references that it occurs with. -/
  union : ∀ c ∈ clauses, c.reference = unionOf c.operator (referencesOf c.operator pairs)

/-- The clauses that the description determines. -/
def mergedClauses (pairs : List (Operator × Reference)) : List Clause :=
  (pairs.map Prod.fst).eraseDups.map fun operator =>
    .mk operator (unionOf operator (referencesOf operator pairs))

/-! ## Operators in the order of first occurrence -/

theorem eraseDups_concat (operators : List Operator) (operator : Operator) :
    (operators ++ [operator]).eraseDups =
      if operator ∈ operators then operators.eraseDups
      else operators.eraseDups ++ [operator] := by
  rw [List.eraseDups_append]
  by_cases hmem : operator ∈ operators <;> simp [List.removeAll, hmem, List.eraseDups_cons]

theorem nodup_eraseDups (operators : List Operator) : operators.eraseDups.Nodup := by
  induction operators using List.reverseRecOn with
  | nil => simp
  | append_singleton operators operator ih =>
      rw [eraseDups_concat]
      split
      · exact ih
      · next hnot =>
          refine List.nodup_append.mpr ⟨ih, by simp, ?_⟩
          simp only [List.mem_eraseDups, List.mem_singleton]
          rintro earlier hearlier _ rfl rfl
          exact hnot hearlier

theorem referencesOf_concat_self (operator : Operator) (reference : Reference)
    (pairs : List (Operator × Reference)) :
    referencesOf operator (pairs ++ [(operator, reference)]) =
      referencesOf operator pairs ++ [reference] := by
  simp [referencesOf]

theorem referencesOf_concat_of_ne {operator other : Operator} (hne : other ≠ operator)
    (reference : Reference) (pairs : List (Operator × Reference)) :
    referencesOf other (pairs ++ [(operator, reference)]) = referencesOf other pairs := by
  simp [referencesOf, hne.symm]

theorem referencesOf_eq_nil_iff {operator : Operator} {pairs : List (Operator × Reference)} :
    referencesOf operator pairs = [] ↔ operator ∉ pairs.map Prod.fst := by
  rw [referencesOf, List.map_eq_nil_iff, List.filter_eq_nil_iff, List.mem_map]
  constructor
  · rintro hnone ⟨pair, hpair, heq⟩
    exact hnone pair hpair (by simpa using heq)
  · intro hnone pair hpair heq
    exact hnone ⟨pair, hpair, by simpa using heq⟩

theorem mem_referencesOf {operator : Operator} {reference : Reference}
    {pairs : List (Operator × Reference)} :
    reference ∈ referencesOf operator pairs ↔ (operator, reference) ∈ pairs := by
  simp [referencesOf]

/-! ## Merging two references -/

/-- A reference has the shape that an operator works with. -/
def Reference.Suits (operator : Operator) : Reference → Prop
  | .condition _ => operator.isNested = true
  | .pattern _ => operator.isPattern = true
  | .patterns _ => operator.isPattern = true
  | .value _ => operator.isNested = false ∧ operator.isPattern = false
  | .values _ => operator.isNested = false ∧ operator.isPattern = false

theorem Reference.Normal.suits {operator : Operator} {reference : Reference}
    (h : reference.Normal operator) : reference.Suits operator := by
  cases reference <;> simp_all [Reference.Normal, Reference.Suits]

namespace Reference

variable {operator : Operator} {first second : Reference}

theorem merge_of_isNested (hnested : operator.isNested = true) (hfirst : first.Suits operator)
    (hsecond : second.Suits operator) :
    first.merge second = .condition (.any (first.elements ++ second.condition?.toList)) := by
  have hpattern := Operator.isPattern_of_isNested hnested
  cases first with
  | condition c =>
      cases second with
      | condition d => cases c <;> rfl
      | _ => simp [Suits, hnested, hpattern] at hsecond
  | _ => simp [Suits, hnested, hpattern] at hfirst

theorem merge_of_isPattern (hpattern : operator.isPattern = true)
    (hfirst : first.Suits operator) (hsecond : second.Suits operator) :
    first.merge second = .patterns (first.patternList ++ second.patternList) := by
  have hnested := Operator.isNested_of_isPattern hpattern
  cases first <;> cases second <;>
    simp_all [Suits, merge, patternList]

theorem merge_of_isValue (hnested : operator.isNested = false)
    (hpattern : operator.isPattern = false) (hfirst : first.Suits operator)
    (hsecond : second.Suits operator) :
    first.merge second = .values (first.valueList ++ second.valueList) := by
  cases first <;> cases second <;>
    simp_all [Suits, merge, valueList]

end Reference

/-! ## Unions

A union gives back what its references hold, so that merging one more reference
into it only adds at the end. -/

section Union

variable {operator : Operator} {references : List Reference}

theorem suits_unionOf (hne : references ≠ [])
    (hreferences : ∀ r ∈ references, r.Suits operator) :
    (unionOf operator references).Suits operator := by
  match references, hne with
  | [only], _ => exact hreferences only (List.mem_singleton_self only)
  | first :: second :: rest, _ =>
      rw [unionOf, unionOfMany]
      · split
        · assumption
        split
        · assumption
        · simp_all [Reference.Suits]
      · simp

theorem elements_unionOf (hnested : operator.isNested = true) (hne : references ≠ []) :
    (unionOf operator references).elements =
      references.head?.toList.flatMap Reference.elements ++
        references.tail.filterMap Reference.condition? := by
  match references, hne with
  | [only], _ => simp [unionOf]
  | first :: second :: rest, _ => simp [unionOf, unionOfMany, hnested, Reference.elements]

theorem patternList_unionOf (hpattern : operator.isPattern = true) (hne : references ≠ []) :
    (unionOf operator references).patternList =
      references.flatMap Reference.patternList := by
  match references, hne with
  | [only], _ => simp [unionOf]
  | first :: second :: rest, _ =>
      simp [unionOf, unionOfMany, Operator.isNested_of_isPattern hpattern, hpattern,
        Reference.patternList]

theorem valueList_unionOf (hnested : operator.isNested = false)
    (hpattern : operator.isPattern = false) (hne : references ≠ []) :
    (unionOf operator references).valueList = references.flatMap Reference.valueList := by
  match references, hne with
  | [only], _ => simp [unionOf]
  | first :: second :: rest, _ =>
      simp [unionOf, unionOfMany, hnested, hpattern, Reference.valueList]

/-- One more reference merged into a union of references that suit the operator is
the union of them all. -/
theorem merge_unionOf {reference : Reference} (hne : references ≠ [])
    (hreferences : ∀ r ∈ references, r.Suits operator) (hreference : reference.Suits operator) :
    (unionOf operator references).merge reference =
      unionOf operator (references ++ [reference]) := by
  have hsuits := suits_unionOf hne hreferences
  obtain ⟨first, rest, rfl⟩ := List.exists_cons_of_ne_nil hne
  have hmany : unionOf operator (first :: rest ++ [reference]) =
      unionOfMany operator (first :: rest ++ [reference]) := by
    cases rest <;> rfl
  -- Each kind of operator gathers its own lists, and merging adds to just these.
  rw [hmany, unionOfMany]
  cases hnested : operator.isNested with
  | true =>
      rw [Reference.merge_of_isNested hnested hsuits hreference, elements_unionOf hnested hne]
      cases hcondition : reference.condition? <;> simp [hcondition]
  | false =>
      cases hpattern : operator.isPattern with
      | true =>
          rw [Reference.merge_of_isPattern hpattern hsuits hreference,
            patternList_unionOf hpattern hne]
          simp
      | false =>
          rw [Reference.merge_of_isValue hnested hpattern hsuits hreference,
            valueList_unionOf hnested hpattern hne]
          simp

end Union

/-! ## Adding a pair to merged clauses -/

/-- An addition to clauses with distinct operators changes the reference of one
operator, or adds a clause at the end. -/
theorem mergeClause_map {operators : List Operator} (hdistinct : operators.Nodup)
    (union : Operator → Reference) (operator : Operator) (reference : Reference) :
    mergeClause operator reference (operators.map fun o => .mk o (union o)) =
      if operator ∈ operators then
        operators.map fun o =>
          .mk o (if o = operator then (union o).merge reference else union o)
      else operators.map (fun o => .mk o (union o)) ++ [.mk operator reference] := by
  induction operators with
  | nil => simp [mergeClause]
  | cons first rest ih =>
      obtain ⟨hfirst, hrest⟩ := List.nodup_cons.mp hdistinct
      rw [List.map_cons, mergeClause]
      by_cases heq : first = operator
      · subst heq
        -- The search stops here, and no other clause has the operator.
        have hsame : ∀ o ∈ rest, o ≠ first := fun o ho heq => hfirst (heq ▸ ho)
        simp +contextual [hsame]
      · rw [if_neg heq, ih hrest]
        by_cases hmem : operator ∈ rest <;> simp [hmem, heq, Ne.symm heq]

/-- **One addition.**  Adding a pair to the merged clauses of pairs gives the merged
clauses of all of them. -/
theorem mergeClause_mergedClauses {pairs : List (Operator × Reference)}
    (hsuits : ∀ pair ∈ pairs, pair.2.Suits pair.1) {operator : Operator} {reference : Reference}
    (hreference : reference.Suits operator) :
    mergeClause operator reference (mergedClauses pairs) =
      mergedClauses (pairs ++ [(operator, reference)]) := by
  unfold mergedClauses
  rw [mergeClause_map (nodup_eraseDups _), List.map_append, List.map_cons, List.map_nil,
    eraseDups_concat]
  simp only [List.mem_eraseDups]
  have hkeep : ∀ o ∈ (pairs.map Prod.fst).eraseDups, o ≠ operator →
      referencesOf o (pairs ++ [(operator, reference)]) = referencesOf o pairs :=
    fun o _ hne => referencesOf_concat_of_ne hne reference pairs
  by_cases hmem : operator ∈ pairs.map Prod.fst
  · -- An operator that has occurred keeps its place, and its union grows.
    rw [if_pos hmem, if_pos hmem]
    refine List.map_congr_left fun o ho => ?_
    by_cases heq : o = operator
    · subst heq
      have hne : referencesOf o pairs ≠ [] := fun hnil => referencesOf_eq_nil_iff.mp hnil hmem
      have hold : ∀ r ∈ referencesOf o pairs, r.Suits o :=
        fun r hr => hsuits (o, r) (mem_referencesOf.mp hr)
      rw [if_pos rfl, merge_unionOf hne hold hreference, referencesOf_concat_self]
    · rw [if_neg heq, hkeep o ho heq]
  · -- A new operator comes last, and its union is the reference alone.
    rw [if_neg hmem, if_neg hmem, List.map_append, List.map_cons, List.map_nil,
      referencesOf_concat_self, referencesOf_eq_nil_iff.mpr hmem]
    congr 1
    refine List.map_congr_left fun o ho => ?_
    have hne : o ≠ operator := fun heq => hmem (heq ▸ List.mem_eraseDups.mp ho)
    rw [hkeep o ho hne]

/-- **All additions.** -/
theorem foldl_mergeClause {pairs : List (Operator × Reference)}
    (hsuits : ∀ pair ∈ pairs, pair.2.Suits pair.1) :
    pairs.foldl (fun merged pair => mergeClause pair.1 pair.2 merged) [] =
      mergedClauses pairs := by
  induction pairs using List.reverseRecOn with
  | nil => rfl
  | append_singleton pairs pair ih =>
      have hpairs : ∀ p ∈ pairs, p.2.Suits p.1 :=
        fun p hp => hsuits p (List.mem_append_left _ hp)
      rw [List.foldl_append, ih hpairs, List.foldl_cons, List.foldl_nil]
      exact mergeClause_mergedClauses hpairs (hsuits pair (by simp))

/-- The description leaves no choice. -/
theorem merged_iff {pairs : List (Operator × Reference)} {clauses : List Clause} :
    Merged pairs clauses ↔ clauses = mergedClauses pairs := by
  constructor
  · rintro ⟨-, horder, hunion⟩
    have hclauses : clauses.map (fun c => Clause.mk c.operator
        (unionOf c.operator (referencesOf c.operator pairs))) = clauses.map id := by
      refine List.map_congr_left fun c hc => ?_
      obtain ⟨operator, reference⟩ := c
      exact (congrArg (Clause.mk operator) (hunion _ hc)).symm
    rw [mergedClauses, ← horder, List.map_map]
    exact (hclauses.trans (List.map_id clauses)).symm
  · rintro rfl
    have horder : (mergedClauses pairs).map Clause.operator =
        (pairs.map Prod.fst).eraseDups := by
      rw [mergedClauses, List.map_map]
      exact List.map_id _
    refine ⟨?_, horder, ?_⟩
    · rw [horder]
      exact nodup_eraseDups _
    · intro c hc
      obtain ⟨operator, -, rfl⟩ := List.mem_map.mp hc
      rfl

/-! ## The pairs of a condition -/

mutual

theorem contributes_flatten : (c : Condition) → Contributes c c.flatten
  | .literal x => by
      rw [Condition.flatten]
      exact .literal x
  | .all clauses => by
      rw [Condition.flatten]
      exact .all clauses
  | .any alternatives => by
      rw [Condition.flatten]
      exact contributes_flattenAlternatives alternatives

theorem contributes_flattenAlternatives :
    (alternatives : List Condition) →
      Contributes (.any alternatives) (flattenAlternatives alternatives)
  | [] => by
      rw [flattenAlternatives]
      exact .none
  | c :: rest => by
      rw [flattenAlternatives]
      exact .first (contributes_flatten c) (contributes_flattenAlternatives rest)

end

/-- A condition contributes what evaluation collects from it, and nothing else. -/
theorem contributes_iff {c : Condition} {pairs : List (Operator × Reference)} :
    Contributes c pairs ↔ pairs = c.flatten := by
  constructor
  · intro h
    induction h with
    | literal x => rw [Condition.flatten]
    | all clauses => rw [Condition.flatten]
    | none => rw [Condition.flatten, flattenAlternatives]
    | first _ _ ihfirst ihrest =>
        rw [Condition.flatten] at ihrest ⊢
        rw [flattenAlternatives, ihfirst, ihrest]
  · rintro rfl
    exact contributes_flatten c

theorem flatten_any (alternatives : List Condition) :
    (Condition.any alternatives).flatten = alternatives.flatMap Condition.flatten := by
  rw [Condition.flatten]
  induction alternatives with
  | nil => rfl
  | cons c rest ih => rw [flattenAlternatives, ih, List.flatMap_cons]

/-- What a normal condition contributes suits its operators. -/
theorem suits_of_mem_flatten {c : Condition} (hc : c.Normal) :
    ∀ pair ∈ c.flatten, pair.2.Suits pair.1 := by
  induction c, hc using Condition.Normal.induction with
  | literal x _ => simp [Condition.flatten, Reference.Suits, Operator.isNested, Operator.isPattern]
  | all clauses hnormal _ =>
      intro pair hpair
      obtain ⟨⟨operator, reference⟩, hclause, rfl⟩ := List.mem_map.mp hpair
      exact Reference.Normal.suits (Condition.normal_all_iff.mp hnormal _ hclause)
  | any alternatives hnormal ih =>
      intro pair hpair
      rw [flatten_any, List.mem_flatMap] at hpair
      obtain ⟨c, hmem, hpair⟩ := hpair
      exact ih c hmem (Condition.normal_any_iff.mp hnormal c hmem) pair hpair

/-- **The reference of failed alternatives.**  It is the list of clauses merged from
what the alternatives contribute. -/
theorem exists_merged_of_evaluate_any_eq_fail {alternatives : List Condition}
    (hnormal : (Condition.any alternatives).Normal) {v : Value} {failure : Failure}
    (hfail : (Condition.any alternatives).evaluate v = .fail failure) :
    ∃ pairs clauses, Contributes (.any alternatives) pairs ∧ Merged pairs clauses ∧
      failure.reference = .condition (.all clauses) := by
  obtain ⟨phrases, hphrases⟩ := exists_of_evaluate_any_eq_fail hfail
  have hreference : failure.reference = .condition (.all (mergeAlternatives alternatives)) := by
    rw [failAlternatives, Outcome.fail.injEq] at hphrases
    rw [← hphrases]
  have hmerge : mergeAlternatives alternatives =
      mergedClauses (Condition.any alternatives).flatten := by
    rw [mergeAlternatives, ← foldl_mergeClause (suits_of_mem_flatten hnormal), Condition.flatten]
  exact ⟨_, _, contributes_iff.mpr rfl, merged_iff.mpr hmerge, hreference⟩

/-- Three alternatives in which `eq` and `length` occur more than once. -/
def repeatedOperators : List Condition :=
  [.literal .null,
    .any [.all [.mk .length (.condition (.any [.literal .undefined, .literal .null])),
      .mk .eq (.values [.bool true, .bool false])]],
    .all [.mk .length (.condition (.literal (.bool true)))]]

/-- Both clauses have gathered three alternatives, in order. -/
theorem repeatedOperators_merged :
    (Condition.any repeatedOperators).Normal ∧
      ∃ pairs, Contributes (.any repeatedOperators) pairs ∧
        Merged pairs [
          .mk .eq (.values [.null, .bool true, .bool false]),
          .mk .length (.condition (.any [
            .literal .undefined, .literal .null, .literal (.bool true)]))] := by
  have hnormal : (Condition.any repeatedOperators).Normal := by
    simp [repeatedOperators, Condition.Normal, ClausesNormal, ConditionsNormal, Clause.Normal,
      Reference.Normal, Operator.isNested, Operator.isPattern]
  have hfail : (Condition.any repeatedOperators).evaluate (.array []) =
      failAlternatives (.array []) repeatedOperators _ := rfl
  obtain ⟨pairs, clauses, hpairs, hmerged, hreference⟩ :=
    exists_merged_of_evaluate_any_eq_fail hnormal hfail
  cases hreference
  exact ⟨hnormal, pairs, hpairs, hmerged⟩

end ValueAssertions
