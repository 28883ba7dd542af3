import ValueAssertions.Proofs.Condition.Grammar

/-!
# Conditions built clause by clause

A condition of several clauses comes about in two ways: an object is read, which has
a reference under the key of each operator, or one clause is added after the other,
with values for references (`Condition.chain`).  This file says when the two ways
come to the same.

## Strategy

Both ways go through a list and make a clause of each member, up to the first error:
reading by `ofDocument_object`, building by `chain_eq_mapM`.  So it is enough to
compare them clause by clause (`agree_clause`) and to carry that over to lists
(`exists_mapM_eq_or_failsAt`).

A clause is made of the same values in both ways unless its operator nests a condition
or takes patterns.  Then reading makes the condition or the patterns itself, while
building leaves that to the check of the reference (`Reference.normalize`).  On scalars
and arrays of scalars the two make the same of them.  Beyond these they differ: an array
in an array is alternatives among alternatives when it is read, and an array as a value
when it is built.
-/

namespace ValueAssertions

/-! ## Two ways through one list -/

section Agreement

variable {ε α β γ : Type}

/-- Two results are the same success, or both are errors. -/
inductive Agree : Except ε α → Except ε α → Prop
  | ok (a : α) : Agree (.ok a) (.ok a)
  | error (e e' : ε) : Agree (.error e) (.error e')

theorem Agree.map {first second : Except ε α} (h : Agree first second) (f : α → β) :
    Agree (first.map f) (second.map f) := by
  cases h with
  | ok a => exact .ok (f a)
  | error e e' => exact .error e e'

/-- What is made of a list fails at a place: the members before it can be dealt with,
and the error of those up to it is the error of the whole list. -/
structure FailsAt (run : List α → Except ε β) (xs : List α) (place : Nat) : Prop where
  before : ∃ b, run (xs.take place) = .ok b
  here : ∃ e, run (xs.take (place + 1)) = .error e ∧ run xs = .error e

namespace FailsAt

variable {f : α → Except ε β} {x : α} {xs : List α}

theorem head {e : ε} (h : f x = .error e) : FailsAt (List.mapM f) (x :: xs) 0 where
  before := ⟨[], rfl⟩
  here := by
    refine ⟨e, ?_, ?_⟩ <;> simp only [List.take_succ_cons, List.mapM_cons, h] <;> rfl

theorem cons {place : Nat} {y : β} (hx : f x = .ok y) (h : FailsAt (List.mapM f) xs place) :
    FailsAt (List.mapM f) (x :: xs) (place + 1) where
  before := by
    obtain ⟨ys, hys⟩ := h.before
    refine ⟨y :: ys, ?_⟩
    rw [List.take_succ_cons, List.mapM_cons, hx, hys]
    rfl
  here := by
    obtain ⟨e, htake, hall⟩ := h.here
    refine ⟨e, ?_, ?_⟩
    · rw [List.take_succ_cons, List.mapM_cons, hx, htake]
      rfl
    · rw [List.mapM_cons, hx, hall]
      rfl

theorem map {run : List α → Except ε β} {place : Nat} (h : FailsAt run xs place) (g : β → γ) :
    FailsAt (fun xs => (run xs).map g) xs place where
  before := by
    obtain ⟨b, hb⟩ := h.before
    exact ⟨g b, by rw [hb, Except.map]⟩
  here := by
    obtain ⟨e, htake, hall⟩ := h.here
    exact ⟨e, by rw [htake, Except.map], by rw [hall, Except.map]⟩

end FailsAt

/-- Two readings that agree on each member of a list read the same from it, or fail at
the same place. -/
theorem exists_mapM_eq_or_failsAt {f g : α → Except ε β} {xs : List α}
    (h : ∀ x ∈ xs, Agree (f x) (g x)) :
    (∃ ys, xs.mapM f = .ok ys ∧ xs.mapM g = .ok ys) ∨
      ∃ place, FailsAt (List.mapM f) xs place ∧ FailsAt (List.mapM g) xs place := by
  induction xs with
  | nil => exact .inl ⟨[], rfl, rfl⟩
  | cons x xs ih =>
      obtain ⟨hx, hxs⟩ := List.forall_mem_cons.mp h
      generalize hf : f x = first at hx
      generalize hg : g x = second at hx
      cases hx with
      | error e e' => exact .inr ⟨0, .head hf, .head hg⟩
      | ok y =>
          -- The first member is good for both, so the rest decides where they fail.
          rcases ih hxs with ⟨ys, hfs, hgs⟩ | ⟨place, hfs, hgs⟩
          · refine .inl ⟨y :: ys, ?_, ?_⟩
            · rw [List.mapM_cons, hf, hfs]
              rfl
            · rw [List.mapM_cons, hg, hgs]
              rfl
          · exact .inr ⟨place + 1, hfs.cons hf, hgs.cons hg⟩

theorem agree_mapM {f g : α → Except ε β} {xs : List α} (h : ∀ x ∈ xs, Agree (f x) (g x)) :
    Agree (xs.mapM f) (xs.mapM g) := by
  rcases exists_mapM_eq_or_failsAt h with ⟨ys, hf, hg⟩ | ⟨place, hf, hg⟩
  · rw [hf, hg]
    exact .ok ys
  · obtain ⟨e, -, hf⟩ := hf.here
    obtain ⟨e', -, hg⟩ := hg.here
    rw [hf, hg]
    exact .error e e'

end Agreement

/-! ## Adding clauses -/

/-- The condition of clauses that are added one after the other. -/
def Condition.chain : List (Operator × Reference) → Except ConditionError Condition
  | [] => .ok (.all [])
  | (operator, reference) :: rest => do
    let first ← Condition.clause operator reference
    rest.foldlM (fun condition pair => condition.and pair.1 pair.2) first

/-- The clause of an operator and a reference, as a pair. -/
def buildPair (pair : Operator × Reference) : Except ConditionError Clause :=
  Clause.build pair.1 pair.2

theorem foldlM_and (pairs : List (Operator × Reference)) (clauses : List Clause) :
    pairs.foldlM (fun condition pair => condition.and pair.1 pair.2) (Condition.all clauses) =
      (pairs.mapM buildPair).map fun more => .all (clauses ++ more) := by
  induction pairs generalizing clauses with
  | nil =>
      change Except.ok _ = Except.ok (Condition.all (clauses ++ []))
      rw [List.append_nil]
  | cons pair pairs ih =>
      rw [List.foldlM_cons, List.mapM_cons, Condition.and, buildPair]
      cases Clause.build pair.1 pair.2 with
      | error e => rfl
      | ok clause =>
          change pairs.foldlM _ (Condition.all (clauses ++ [clause])) = _
          rw [ih]
          cases hrest : pairs.mapM buildPair with
          | error e => rfl
          | ok more =>
              change Except.ok (Condition.all (clauses ++ [clause] ++ more)) = _
              rw [List.append_assoc]
              rfl

/-- Building goes through the pairs and makes a clause of each. -/
theorem chain_eq_mapM (pairs : List (Operator × Reference)) :
    Condition.chain pairs = (pairs.mapM buildPair).map Condition.all := by
  cases pairs with
  | nil => rfl
  | cons pair pairs =>
      rw [Condition.chain, Condition.clause, List.mapM_cons, buildPair]
      cases Clause.build pair.1 pair.2 with
      | error e => rfl
      | ok clause =>
          change pairs.foldlM _ (Condition.all [clause]) = _
          rw [foldlM_and]
          cases pairs.mapM buildPair <;> rfl

/-! ## Clause by clause -/

/-- A document is a scalar or an array of scalars. -/
inductive Document.IsFlat : Document → Prop
  | scalar {d : Document} (h : d.IsScalar) : IsFlat d
  | array {items : List Document} (h : ∀ item ∈ items, item.IsScalar) : IsFlat (.array items)

section Clause

variable {operator : Operator} {d : Document}

theorem build_of_nested (hnested : operator.isNested = true) (reference : Reference) :
    Clause.build operator reference =
      (reference.toNested operator).map fun reference => .mk operator reference := by
  rw [Clause.build, Reference.normalize, if_pos hnested]
  cases reference.toNested operator <;> rfl

theorem build_of_pattern (hpattern : operator.isPattern = true) (reference : Reference) :
    Clause.build operator reference =
      (reference.toPatterns operator).map fun reference => .mk operator reference := by
  have hnested : operator.isNested = false := Operator.isNested_of_isPattern hpattern
  rw [Clause.build, Reference.normalize, if_neg (by simp [hnested]), if_pos hpattern]
  cases reference.toPatterns operator <;> rfl

theorem build_of_value (hnested : operator.isNested = false)
    (hpattern : operator.isPattern = false) (reference : Reference) :
    Clause.build operator reference =
      (reference.toValues operator).map fun reference => .mk operator reference := by
  rw [Clause.build, Reference.normalize, if_neg (by simp [hnested]), if_neg (by simp [hpattern])]
  cases reference.toValues operator <;> rfl

theorem mapM_ofDocument_of_isScalar {items : List Document}
    (h : ∀ item ∈ items, item.IsScalar) :
    items.mapM Condition.ofDocument =
      .ok (items.map fun item => .literal (Value.ofDocument item)) := by
  induction items with
  | nil => rfl
  | cons item items ih =>
      obtain ⟨hitem, hitems⟩ := List.forall_mem_cons.mp h
      rw [List.mapM_cons, ofDocument_of_isScalar hitem, ih hitems]
      rfl

/-- Values under an operator that nests a condition become the literals that are read. -/
theorem toNested_valuesOfDocument (hd : d.IsFlat) :
    (Reference.valuesOfDocument d).toNested operator =
      (Condition.ofDocument d).map Reference.condition := by
  cases hd with
  | scalar hscalar =>
      rw [ofDocument_of_isScalar hscalar]
      cases hscalar <;> rfl
  | array hitems =>
      rw [ofDocument_array, mapM_ofDocument_of_isScalar hitems, Reference.valuesOfDocument,
        Value.ofItems_eq_map, Reference.toNested, List.map_map]
      rfl

/-- A scalar is a pattern when its value is a text, in both ways. -/
theorem agree_pattern (hd : d.IsScalar) :
    Agree (Pattern.ofDocument d) (patternOfValue operator (Value.ofDocument d)) := by
  cases hd with
  | string source =>
      change Agree (Pattern.literal source) (Pattern.literal source)
      cases Pattern.literal source with
      | error e => exact .error e e
      | ok p => exact .ok p
  | _ => exact .error _ _

theorem patternsOfValues_eq_mapM (vs : List Value) :
    patternsOfValues operator vs = vs.mapM (patternOfValue operator) := by
  induction vs with
  | nil => rfl
  | cons v vs ih => rw [patternsOfValues, List.mapM_cons, ih]

theorem toPatterns_values (vs : List Value) :
    (Reference.values vs).toPatterns operator =
      (vs.mapM (patternOfValue operator)).map Reference.patterns := by
  rw [Reference.toPatterns, patternsOfValues_eq_mapM]
  cases vs.mapM (patternOfValue operator) <;> rfl

theorem agree_patterns (hd : d.IsFlat) :
    Agree (Reference.patternsOfDocument d)
      ((Reference.valuesOfDocument d).toPatterns operator) := by
  cases hd with
  | scalar hscalar =>
      have hpattern := (@agree_pattern operator d hscalar).map Reference.pattern
      cases hscalar with
      | string source => exact hpattern
      | _ => exact .error _ _
  | @array items hitems =>
      have hread : Reference.patternsOfDocument (.array items) =
          (items.mapM Pattern.ofDocument).map Reference.patterns := by
        rw [Reference.patternsOfDocument, patternsOfDocuments_eq_mapM]
        cases items.mapM Pattern.ofDocument <;> rfl
      have hbuilt : (Reference.valuesOfDocument (.array items)).toPatterns operator =
          (items.mapM fun item => patternOfValue operator (Value.ofDocument item)).map
            Reference.patterns := by
        rw [Reference.valuesOfDocument, Value.ofItems_eq_map, toPatterns_values, List.mapM_map]
        rfl
      rw [hread, hbuilt]
      exact (agree_mapM fun item hitem => agree_pattern (hitems item hitem)).map _

/-- The clause under a key and the clause of its values are the same, or there is none in
either way. -/
theorem agree_clause
    (hd : operator.isNested = true ∨ operator.isPattern = true → d.IsFlat) :
    Agree (clauseOfMember (operator.key, d))
      (Clause.build operator (Reference.valuesOfDocument d)) := by
  have hrefl : ∀ result : Except ConditionError Clause, Agree result result := by
    rintro (e | clause)
    · exact .error e e
    · exact .ok clause
  cases hnested : operator.isNested with
  | true =>
      rw [clauseOfMember_nested hnested, build_of_nested hnested,
        toNested_valuesOfDocument (hd (.inl hnested))]
      cases Condition.ofDocument d <;> exact hrefl _
  | false =>
      cases hpattern : operator.isPattern with
      | true =>
          rw [clauseOfMember_pattern hpattern, build_of_pattern hpattern]
          exact (agree_patterns (hd (.inr hpattern))).map _
      | false =>
          -- Both ways hand the same values to the same check.
          rw [clauseOfMember_value hnested hpattern, build_of_value hnested hpattern]
          exact hrefl _

end Clause

/-! ## The whole condition -/

/-- The condition that is read from an object with a document under the key of each
operator. -/
def readPairs (pairs : List (Operator × Document)) : Except ConditionError Condition :=
  Condition.ofDocument (.object (pairs.map fun pair => (pair.1.key, pair.2)))

/-- The condition that is built of each operator with the values of its document. -/
def buildPairs (pairs : List (Operator × Document)) : Except ConditionError Condition :=
  Condition.chain (pairs.map fun pair => (pair.1, Reference.valuesOfDocument pair.2))

/-- **Reading and building agree.**  When only scalars and arrays of scalars stand under
the operators that nest a condition or take patterns, an object is read as the condition
that is built of its clauses, or both ways fail at the same clause. -/
theorem readPairs_agrees_buildPairs {pairs : List (Operator × Document)}
    (hpairs : ∀ pair ∈ pairs,
      pair.1.isNested = true ∨ pair.1.isPattern = true → pair.2.IsFlat) :
    (∃ c, readPairs pairs = .ok c ∧ buildPairs pairs = .ok c) ∨
      ∃ place, FailsAt readPairs pairs place ∧ FailsAt buildPairs pairs place := by
  have hread : readPairs = fun pairs =>
      (pairs.mapM fun pair => clauseOfMember (pair.1.key, pair.2)).map Condition.all := by
    funext pairs
    rw [readPairs, ofDocument_object, List.mapM_map]
    rfl
  have hbuild : buildPairs = fun pairs =>
      (pairs.mapM fun pair => Clause.build pair.1 (Reference.valuesOfDocument pair.2)).map
        Condition.all := by
    funext pairs
    rw [buildPairs, chain_eq_mapM, List.mapM_map]
    rfl
  rw [hread, hbuild]
  rcases exists_mapM_eq_or_failsAt fun pair hpair => agree_clause (hpairs pair hpair) with
    ⟨clauses, hclauses, hclauses'⟩ | ⟨place, hfails, hfails'⟩
  · exact .inl ⟨.all clauses, by simp only [hclauses, Except.map],
      by simp only [hclauses', Except.map]⟩
  · exact .inr ⟨place, hfails.map _, hfails'.map _⟩

/-- Clauses of every sort, of which the last takes a pattern that is no text. -/
def lengthsAndPatterns : List (Operator × Document) :=
  [(.length, .array [.number (.whole 2), .null]),
    (.contains, .object [("a", .array [.bool true])]),
    (.type, .array [.string "string", .string "array"]),
    (.matchesNot, .array [.string "^a", .bool false])]

theorem lengthsAndPatterns_agrees :
    (∀ pair ∈ lengthsAndPatterns,
        pair.1.isNested = true ∨ pair.1.isPattern = true → pair.2.IsFlat) ∧
      ((∃ c, readPairs lengthsAndPatterns = .ok c ∧ buildPairs lengthsAndPatterns = .ok c) ∨
        ∃ place, FailsAt readPairs lengthsAndPatterns place ∧
          FailsAt buildPairs lengthsAndPatterns place) := by
  have hflat : ∀ pair ∈ lengthsAndPatterns,
      pair.1.isNested = true ∨ pair.1.isPattern = true → pair.2.IsFlat := by
    simp only [lengthsAndPatterns, List.forall_mem_cons]
    refine ⟨fun _ => .array ?_, nofun, nofun, fun _ => .array ?_, nofun⟩
    · simp only [List.forall_mem_cons]
      exact ⟨.number _, .null, nofun⟩
    · simp only [List.forall_mem_cons]
      exact ⟨.string _, .bool _, nofun⟩
  exact ⟨hflat, readPairs_agrees_buildPairs hflat⟩

end ValueAssertions
