import ValueAssertions.Proofs.Condition.CheckedMerging
import ValueAssertions.Proofs.Condition.Grammar
import ValueAssertions.Proofs.Condition.Origin

/-!
# Only normal clauses

A clause is built with a check of its reference, but not always: `Condition.and` makes
the clause of a bare value without one, and so does evaluation with the clauses that it
merges.  Still no clause comes about that is not normal.

`Condition.Obtainable` and `Clause.Obtainable` list the ways in which conditions and
clauses come about, from normal ones to begin with: by building clauses, by putting
conditions together, by reading documents, and as the reference of a failure, which may
be taken apart and built on again.  There is a lemma for each way, and
`normal_of_obtainable` puts them together.  It also says that building a normal clause
once more changes nothing, and that the unions made during evaluation are of references
of one kind.
-/

namespace ValueAssertions

/-! ## Building clauses -/

namespace Reference

variable {operator : Operator} {reference form : Reference}

/-- Normal form, field by field. -/
theorem normal_iff : reference.Normal operator ↔ reference.Suits operator ∧
    (∀ d, reference = .condition d → d.Normal) ∧
    (operator = .type → ∀ v ∈ reference.valueList, v.IsString) ∧
    (operator = .integer → ∀ v ∈ reference.valueList, v.IsBool) := by
  cases reference <;> simp [Normal, Suits, valueList, and_assoc]

theorem normal_of_toNested (hnested : operator.isNested = true)
    (hreference : ∀ d, reference = .condition d → d.Normal)
    (h : reference.toNested operator = .ok form) : form.Normal operator := by
  cases reference with
  | condition d =>
      cases h
      exact ⟨hnested, hreference d rfl⟩
  | value v =>
      cases h
      exact ⟨hnested, trivial⟩
  | values vs =>
      cases h
      refine ⟨hnested, Condition.normal_any_iff.mpr fun c hc => ?_⟩
      obtain ⟨v, -, rfl⟩ := List.mem_map.mp hc
      trivial
  | _ => cases h

theorem normal_of_toPatterns (hpattern : operator.isPattern = true)
    (h : reference.toPatterns operator = .ok form) : form.Normal operator := by
  unfold toPatterns at h
  split at h
  · cases h
    exact hpattern
  · cases h
    exact hpattern
  · obtain ⟨p, -, h⟩ := bind_eq_ok_iff.mp h
    cases h
    exact hpattern
  · obtain ⟨ps, -, h⟩ := bind_eq_ok_iff.mp h
    cases h
    exact hpattern
  · cases h

theorem normal_of_toValues (hnested : operator.isNested = false)
    (hpattern : operator.isPattern = false) (h : reference.toValues operator = .ok form) :
    form.Normal operator := by
  have hkind := kind_of_toValues h
  have hsuits : reference.Suits operator := by
    rw [suits_iff_kind_eq, hkind]
    simp [Operator.referenceKind, hnested, hpattern]
  have hcondition : ∀ d, reference ≠ .condition d := by
    rintro d rfl
    cases hkind
  rw [toValues_of_kind hkind] at h
  split at h
  · cases h
  next htype =>
  split at h
  · cases h
  next hinteger =>
  cases h
  simp only [not_and, Bool.not_eq_true', Bool.not_eq_false] at htype hinteger
  exact normal_iff.mpr ⟨hsuits, fun d hd => absurd hd (hcondition d),
    fun heq => List.all_eq_true.mp (htype heq), fun heq => List.all_eq_true.mp (hinteger heq)⟩

theorem normal_of_normalize (hreference : ∀ d, reference = .condition d → d.Normal)
    (h : reference.normalize operator = .ok form) : form.Normal operator := by
  unfold normalize at h
  split at h
  · next hnested => exact normal_of_toNested hnested hreference h
  next hnested =>
  split at h
  · next hpattern => exact normal_of_toPatterns hpattern h
  · next hpattern => exact normal_of_toValues (by simpa using hnested) (by simpa using hpattern) h

theorem toValues_of_normal (h : reference.Normal operator) (hkind : reference.kind = .value) :
    reference.toValues operator = .ok reference := by
  obtain ⟨-, -, htype, hinteger⟩ := normal_iff.mp h
  rw [toValues_of_kind hkind, if_neg, if_neg]
  · rintro ⟨heq, hnot⟩
    rw [List.all_eq_true.mpr (hinteger heq)] at hnot
    cases hnot
  · rintro ⟨heq, hnot⟩
    rw [List.all_eq_true.mpr (htype heq)] at hnot
    cases hnot

/-- A normal reference already has the form that its operator expects. -/
theorem normalize_of_normal (h : reference.Normal operator) :
    reference.normalize operator = .ok reference := by
  have hsuits := (normal_iff.mp h).1
  unfold normalize
  cases reference with
  | condition d =>
      have hnested : operator.isNested = true := hsuits
      rw [if_pos hnested, toNested]
  | pattern p =>
      have hpattern : operator.isPattern = true := hsuits
      rw [if_neg (by simp [Operator.isNested_of_isPattern hpattern]), if_pos hpattern, toPatterns]
  | patterns ps =>
      have hpattern : operator.isPattern = true := hsuits
      rw [if_neg (by simp [Operator.isNested_of_isPattern hpattern]), if_pos hpattern, toPatterns]
  | value v =>
      rw [if_neg (by simp [hsuits.1]), if_neg (by simp [hsuits.2])]
      exact toValues_of_normal h rfl
  | values vs =>
      rw [if_neg (by simp [hsuits.1]), if_neg (by simp [hsuits.2])]
      exact toValues_of_normal h rfl

end Reference

/-- **Building a clause.** -/
theorem Clause.normal_of_build {operator : Operator} {reference : Reference} {clause : Clause}
    (hreference : ∀ d, reference = .condition d → d.Normal)
    (h : Clause.build operator reference = .ok clause) : clause.Normal := by
  obtain ⟨form, hform, h⟩ := bind_eq_ok_iff.mp h
  cases h
  exact Reference.normal_of_normalize hreference hform

/-- **Building a normal clause once more.** -/
theorem Clause.build_of_normal {clause : Clause} (h : clause.Normal) :
    Clause.build clause.operator clause.reference = .ok clause := by
  obtain ⟨operator, reference⟩ := clause
  refine bind_eq_ok_iff.mpr ⟨reference, Reference.normalize_of_normal h, rfl⟩

/-- The clause that a bare value stands for needs no check. -/
theorem Clause.normal_eq_value (v : Value) : (Clause.mk .eq (.value v)).Normal := by
  simp [Clause.Normal, Reference.Normal, Operator.isNested, Operator.isPattern]

/-! ## Building conditions -/

namespace Condition

variable {operator : Operator} {reference : Reference} {c d : Condition}

theorem normal_of_clause (hreference : ∀ d, reference = .condition d → d.Normal)
    (h : Condition.clause operator reference = .ok c) : c.Normal := by
  obtain ⟨clause, hclause, h⟩ := bind_eq_ok_iff.mp h
  cases h
  exact normal_all_iff.mpr (by simpa using Clause.normal_of_build hreference hclause)

/-- A normal clause makes a condition as it stands. -/
theorem clause_of_normal (h : (Clause.mk operator reference).Normal) :
    Condition.clause operator reference = .ok (.all [.mk operator reference]) :=
  bind_eq_ok_iff.mpr ⟨.mk operator reference, Clause.build_of_normal h, rfl⟩

theorem normal_of_and (hc : c.Normal) (hreference : ∀ d, reference = .condition d → d.Normal)
    (h : c.and operator reference = .ok d) : d.Normal := by
  obtain ⟨clause, hclause, h⟩ := bind_eq_ok_iff.mp h
  have hnew : clause.Normal := Clause.normal_of_build hreference hclause
  cases c with
  | literal v =>
      cases h
      exact normal_all_iff.mpr (by simp [Clause.normal_eq_value v, hnew])
  | all clauses =>
      cases h
      refine normal_all_iff.mpr (List.forall_mem_append.mpr ⟨normal_all_iff.mp hc, ?_⟩)
      simpa using hnew
  | any alternatives => cases h

end Condition

/-! ## Reading documents -/

/-- The clause of a key is built from a reference whose condition, if it is one, was
read from what stands under the key. -/
theorem exists_build_of_clauseOfMember {key : String} {d : Document} {clause : Clause}
    (h : clauseOfMember (key, d) = .ok clause) :
    ∃ operator reference, Clause.build operator reference = .ok clause ∧
      ∀ c, reference = .condition c → Condition.ofDocument d = .ok c := by
  rw [clauseOfMember] at h
  cases hoperator : Operator.ofKey? key with
  | none =>
      rw [hoperator] at h
      cases h
  | some operator =>
      simp only [hoperator] at h
      split at h
      · obtain ⟨reference, hread, h⟩ := bind_eq_ok_iff.mp h
        obtain ⟨c, hc, rfl⟩ := map_eq_ok_iff.mp hread
        refine ⟨operator, _, h, fun _ heq => ?_⟩
        cases heq
        exact hc
      split at h
      · obtain ⟨reference, hread, h⟩ := bind_eq_ok_iff.mp h
        refine ⟨operator, reference, h, ?_⟩
        rintro c rfl
        cases (((readsAs_patterns d).ok_iff _).mp hread).2
      · refine ⟨operator, _, h, ?_⟩
        intro c hc
        cases d <;> cases hc

theorem Condition.normal_of_ofDocument {d : Document} {c : Condition}
    (h : Condition.ofDocument d = .ok c) : c.Normal := by
  induction d using Document.induction generalizing c with
  | scalar d hscalar =>
      rw [ofDocument_of_isScalar hscalar] at h
      cases h
      trivial
  | array items ih =>
      rw [ofDocument_array, map_eq_ok_iff] at h
      obtain ⟨alternatives, hread, rfl⟩ := h
      refine normal_any_iff.mpr fun c hc => ?_
      obtain ⟨d, hd, hread⟩ := exists_of_mem_of_mapM_eq_ok hread hc
      exact ih d hd hread
  | object members ih =>
      rw [ofDocument_object, map_eq_ok_iff] at h
      obtain ⟨clauses, hread, rfl⟩ := h
      refine normal_all_iff.mpr fun clause hclause => ?_
      obtain ⟨⟨key, d⟩, hmember, hread⟩ := exists_of_mem_of_mapM_eq_ok hread hclause
      obtain ⟨operator, reference, hbuild, hnested⟩ := exists_build_of_clauseOfMember hread
      exact Clause.normal_of_build (fun c hc => ih key d hmember (hnested c hc)) hbuild

/-! ## Every clause of a condition -/

/-- Every clause of a condition has a property, at any depth. -/
def Condition.Every (P : Clause → Prop) (c : Condition) : Prop :=
  ∀ clauses, (Condition.all clauses).Occurs c → ∀ clause ∈ clauses, P clause

section Every

variable {P : Clause → Prop}

theorem Condition.Every.of_occurs {c d : Condition} (h : c.Every P) (hd : d.Occurs c) :
    d.Every P :=
  fun clauses hoccurs => h clauses (hoccurs.trans hd)

theorem every_any_iff {alternatives : List Condition} :
    (Condition.any alternatives).Every P ↔ ∀ c ∈ alternatives, c.Every P := by
  constructor
  · intro h c hmem clauses hoccurs
    exact h clauses (.alternative hmem hoccurs)
  · intro h clauses hoccurs
    cases hoccurs with
    | alternative hmem hoccurs => exact h _ hmem clauses hoccurs

theorem every_all_iff {clauses : List Clause} :
    (Condition.all clauses).Every P ↔
      ∀ clause ∈ clauses, P clause ∧ ∀ d, clause.reference = .condition d → d.Every P := by
  constructor
  · rintro h ⟨operator, reference⟩ hmem
    refine ⟨h clauses .self _ hmem, ?_⟩
    rintro d rfl others hoccurs
    exact h others (.nested hmem hoccurs)
  · intro h others hoccurs clause hclause
    cases hoccurs with
    | self => exact (h clause hclause).1
    | nested hmem hoccurs => exact (h _ hmem).2 _ rfl others hoccurs clause hclause

/-- A normal condition is one of normal clauses. -/
theorem every_normal_iff (c : Condition) : c.Every Clause.Normal ↔ c.Normal := by
  induction c using Condition.induction with
  | literal x =>
      constructor
      · intro _
        trivial
      · intro _ clauses hoccurs
        rw [Condition.occurs_literal_iff] at hoccurs
        cases hoccurs
  | all clauses _ =>
      constructor
      · intro h
        exact Condition.normal_all_iff.mpr (h clauses .self)
      · intro h others hoccurs
        exact Condition.normal_all_iff.mp (hoccurs.normal h)
  | any alternatives ih =>
      rw [every_any_iff, Condition.normal_any_iff]
      exact forall₂_congr ih

/-- What a condition contributes is bare values and clauses that occur in it. -/
theorem mem_of_contributes {c : Condition} {pairs : List (Operator × Reference)}
    (h : Contributes c pairs) : ∀ pair ∈ pairs, (∃ x, pair = (.eq, .value x)) ∨
      ∃ clauses, (Condition.all clauses).Occurs c ∧ .mk pair.1 pair.2 ∈ clauses := by
  induction h with
  | literal x =>
      intro pair hpair
      exact .inl ⟨x, List.mem_singleton.mp hpair⟩
  | all clauses =>
      intro pair hpair
      obtain ⟨⟨operator, reference⟩, hmem, rfl⟩ := List.mem_map.mp hpair
      exact .inr ⟨clauses, .self, hmem⟩
  | none =>
      intro pair hpair
      cases hpair
  | first _ _ ihfirst ihrest =>
      intro pair hpair
      rcases List.mem_append.mp hpair with hpair | hpair
      · rcases ihfirst pair hpair with hvalue | ⟨clauses, hoccurs, hmem⟩
        · exact .inl hvalue
        · exact .inr ⟨clauses, .alternative List.mem_cons_self hoccurs, hmem⟩
      · rcases ihrest pair hpair with hvalue | ⟨clauses, hoccurs, hmem⟩
        · exact .inl hvalue
        · -- What occurs in the rest of the alternatives occurs in all of them.
          cases hoccurs with
          | alternative hc hoccurs =>
              exact .inr ⟨clauses, .alternative (List.mem_cons_of_mem _ hc) hoccurs, hmem⟩

theorem every_of_merge_eq_condition {first second : Reference} {d : Condition}
    (hfirst : ∀ c, first = .condition c → c.Every P)
    (hsecond : ∀ c, second = .condition c → c.Every P)
    (h : first.merge second = .condition d) : d.Every P := by
  unfold Reference.merge at h
  split at h
  · cases h
    exact every_any_iff.mpr (List.forall_mem_append.mpr
      ⟨every_any_iff.mp (hfirst _ rfl), by simpa using hsecond _ rfl⟩)
  · cases h
    exact every_any_iff.mpr (by simp [hfirst _ rfl, hsecond _ rfl])
  all_goals first | exact hfirst _ h | cases h

namespace KeptByMerging

/-- The clauses merged from alternatives have what all clauses of the alternatives
have. -/
theorem forall_mem_mergeAlternatives (hP : KeptByMerging P) {alternatives : List Condition}
    (h : (Condition.any alternatives).Every P) : ∀ c ∈ mergeAlternatives alternatives, P c := by
  refine hP.forall_mem_foldl (fun pair hpair => ?_) (by simp)
  rcases mem_of_contributes (contributes_flattenAlternatives alternatives) pair hpair with
    ⟨x, rfl⟩ | ⟨clauses, hoccurs, hmem⟩
  · exact hP.literal x
  · exact h clauses hoccurs _ hmem

/-- So do the conditions nested in them. -/
theorem nested (hP : KeptByMerging P) : KeptByMerging fun clause =>
    P clause ∧ ∀ d, clause.reference = .condition d → d.Every P where
  literal x := ⟨hP.literal x, nofun⟩
  merge operator first second hfirst hsecond := by
    refine ⟨hP.merge operator first second hfirst.1 hsecond.1, fun d hd => ?_⟩
    exact every_of_merge_eq_condition hfirst.2 hsecond.2 hd

end KeptByMerging

end Every

/-! ## The reference of a failure -/

theorem Reference.mem_valueList_merge {first second : Reference} {v : Value}
    (h : v ∈ (first.merge second).valueList) : v ∈ first.valueList ∨ v ∈ second.valueList := by
  unfold Reference.merge at h
  split at h <;> simp_all [Reference.valueList]

theorem keptByMerging_normal : KeptByMerging Clause.Normal where
  literal := Clause.normal_eq_value
  merge operator first second hfirst hsecond := by
    obtain ⟨hsuits, hcondition, htype, hinteger⟩ := Reference.normal_iff.mp hfirst
    obtain ⟨hsuits', hcondition', htype', hinteger'⟩ := Reference.normal_iff.mp hsecond
    refine Reference.normal_iff.mpr ⟨?_, fun d hd => ?_, fun heq v hv => ?_, fun heq v hv => ?_⟩
    · exact keptByMerging_suits.merge operator first second hsuits hsuits'
    · exact (every_normal_iff d).mp (every_of_merge_eq_condition
        (fun c hc => (every_normal_iff c).mpr (hcondition c hc))
        (fun c hc => (every_normal_iff c).mpr (hcondition' c hc)) hd)
    · exact (Reference.mem_valueList_merge hv).elim (htype heq v) (htype' heq v)
    · exact (Reference.mem_valueList_merge hv).elim (hinteger heq v) (hinteger' heq v)

/-- **What failures report.**  What merging keeps is true of the clauses in the
reference of a failure, if it is of those in the condition. -/
theorem every_of_reported {P : Clause → Prop} (hP : KeptByMerging P) {c d : Condition}
    (hc : c.Normal) (hevery : c.Every P) {v : Value} {failure : Failure}
    (hfail : c.evaluate v = .fail failure) (hreference : failure.reference = .condition d) :
    d.Every P := by
  cases origin_of_evaluate_eq_fail hc hfail with
  | literal _ _ hvalue =>
      rw [hreference] at hvalue
      cases hvalue
  | clause hoccurs hmem =>
      rw [hreference] at hmem
      exact hevery.of_occurs ((Condition.Occurs.nested hmem .self).trans hoccurs)
  | alternatives hoccurs _ _ hmerged =>
      rw [hreference] at hmerged
      cases hmerged
      -- Unions also make new nested conditions, so these are kept along with the clauses.
      refine every_all_iff.mpr (hP.nested.forall_mem_mergeAlternatives ?_)
      exact fun clauses hinner => every_all_iff.mp (hevery.of_occurs (hinner.trans hoccurs))

theorem normal_of_reported {c d : Condition} (hc : c.Normal) {v : Value} {failure : Failure}
    (hfail : c.evaluate v = .fail failure) (hreference : failure.reference = .condition d) :
    d.Normal :=
  (every_normal_iff d).mp
    (every_of_reported keptByMerging_normal hc ((every_normal_iff c).mpr hc) hfail hreference)

/-! ## All conditions and clauses -/

mutual

/-- A condition comes about, from normal ones to begin with. -/
inductive Condition.Obtainable : Condition → Prop
  | normal {c : Condition} (h : c.Normal) : Condition.Obtainable c
  | all {clauses : List Clause} (h : ∀ clause ∈ clauses, Clause.Obtainable clause) :
      Condition.Obtainable (.all clauses)
  | any {alternatives : List Condition} (h : ∀ c ∈ alternatives, Condition.Obtainable c) :
      Condition.Obtainable (.any alternatives)
  | clause {operator : Operator} {reference : Reference} {c : Condition}
      (hreference : ∀ d, reference = .condition d → Condition.Obtainable d)
      (h : Condition.clause operator reference = .ok c) : Condition.Obtainable c
  | and {operator : Operator} {reference : Reference} {c d : Condition}
      (hc : Condition.Obtainable c)
      (hreference : ∀ d, reference = .condition d → Condition.Obtainable d)
      (h : c.and operator reference = .ok d) : Condition.Obtainable d
  | document {d : Document} {c : Condition} (h : Condition.ofDocument d = .ok c) :
      Condition.Obtainable c
  | reported {c d : Condition} {v : Value} {failure : Failure} (hc : Condition.Obtainable c)
      (hfail : c.evaluate v = .fail failure) (hreference : failure.reference = .condition d) :
      Condition.Obtainable d
  | part {c d : Condition} (hc : Condition.Obtainable c) (h : d.Occurs c) :
      Condition.Obtainable d

/-- A clause comes about. -/
inductive Clause.Obtainable : Clause → Prop
  | build {operator : Operator} {reference : Reference} {clause : Clause}
      (hreference : ∀ d, reference = .condition d → Condition.Obtainable d)
      (h : Clause.build operator reference = .ok clause) : Clause.Obtainable clause
  | part {clauses : List Clause} {clause : Clause} (hclauses : Condition.Obtainable (.all clauses))
      (h : clause ∈ clauses) : Clause.Obtainable clause

end

mutual

theorem Condition.Obtainable.isNormal {c : Condition} : c.Obtainable → c.Normal
  | .normal h => h
  | .all h => Condition.normal_all_iff.mpr fun clause hmem => (h clause hmem).isNormal
  | .any h => Condition.normal_any_iff.mpr fun c hmem => (h c hmem).isNormal
  | .clause hreference h => Condition.normal_of_clause (fun d hd => (hreference d hd).isNormal) h
  | .and hc hreference h =>
      Condition.normal_of_and hc.isNormal (fun d hd => (hreference d hd).isNormal) h
  | .document h => Condition.normal_of_ofDocument h
  | .reported hc hfail hreference => normal_of_reported hc.isNormal hfail hreference
  | .part hc h => h.normal hc.isNormal

theorem Clause.Obtainable.isNormal {clause : Clause} : clause.Obtainable → clause.Normal
  | .build hreference h => Clause.normal_of_build (fun d hd => (hreference d hd).isNormal) h
  | .part hclauses h => Condition.normal_all_iff.mp hclauses.isNormal _ h

end

end ValueAssertions
