import ValueAssertions.Proofs.Condition.Grammar

/-!
# Which operator is blamed

Two places of the reader reject a reference: a document that should be a pattern and is
neither a text nor an object is rejected while patterns are read, and what stands under
`type` and `integer` is rejected when the clause is built.  The error names an operator.

The main statement is `invalidReference_blames_firstRejected`.  The reference that is
rejected stands under the first key, in the order of the document, whose operator
rejects the shape of what stands under it, and the operator in the error is that of the
key, except under `matchesNot`: there `matches` is blamed, since patterns are read
without their operator.

## Strategy

`Document.clauses` lists the keys of a document with what stands under each.  What is
valid has no rejected reference among them (`not_rejects_of_valid`).  A fault that is a
rejected reference is one of the first among them, by induction on the document
(`firstOf_clauses_of_fault`): a fault is that of the first place that does not fit, and
the clauses of what comes before it are those of valid documents.
-/

namespace ValueAssertions

open ReadsAs (FirstOf)

/-! ## The clauses of a document -/

mutual

/-- The clauses in a document, each a key with what stands under it, in the order in
which they are written.  Under `length` and `each` there are further clauses. -/
def Document.clauses : Document → List (String × Document)
  | .array items => clausesInItems items
  | .object members => clausesInMembers members
  | _ => []

/-- The clauses in the items of an array. -/
def clausesInItems : List Document → List (String × Document)
  | [] => []
  | item :: rest => item.clauses ++ clausesInItems rest

/-- The clauses in the members of an object. -/
def clausesInMembers : List (String × Document) → List (String × Document)
  | [] => []
  | (key, d) :: rest =>
    (key, d) :: (if key ∈ ["length", "each"] then d.clauses else []) ++ clausesInMembers rest

end

/-- The clause of a member of an object, and those in what stands under it. -/
def clausesUnder (member : String × Document) : List (String × Document) :=
  member :: if member.1 ∈ ["length", "each"] then member.2.clauses else []

theorem mem_clausesUnder {key : String} {d : Document} {clause : String × Document} :
    clause ∈ clausesUnder (key, d) ↔
      clause = (key, d) ∨ key ∈ ["length", "each"] ∧ clause ∈ d.clauses := by
  rw [clausesUnder, List.mem_cons]
  by_cases hkey : key ∈ ["length", "each"]
  · rw [if_pos hkey, and_iff_right hkey]
  · rw [if_neg hkey]
    simp [hkey]

theorem clausesInItems_eq_flatMap (items : List Document) :
    clausesInItems items = items.flatMap Document.clauses := by
  induction items with
  | nil => rw [clausesInItems, List.flatMap_nil]
  | cons item rest ih => rw [clausesInItems, List.flatMap_cons, ih]

theorem clausesInMembers_eq_flatMap (members : List (String × Document)) :
    clausesInMembers members = members.flatMap clausesUnder := by
  induction members with
  | nil => rw [clausesInMembers, List.flatMap_nil]
  | cons member rest ih =>
      obtain ⟨key, d⟩ := member
      rw [clausesInMembers, List.flatMap_cons, ih, clausesUnder]

/-! ## Rejected references -/

/-- A document is a text or an object: it has the shape of a pattern, be it one or not. -/
inductive IsTextOrObject : Document → Prop
  | text (text : String) : IsTextOrObject (.string text)
  | object (members : List (String × Document)) : IsTextOrObject (.object members)

/-- The operator of a key rejects the shape of what stands under it.  Only pattern
operators, `type` and `integer` do. -/
inductive Rejects : String × Document → Prop
  | pattern {key : String} {d : Document} (hkey : key ∈ ["matches", "matchesNot"])
      (h : ¬ OneOrMore IsTextOrObject d) : Rejects (key, d)
  | type {key : String} {d : Document} (hkey : key = "type") (h : ¬ OneOrMore IsText d) :
      Rejects (key, d)
  | integer {key : String} {d : Document} (hkey : key = "integer")
      (h : ¬ OneOrMore IsTruth d) : Rejects (key, d)

theorem rejects_key_iff (operator : Operator) (d : Document) :
    Rejects (operator.key, d) ↔
      operator.isPattern = true ∧ ¬ OneOrMore IsTextOrObject d ∨
      operator = .type ∧ ¬ OneOrMore IsText d ∨
      operator = .integer ∧ ¬ OneOrMore IsTruth d := by
  constructor
  · intro h
    cases h with
    | pattern hkey h => exact .inl ⟨(Operator.key_mem_pattern_iff operator).mp hkey, h⟩
    | type hkey h => exact .inr (.inl ⟨(Operator.key_eq_type_iff operator).mp hkey, h⟩)
    | integer hkey h => exact .inr (.inr ⟨(Operator.key_eq_integer_iff operator).mp hkey, h⟩)
  · rintro (⟨hpattern, h⟩ | ⟨rfl, h⟩ | ⟨rfl, h⟩)
    · exact .pattern ((Operator.key_mem_pattern_iff operator).mpr hpattern) h
    · exact .type rfl h
    · exact .integer rfl h

theorem OneOrMore.mono {kind kind' : Document → Prop} (h : ∀ d, kind d → kind' d) {d : Document}
    (hd : OneOrMore kind d) : OneOrMore kind' d := by
  cases hd with
  | one hone => exact .one (h d hone)
  | several hitems => exact .several fun item hmem => h item (hitems item hmem)

theorem isTextOrObject_of_isPattern {d : Document} (h : IsPattern d) : IsTextOrObject d := by
  obtain ⟨source, flags, hsource, -⟩ := h
  cases hsource with
  | text => exact .text source
  | object => exact .object _

/-! ## Valid documents -/

/-- What fits under a key has a shape that the operator takes. -/
theorem not_rejects_of_fits {member : String × Document} (h : Fits member) :
    ¬ Rejects member := by
  obtain ⟨key, d⟩ := member
  obtain ⟨operator, rfl⟩ := exists_operator_of_fits h
  rw [rejects_key_iff]
  rintro (⟨hpattern, hreject⟩ | ⟨rfl, hreject⟩ | ⟨rfl, hreject⟩)
  · have hpatterns : OneOrMore IsPattern d := (fits_pattern_iff hpattern).mp h
    exact hreject (hpatterns.mono fun _ => isTextOrObject_of_isPattern)
  · have htexts : OneOrMore IsText d := by
      simpa [Operator.isNested, Operator.isPattern] using (fits_key_iff .type d).mp h
    exact hreject htexts
  · have htruths : OneOrMore IsTruth d := by
      simpa [Operator.isNested, Operator.isPattern] using (fits_key_iff .integer d).mp h
    exact hreject htruths

/-- Operators for nested conditions take every document. -/
theorem not_rejects_of_nested {key : String} {d : Document} (hkey : key ∈ ["length", "each"]) :
    ¬ Rejects (key, d) := by
  obtain ⟨operator, rfl⟩ := Operator.exists_of_mem_keys (by decide) hkey
  have hnested := (Operator.key_mem_nested_iff operator).mp hkey
  rw [rejects_key_iff]
  rintro (⟨hpattern, -⟩ | ⟨rfl, -⟩ | ⟨rfl, -⟩)
  · rw [Operator.isPattern_of_isNested hnested] at hpattern
    cases hpattern
  · cases hnested
  · cases hnested

theorem valid_of_fits {key : String} {d : Document} (hkey : key ∈ ["length", "each"])
    (h : Fits (key, d)) : d.Valid := by
  obtain ⟨operator, rfl⟩ := exists_operator_of_fits h
  exact (fits_nested_iff ((Operator.key_mem_nested_iff operator).mp hkey)).mp h

/-- No reference under a key that fits is rejected, if none in what stands there is. -/
theorem not_rejects_under {key : String} {d : Document}
    (hvalid : d.Valid → ∀ clause ∈ d.clauses, ¬ Rejects clause) (h : Fits (key, d)) :
    ∀ clause ∈ clausesUnder (key, d), ¬ Rejects clause := by
  intro clause hmem
  rcases mem_clausesUnder.mp hmem with rfl | ⟨hkey, hclause⟩
  · exact not_rejects_of_fits h
  · exact hvalid (valid_of_fits hkey h) clause hclause

/-- No reference in a valid document is rejected. -/
theorem not_rejects_of_valid {d : Document} (h : d.Valid) :
    ∀ clause ∈ d.clauses, ¬ Rejects clause := by
  induction d using Document.induction with
  | scalar d hscalar => cases hscalar <;> simp [Document.clauses]
  | array items ih =>
      rw [Document.clauses, clausesInItems_eq_flatMap]
      intro clause hmem
      obtain ⟨item, hitem, hclause⟩ := List.mem_flatMap.mp hmem
      cases h with
      | scalar hscalar => cases hscalar
      | array hitems => exact ih item hitem (hitems item hitem) clause hclause
  | object members ih =>
      rw [Document.clauses, clausesInMembers_eq_flatMap]
      intro clause hmem
      obtain ⟨⟨key, d⟩, hmember, hclause⟩ := List.mem_flatMap.mp hmem
      cases h with
      | scalar hscalar => cases hscalar
      | object hfits =>
          exact not_rejects_under (ih key d hmember) (hfits (key, d) hmember) clause hclause

/-! ## Faults -/

/-- What the error says of a clause that is rejected: it names the operator of the key,
except that it names `matches` for `matchesNot`. -/
structure Blamed (clause : String × Document) (operator : Operator) : Prop where
  rejects : Rejects clause
  own : operator.key = clause.1 ↔ clause.1 ≠ "matchesNot"
  negated : clause.1 = "matchesNot" → operator = .matches

/-- A reference that is rejected while patterns are read is blamed on `matches`. -/
theorem not_textOrObject_of_patternFault {d : Document} {operator : Operator}
    {fault : ReferenceFault} (h : PatternFault d (.invalidReference operator fault)) :
    ¬ IsTextOrObject d ∧ operator = .matches := by
  cases h with
  | notPattern htext hobject =>
      refine ⟨fun hshape => ?_, rfl⟩
      cases hshape with
      | text text => exact htext text rfl
      | object members => exact hobject members rfl

theorem not_oneOrMore_of_patternsFault {d : Document} {operator : Operator}
    {fault : ReferenceFault} (h : PatternsFault d (.invalidReference operator fault)) :
    ¬ OneOrMore IsTextOrObject d ∧ operator = .matches := by
  cases h with
  | one harray h =>
      rw [oneOrMore_iff harray]
      exact not_textOrObject_of_patternFault h
  | @item before after d _ _ h =>
      obtain ⟨hshape, hoperator⟩ := not_textOrObject_of_patternFault h
      rw [oneOrMore_array_iff nofun]
      exact ⟨fun hall => hshape (hall d (by simp)), hoperator⟩

theorem firstOf_clausesUnder_of_faultUnder {member : String × Document} {operator : Operator}
    {fault : ReferenceFault}
    (hnested : Fault member.2 (.invalidReference operator fault) →
      FirstOf (¬ Rejects ·) Blamed member.2.clauses operator)
    (h : FaultUnder member (.invalidReference operator fault)) :
    FirstOf (¬ Rejects ·) Blamed (clausesUnder member) operator := by
  rw [clausesUnder, ReadsAs.firstOf_cons]
  cases h with
  | nested hkey h =>
      rw [if_pos hkey]
      exact .inr ⟨not_rejects_of_nested hkey, hnested h⟩
  | @pattern key _ _ hkey h =>
      obtain ⟨hshape, rfl⟩ := not_oneOrMore_of_patternsFault h
      refine .inl ⟨.pattern hkey hshape, ?_, fun _ => rfl⟩
      rcases List.mem_pair.mp hkey with rfl | rfl <;> simp [Operator.key]
  | type hkey h => exact .inl ⟨.type hkey h, by simp [hkey, Operator.key], by simp [hkey]⟩
  | integer hkey h => exact .inl ⟨.integer hkey h, by simp [hkey, Operator.key], by simp [hkey]⟩

/-- A fault that is a rejected reference is that of the first clause with one. -/
theorem firstOf_clauses_of_fault {d : Document} {operator : Operator} {fault : ReferenceFault}
    (h : Fault d (.invalidReference operator fault)) :
    FirstOf (¬ Rejects ·) Blamed d.clauses operator := by
  induction d using Document.induction with
  | scalar d hscalar => cases hscalar <;> cases h
  | array items ih =>
      rw [Document.clauses, clausesInItems_eq_flatMap]
      cases h with
      | @item before after d _ hbefore h =>
          -- What stands before the fault is valid, so that nothing in it is rejected.
          have hfirst : FirstOf Document.Valid Fault (before ++ d :: after)
              (.invalidReference operator fault) := ⟨before, d, after, rfl, hbefore, h⟩
          exact hfirst.flatMap (fun item _ hvalid => not_rejects_of_valid hvalid) ih
  | object members ih =>
      rw [Document.clauses, clausesInMembers_eq_flatMap]
      cases h with
      | @member before after member _ hbefore h =>
          have hfirst : FirstOf Fits FaultUnder (before ++ member :: after)
              (.invalidReference operator fault) := ⟨before, member, after, rfl, hbefore, h⟩
          exact hfirst.flatMap
            (fun (_, _) _ hfits => not_rejects_under not_rejects_of_valid hfits)
            fun (key, d) hmem => firstOf_clausesUnder_of_faultUnder (ih key d hmem)

/-! ## The operator in the error -/

/-- **Which operator is blamed.**  An error about a reference comes from the first clause
whose operator rejects the shape of its reference.  It names that operator exactly when
it is not `matchesNot`, in whose place `matches` is named. -/
theorem invalidReference_blames_firstRejected {d : Document} {operator : Operator}
    {fault : ReferenceFault}
    (h : Condition.ofDocument d = .error (.invalidReference operator fault)) :
    ∃ before key reference after, d.clauses = before ++ (key, reference) :: after ∧
      (∀ clause ∈ before, ¬ Rejects clause) ∧ Rejects (key, reference) ∧
      (operator.key = key ↔ key ≠ "matchesNot") ∧ (key = "matchesNot" → operator = .matches) := by
  have hfault : Fault d (.invalidReference operator fault) :=
    ((readsAs_ofDocument d).error_iff _).mp h
  obtain ⟨before, ⟨key, reference⟩, after, heq, hbefore, hblamed⟩ :=
    firstOf_clauses_of_fault hfault
  exact ⟨before, key, reference, after, heq, hbefore, hblamed.rejects, hblamed.own,
    hblamed.negated⟩

/-- A document with two rejected references, the first of them two levels deep. -/
def nullAmongPatterns : Document :=
  .object [
    ("each", .array [.object [("lt", .null), ("matchesNot", .array [.string "a", .null])]]),
    ("type", .null)]

theorem nullAmongPatterns_blames_matches :
    Condition.ofDocument nullAmongPatterns =
      .error (.invalidReference .matches (.notPatternDocument "null")) ∧
    ∃ before key reference after,
      nullAmongPatterns.clauses = before ++ (key, reference) :: after ∧
      (∀ clause ∈ before, ¬ Rejects clause) ∧ Rejects (key, reference) ∧
      (Operator.matches.key = key ↔ key ≠ "matchesNot") ∧
      (key = "matchesNot" → Operator.matches = .matches) := by
  have hread : Condition.ofDocument nullAmongPatterns =
      .error (.invalidReference .matches (.notPatternDocument "null")) := by
    rfl
  exact ⟨hread, invalidReference_blames_firstRejected hread⟩

/-- It is not so that an error about a reference always names the operator of the first
clause with a rejected reference: for the number 5 under `matchesNot` it names `matches`. -/
theorem not_forall_blames_own_operator :
    ¬ ∀ (d : Document) (operator : Operator) (fault : ReferenceFault),
      Condition.ofDocument d = .error (.invalidReference operator fault) →
      ∃ before key reference after, d.clauses = before ++ (key, reference) :: after ∧
        (∀ clause ∈ before, ¬ Rejects clause) ∧ Rejects (key, reference) ∧
        operator.key = key := by
  intro hall
  obtain ⟨before, key, reference, after, heq, -, -, hkey⟩ :=
    hall (.object [("matchesNot", .number (.whole 5))]) .matches (.notPatternDocument "5") (by rfl)
  -- There is but one clause.
  have hmem : (key, reference) ∈ [("matchesNot", Document.number (.whole 5))] := by
    change [("matchesNot", Document.number (.whole 5))] = before ++ (key, reference) :: after at heq
    rw [heq]
    simp
  obtain ⟨rfl, -⟩ : key = "matchesNot" ∧ reference = .number (.whole 5) := by simpa using hmem
  exact absurd hkey (by decide)

end ValueAssertions
