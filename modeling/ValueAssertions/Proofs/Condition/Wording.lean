import ValueAssertions.Proofs.Condition.Building
import ValueAssertions.Proofs.Condition.Description
import ValueAssertions.Proofs.Text.Joined
import ValueAssertions.Proofs.Text.Quoted

/-!
# Building a clause keeps its wording

When a clause is built, its reference takes the form that the operator expects: values
become literals or alternatives under `length` and `each`, and texts become patterns under
`matches` and `matchesNot`.  Each form has a printer of its own, and the printers agree.

The one exception is a pattern that was given as text.  As a value it is shown with escapes,
as a pattern it stands between quotes as it is.  So the wording is kept exactly when no
character of such a text has to be escaped (`describe_build_iff`).

With a list of texts, the phrase of a pattern is never longer than that of its text
(`length_display_le`).  So there is nothing that could make up for an escape when the phrases
are joined (`joinAlternatives_map_eq_iff`).
-/

namespace ValueAssertions

/-! ## Texts and the patterns that they write -/

/-- A text whose characters all stand for themselves between quotes. -/
def IsVerbatim (s : String) : Prop :=
  ∀ c ∈ s.toList, Quoted.Verbatim c

instance (s : String) : Decidable (IsVerbatim s) :=
  List.decidableBAll Quoted.Verbatim s.toList

section Pattern

variable {p : Pattern} {source : String}

theorem literal_eq_ok (h : Pattern.literal source = .ok p) :
    p.source = source ∧ p.flags = none :=
  ((readsAs_ofSource? source none).ok_iff p).mp h |>.2

theorem display_of_flags_eq_none (h : p.flags = none) :
    p.display = "\"" ++ p.source ++ "\"" := by
  rw [Pattern.display, h]

theorem length_display (h : p.flags = none) : p.display.length = p.source.length + 2 := by
  have hquote : "\"".length = 1 := rfl
  rw [display_of_flags_eq_none h, String.length_append, String.length_append, hquote]
  omega

theorem quoted_string (s : String) :
    (Value.string s).quoted = String.ofList (Quoted.encode s.toList) :=
  rfl

theorem length_display_le (h : p.flags = none) :
    p.display.length ≤ (Value.string p.source).quoted.length := by
  rw [length_display h, quoted_string, String.length_ofList]
  exact Quoted.length_le_length_encode p.source.toList

theorem length_display_eq_iff (h : p.flags = none) :
    p.display.length = (Value.string p.source).quoted.length ↔ IsVerbatim p.source := by
  rw [length_display h, quoted_string, String.length_ofList, eq_comm]
  exact Quoted.length_encode_eq_iff

theorem display_eq_quoted (h : p.flags = none) (hverbatim : IsVerbatim p.source) :
    p.display = (Value.string p.source).quoted := by
  rw [display_of_flags_eq_none h, quoted_string, Quoted.encode_of_forall_verbatim hverbatim]
  apply String.toList_inj.mp
  simp

end Pattern

/-- The texts of patterns that were read from values. -/
theorem eq_map_of_mapM_patternOfValue {operator : Operator} {vs : List Value} {ps : List Pattern}
    (h : vs.mapM (patternOfValue operator) = .ok ps) :
    vs = ps.map (fun p => .string p.source) ∧ ∀ p ∈ ps, p.flags = none := by
  induction vs generalizing ps with
  | nil =>
      cases h
      exact ⟨rfl, nofun⟩
  | cons v vs ih =>
      rw [List.mapM_cons, bind_eq_ok_iff] at h
      obtain ⟨p, hp, h⟩ := h
      obtain ⟨rest, hrest, h⟩ := bind_eq_ok_iff.mp h
      cases h
      obtain ⟨rfl, hflags⟩ := ih hrest
      cases v with
      | string source =>
          obtain ⟨rfl, hnone⟩ := literal_eq_ok hp
          exact ⟨rfl, List.forall_mem_cons.mpr ⟨hnone, hflags⟩⟩
      | _ => cases hp

/-! ## Wording -/

section Wording

variable {operator : Operator} {reference form : Reference}

/-- Values under an operator that nests a condition become literals, which are shown alike. -/
theorem describe_toNested (h : reference.toNested operator = .ok form) :
    form.describe = reference.describe := by
  cases reference with
  | condition c =>
      cases h
      rfl
  | value v =>
      cases h
      simp only [Reference.describe, Condition.describe]
  | values vs =>
      cases h
      simp only [Reference.describe, Condition.describe, describeConditions_eq_map, List.map_map]
      congr 1
  | _ => cases h

/-- Texts under a pattern operator are shown alike when none of their characters is escaped. -/
theorem describe_toPatterns_iff (h : reference.toPatterns operator = .ok form) :
    form.describe = reference.describe ↔
      ∀ source, .string source ∈ reference.valueList → IsVerbatim source := by
  cases reference with
  | pattern p =>
      cases h
      simp [Reference.valueList]
  | patterns ps =>
      cases h
      simp [Reference.valueList]
  | condition c => cases h
  | value v =>
      cases v with
      | string source =>
          obtain ⟨p, hp, h⟩ := bind_eq_ok_iff.mp h
          cases h
          obtain ⟨rfl, hflags⟩ := literal_eq_ok hp
          simp only [Reference.describe, Reference.valueList, List.mem_singleton,
            Value.string.injEq, forall_eq]
          constructor
          · intro heq
            exact (length_display_eq_iff hflags).mp (congrArg String.length heq)
          · exact display_eq_quoted hflags
      | _ => cases h
  | values vs =>
      rw [toPatterns_values, map_eq_ok_iff] at h
      obtain ⟨ps, hps, rfl⟩ := h
      obtain ⟨rfl, hflags⟩ := eq_map_of_mapM_patternOfValue hps
      rw [Reference.describe, Reference.describe, List.map_map, joinAlternatives_map_eq_iff]
      · simp only [Reference.valueList, List.mem_map, Value.string.injEq]
        constructor
        · rintro heq _ ⟨p, hp, rfl⟩
          exact (length_display_eq_iff (hflags p hp)).mp (heq p hp)
        · intro hverbatim p hp
          exact (length_display_eq_iff (hflags p hp)).mpr (hverbatim _ ⟨p, hp, rfl⟩)
      · exact fun p hp => length_display_le (hflags p hp)
      · intro p hp heq
        exact display_eq_quoted (hflags p hp) ((length_display_eq_iff (hflags p hp)).mp heq)

theorem toValues_eq_ok (h : reference.toValues operator = .ok form) : form = reference := by
  rw [Reference.toValues_of_kind (Reference.kind_of_toValues h)] at h
  split at h
  · cases h
  split at h
  · cases h
  · exact (Except.ok.inj h).symm

end Wording

/-- **Building a clause keeps its wording.**  A clause is described by the phrase that its
operator has for the reference as it was given, unless a text is read as a pattern and one of
its characters is a quote, a backslash or a control character: then it is not. -/
theorem describe_build_iff {operator : Operator} {reference : Reference} {clause : Clause}
    (h : Clause.build operator reference = .ok clause) :
    clause.describe = (Clause.mk operator reference).describe ↔
      (operator.isPattern = true →
        ∀ source, .string source ∈ reference.valueList → IsVerbatim source) := by
  cases hnested : operator.isNested with
  | true =>
      rw [build_of_nested hnested, map_eq_ok_iff] at h
      obtain ⟨form, hform, rfl⟩ := h
      have hne : operator ≠ .integer := (Operator.ne_type_and_ne_integer_of_isNested hnested).2
      rw [describe_of_ne_integer hne, describe_of_ne_integer hne, describe_toNested hform,
        Operator.isPattern_of_isNested hnested]
      simp
  | false =>
      cases hpattern : operator.isPattern with
      | true =>
          rw [build_of_pattern hpattern, map_eq_ok_iff] at h
          obtain ⟨form, hform, rfl⟩ := h
          have hne : operator ≠ .integer :=
            (Operator.ne_type_and_ne_integer_of_isPattern hpattern).2
          rw [describe_of_ne_integer hne, describe_of_ne_integer hne, String.append_right_inj,
            describe_toPatterns_iff hform]
          simp
      | false =>
          rw [build_of_value hnested hpattern, map_eq_ok_iff] at h
          obtain ⟨form, hform, rfl⟩ := h
          rw [toValues_eq_ok hform]
          simp

/-- Two texts to be read as patterns. -/
def startOrSlash : Reference :=
  .values [.string "^ab?", .string "ü|/"]

theorem startOrSlash_wording :
    ∃ clause, Clause.build .matchesNot startOrSlash = .ok clause ∧
      (∀ source, .string source ∈ startOrSlash.valueList → IsVerbatim source) ∧
      clause.describe = (Clause.mk .matchesNot startOrSlash).describe ∧
      (Clause.mk .matchesNot startOrSlash).describe =
        "string not matching \"^ab?\" or \"ü|/\"" := by
  have hbuild : ∃ clause, Clause.build .matchesNot startOrSlash = .ok clause := ⟨_, rfl⟩
  have hverbatim : ∀ source, .string source ∈ startOrSlash.valueList → IsVerbatim source := by
    simp only [startOrSlash, Reference.valueList, List.mem_cons, Value.string.injEq,
      List.not_mem_nil, or_false]
    rintro source (rfl | rfl) <;> decide
  obtain ⟨clause, hclause⟩ := hbuild
  exact ⟨clause, hclause, hverbatim, (describe_build_iff hclause).mpr fun _ => hverbatim, rfl⟩

/-- A backslash is shown twice in a value, and once in a pattern. -/
example : ∃ clause, Clause.build .matches (.value (.string "\\.")) = .ok clause ∧
    clause.describe = "string matching \"\\.\"" ∧
    (Clause.mk .matches (.value (.string "\\."))).describe = "string matching \"\\\\.\"" :=
  ⟨_, rfl, rfl, rfl⟩

end ValueAssertions
