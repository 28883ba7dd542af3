import ValueAssertions.Proofs.Assertion.Check
import ValueAssertions.Proofs.Condition.NormalForm

/-!
# Types as conditions

That a value has one of several types can be asserted in two ways: by an assertion on
types, which looks the tag of the value up in the list, or by an assertion on values with
the condition that a document `{type: tags}` writes, which goes through evaluation.  The
same goes for the fields of an object, where the two sorts of rules are checked by loops
of their own.

The two ways agree (`SameVerdict`): both pass, or both are violated at the same field.
For single values this rests on `TypeList.evaluate_condition_eq_pass_iff`, and for fields
on that and on `firstFault_rel`, the law of both loops.  Absent fields need no care of their
own: both loops pass over them alike when they may be absent, and take them for an absent
value, whose tag is looked up like any other, when they may not.
-/

namespace ValueAssertions

namespace TypeList

/-- The condition of having one of the types. -/
def condition (types : TypeList) : Condition :=
  .all [.mk .type (.values (types.tags.map Value.string))]

variable {types : TypeList}

/-- A value passes the condition when its tag is in the list. -/
theorem evaluate_condition_eq_pass_iff {v : Value} :
    types.condition.evaluate v = .pass ↔ v.typeTag ∈ types.tags := by
  have hholds : Operator.type.holds v (.values (types.tags.map Value.string)) = true ↔
      v.typeTag ∈ types.tags := by
    simp [Operator.holds, Reference.valueList, Value.asString?]
  rw [condition, evaluate_singleLeaf_eq_pass_iff rfl, hholds]

theorem exists_evaluate_condition_eq_fail {v : Value} (htag : v.typeTag ∉ types.tags) :
    ∃ failure, types.condition.evaluate v = .fail failure := by
  cases hevaluate : types.condition.evaluate v with
  | pass => exact absurd (evaluate_condition_eq_pass_iff.mp hevaluate) htag
  | fail failure => exact ⟨failure, rfl⟩

/-- The list of tags is a reference that suits `type`. -/
theorem normal_tags : (Clause.mk .type (.values (types.tags.map Value.string))).Normal := by
  rw [Clause.Normal, Reference.Normal]
  refine ⟨rfl, rfl, fun _ v hv => ?_, fun hinteger => absurd hinteger (by decide)⟩
  obtain ⟨tag, -, rfl⟩ := List.mem_map.mp hv
  rfl

theorem clause_type_eq_condition :
    Condition.clause .type (.values (types.tags.map Value.string)) = .ok types.condition :=
  Condition.clause_of_normal normal_tags

/-- The condition is what a document with the tags under the key `type` writes. -/
theorem ofDocument_type_eq_condition :
    Condition.ofDocument (.object [("type", .array (types.tags.map Document.string))]) =
      .ok types.condition := by
  have hvalues : Reference.valuesOfDocument (.array (types.tags.map Document.string)) =
      .values (types.tags.map Value.string) := by
    rw [Reference.valuesOfDocument, Value.ofItems_eq_map, List.map_map]
    rfl
  have hmember : clauseOfMember ("type", .array (types.tags.map Document.string)) =
      .ok (.mk .type (.values (types.tags.map Value.string))) := by
    change clauseOfMember (Operator.type.key, _) = _
    rw [clauseOfMember_value rfl rfl, hvalues, Reference.toValues_of_normal normal_tags rfl]
    rfl
  rw [ofDocument_object, List.mapM_cons, hmember]
  rfl

end TypeList

/-- The rules on values that ask for the types of rules on types. -/
def FieldRules.conditions (fields : FieldRules TypeList) : FieldRules Condition :=
  ⟨fields.rules.map fun rule => (rule.1, rule.2.condition)⟩

/-- Two assertions agree: both pass, or both are violated at the same field. -/
inductive SameVerdict : Except AssertionError Unit → Except AssertionError Unit → Prop
  | pass : SameVerdict (.ok ()) (.ok ())
  | violated {first second : Violation} (hfield : first.field = second.field) :
      SameVerdict (.error (.violated first)) (.error (.violated second))

namespace Assert

variable {assert : Assert} {v : Value} {subject : Subject}

theorem sameVerdict_type_value {types : TypeList} :
    SameVerdict (assert.type v types subject) (assert.value v types.condition subject) := by
  rw [type, value]
  by_cases htag : v.typeTag ∈ types.tags
  · rw [if_pos (TypeList.contains_iff.mpr htag),
      TypeList.evaluate_condition_eq_pass_iff.mpr htag]
    exact .pass
  · obtain ⟨failure, hfail⟩ := TypeList.exists_evaluate_condition_eq_fail htag
    rw [if_neg fun h => htag (TypeList.contains_iff.mp h), hfail]
    exact .violated rfl

/-- The loops over the two sorts of rules pass over, accept and stop at the same fields. -/
theorem sameVerdict_checkFields (typesKind valuesKind : AssertionKind) (absentPasses : Bool)
    (rules : List (String × TypeList)) :
    SameVerdict (assert.checkFieldTypes typesKind absentPasses v subject rules)
      (assert.checkFieldValues valuesKind absentPasses v subject
        (rules.map fun rule => (rule.1, rule.2.condition))) := by
  rw [checkFieldTypes_eq_firstFault, checkFieldValues_eq_firstFault, firstFault_map]
  refine firstFault_rel .pass fun rule _ => ?_
  rw [typeFault?_eq_none_iff, valueFault?_eq_none_iff]
  by_cases hpasses : TypePasses absentPasses v rule
  · refine .inl ⟨hpasses, hpasses.imp_right fun htag => ?_⟩
    exact TypeList.evaluate_condition_eq_pass_iff.mpr htag
  · obtain ⟨hover, htag⟩ := not_or.mp hpasses
    obtain ⟨failure, hfail⟩ := TypeList.exists_evaluate_condition_eq_fail htag
    exact .inr ⟨_, _, typeFault?_eq_some_iff.mpr ⟨hpasses, rfl⟩,
      valueFault?_eq_some_iff.mpr ⟨hover, failure, hfail, rfl⟩, .violated rfl⟩

end Assert

/-- **Assertions on types are assertions on values.**  With the condition that `{type: tags}`
writes in the place of each list of tags, an assertion on values agrees with the assertion on
types, on a value and on the fields of an object, be they required or optional. -/
theorem typeAssertions_sameVerdict (assert : Assert) (v : Value) (types : TypeList)
    (fields : FieldRules TypeList) (subject : Subject) :
    Condition.clause .type (.values (types.tags.map Value.string)) = .ok types.condition ∧
      Condition.ofDocument (.object [("type", .array (types.tags.map Document.string))]) =
        .ok types.condition ∧
      SameVerdict (assert.type v types subject) (assert.value v types.condition subject) ∧
      SameVerdict (assert.fieldTypes v fields subject)
        (assert.fieldValues v fields.conditions subject) ∧
      SameVerdict (assert.optionalFieldTypes v fields subject)
        (assert.optionalFieldValues v fields.conditions subject) :=
  ⟨TypeList.clause_type_eq_condition, TypeList.ofDocument_type_eq_condition,
    Assert.sameVerdict_type_value, Assert.sameVerdict_checkFields _ _ _ _,
    Assert.sameVerdict_checkFields _ _ _ _⟩

end ValueAssertions
