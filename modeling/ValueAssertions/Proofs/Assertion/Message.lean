import ValueAssertions.Proofs.Assertion.Catalog
import ValueAssertions.Proofs.Assertion.Check

/-!
# What assertions report

With the built-in templates an assertion fails in a way that can be told from the value and
the check alone (`Reports`): which violation there is, of which kind, with which message,
field and diagnostics.  `run_eq_error_iff` says that it is reported exactly when it is there.

* The first part has the message of each kind, for the tokens that assertions of the kind
  give (`render_type` and so on).  The texts that go into it are arbitrary.
* The second part is about the checks.  Which rule or field is at fault was settled in
  `Proofs/Assertion/Check.lean`.
-/

namespace ValueAssertions

open Template

/-! ## The message of each kind -/

/-- The kind of assertions on the types of fields. -/
def fieldTypesKind (optional : Bool) : AssertionKind :=
  if optional then .optionalFieldTypes else .fieldTypes

/-- The kind of assertions on the values of fields. -/
def fieldValuesKind (optional : Bool) : AssertionKind :=
  if optional then .optionalFieldValues else .fieldValues

section Kinds

variable {assert : Assert} {subject : Subject}

/-- How messages go on after the name of the value when they tell what was expected from
what there is. -/
theorem Shows.fills_expected {context : Context} (h : Shows assert subject context)
    {expected actual s t : String} (hexpected : StandsFor context expected s.toList)
    (hactual : StandsFor context actual t.toList) :
    Fills context
      [.placeholder "varName", .text "', expected ".toList, .placeholder expected,
        .text ", got ".toList, .placeholder actual]
      (subject.name.getD assert.defaultName ++ "', expected " ++ s ++ ", got " ++ t).toList := by
  have htext : (subject.name.getD assert.defaultName ++ "', expected " ++ s ++ ", got " ++
      t).toList = (subject.name.getD assert.defaultName).toList ++ ("', expected ".toList ++
        (s.toList ++ (", got ".toList ++ (t.toList ++ [])))) := by
    simp only [String.toList_append, List.append_assoc, List.append_nil]
  rw [htext]
  exact .placeholder h.standsFor_name (.text (.placeholder hexpected (.text
    (.placeholder hactual .nil))))

theorem render_type (v : Value) (types : TypeList) :
    render (Catalog.builtIn.template .type)
        (((assert.context subject).insert "value" v).insert "type" (.string types.joined)) =
      "Wrong type for '" ++ subject.name.getD assert.defaultName ++ "', expected " ++
        types.joined ++ ", got " ++ v.typeTag ++ subject.suffix := by
  set context := ((assert.context subject).insert "value" v).insert "type"
    (.string types.joined) with hcontext
  have hshows : Shows assert subject context :=
    (shows_context.insert (by decide) v).insert (by decide) _
  have htypes : StandsFor context "type" types.joined.toList :=
    standsFor_string (by decide) (by simp [hcontext])
  have htag : StandsFor context "_TYPE_" v.typeTag.toList := standsFor_type (by simp [hcontext])
  have hlead : Fills context (Catalog.lead .type) _ := .text (hshows.fills_expected htypes htag)
  rw [render_builtIn hshows.caller hlead]
  simp only [String.ofList_append, String.ofList_toList, String.append_assoc]

theorem render_value (v : Value) (failure : Failure) :
    render (Catalog.builtIn.template .value) (assert.failureContext subject v failure) =
      "Wrong value for '" ++ subject.name.getD assert.defaultName ++ "', expected " ++
        failure.details ++ ", got " ++ failure.actual.quoted ++ subject.suffix := by
  set context := assert.failureContext subject v failure with hcontext
  have hshows : Shows assert subject context := shows_failureContext v failure
  have hexpected : StandsFor context "expected" failure.details.toList :=
    standsFor_string (by decide) (by simp [hcontext, Assert.failureContext])
  have hactual : StandsFor context "_ACTUAL_" failure.actual.quoted.toList :=
    standsFor_actual (by simp [hcontext, Assert.failureContext])
  have hlead : Fills context (Catalog.lead .value) _ :=
    .text (hshows.fills_expected hexpected hactual)
  rw [render_builtIn hshows.caller hlead]
  simp only [String.ofList_append, String.ofList_toList, String.append_assoc]

theorem render_fieldTypes (optional : Bool) (name : String) (v : Value) (types : TypeList) :
    render (Catalog.builtIn.template (fieldTypesKind optional))
        (((((assert.context subject).insert "value" v).insert "type"
          (.string types.joined)).insert "actual" (.string (Assert.shownType v))).insert
          "field" (.string name)) =
      "Wrong type for field '" ++ name ++ "' of '" ++ subject.name.getD assert.defaultName ++
        "', expected " ++ types.joined ++ ", got " ++ Assert.shownType v ++ subject.suffix := by
  set context := ((((assert.context subject).insert "value" v).insert "type"
    (.string types.joined)).insert "actual" (.string (Assert.shownType v))).insert
    "field" (.string name) with hcontext
  have hshows : Shows assert subject context :=
    (((shows_context.insert (by decide) v).insert (by decide) _).insert (by decide) _).insert
      (by decide) _
  have hfield : StandsFor context "field" name.toList :=
    standsFor_string (by decide) (by simp [hcontext])
  have htypes : StandsFor context "type" types.joined.toList :=
    standsFor_string (by decide) (by simp [hcontext])
  have hactual : StandsFor context "actual" (Assert.shownType v).toList :=
    standsFor_string (by decide) (by simp [hcontext])
  have hlead : Fills context (Catalog.lead .fieldTypes) _ :=
    .text (.placeholder hfield (.text (hshows.fills_expected htypes hactual)))
  have hkind : Catalog.lead (fieldTypesKind optional) = Catalog.lead .fieldTypes := by
    cases optional <;> rfl
  rw [render_builtIn hshows.caller (hkind ▸ hlead)]
  simp only [String.ofList_append, String.ofList_toList, String.append_assoc]

theorem render_fieldValues (optional : Bool) (name : String) (v : Value) (failure : Failure) :
    render (Catalog.builtIn.template (fieldValuesKind optional))
        ((assert.failureContext subject v failure).insert "field" (.string name)) =
      "Wrong value for field '" ++ name ++ "' of '" ++ subject.name.getD assert.defaultName ++
        "', expected " ++ failure.details ++ ", got " ++ failure.actual.quoted ++
        subject.suffix := by
  set context := (assert.failureContext subject v failure).insert "field" (.string name)
    with hcontext
  have hshows : Shows assert subject context :=
    (shows_failureContext v failure).insert (by decide) _
  have hfield : StandsFor context "field" name.toList :=
    standsFor_string (by decide) (by simp [hcontext])
  have hexpected : StandsFor context "expected" failure.details.toList :=
    standsFor_string (by decide) (by simp [hcontext, Assert.failureContext])
  have hactual : StandsFor context "_ACTUAL_" failure.actual.quoted.toList :=
    standsFor_actual (by simp [hcontext, Assert.failureContext])
  have hlead : Fills context (Catalog.lead .fieldValues) _ :=
    .text (.placeholder hfield (.text (hshows.fills_expected hexpected hactual)))
  have hkind : Catalog.lead (fieldValuesKind optional) = Catalog.lead .fieldValues := by
    cases optional <;> rfl
  rw [render_builtIn hshows.caller (hkind ▸ hlead)]
  simp only [String.ofList_append, String.ofList_toList, String.append_assoc]

/-- The message of a field by its name alone, for the texts before and after the name. -/
theorem render_fieldName {kind : AssertionKind} {first second : String}
    (hkind : Catalog.lead kind = [.text first.toList, .placeholder "field", .text second.toList,
      .placeholder "varName", .text "'".toList]) (name : String) :
    render (Catalog.builtIn.template kind)
        ((assert.context subject).insert "field" (.string name)) =
      first ++ name ++ second ++ subject.name.getD assert.defaultName ++ "'" ++
        subject.suffix := by
  have hshows : Shows assert subject ((assert.context subject).insert "field" (.string name)) :=
    shows_context.insert (by decide) _
  have hfield : StandsFor ((assert.context subject).insert "field" (.string name)) "field"
      name.toList := standsFor_string (by decide) (by simp)
  have hlead : Fills ((assert.context subject).insert "field" (.string name))
      [.text first.toList, .placeholder "field", .text second.toList, .placeholder "varName",
        .text "'".toList] _ :=
    .text (.placeholder hfield (.text (.placeholder hshows.standsFor_name (.text .nil))))
  rw [render_builtIn hshows.caller (hkind ▸ hlead)]
  simp only [List.append_nil, String.ofList_append, String.ofList_toList, String.append_assoc]

theorem render_allowedFields (name : String) :
    render (Catalog.builtIn.template .allowedFields)
        ((assert.context subject).insert "field" (.string name)) =
      "Unexpected field '" ++ name ++ "' in '" ++ subject.name.getD assert.defaultName ++ "'" ++
        subject.suffix :=
  render_fieldName rfl name

theorem render_forbiddenFields (name : String) :
    render (Catalog.builtIn.template .forbiddenFields)
        ((assert.context subject).insert "field" (.string name)) =
      "Field '" ++ name ++ "' not allowed in '" ++ subject.name.getD assert.defaultName ++ "'" ++
        subject.suffix :=
  render_fieldName rfl name

end Kinds

/-! ## Every assertion -/

/-- What a value is checked for. -/
inductive Check where
  | type (types : TypeList)
  | value (condition : Condition)
  | clause (operator : Operator) (reference : Reference)
  | fieldTypes (optional : Bool) (fields : FieldRules TypeList)
  | fieldValues (optional : Bool) (fields : FieldRules Condition)
  | allowedFields (names : List String)
  | forbiddenFields (names : List String)

/-- The assertion that makes a check. -/
def Check.run (assert : Assert) (v : Value) (subject : Subject) :
    Check → Except AssertionError Unit
  | .type types => assert.type v types subject
  | .value condition => assert.value v condition subject
  | .clause operator reference => assert.clause v operator reference subject
  | .fieldTypes false fields => assert.fieldTypes v fields subject
  | .fieldTypes true fields => assert.optionalFieldTypes v fields subject
  | .fieldValues false fields => assert.fieldValues v fields subject
  | .fieldValues true fields => assert.optionalFieldValues v fields subject
  | .allowedFields names => assert.allowedFields v names subject
  | .forbiddenFields names => assert.forbiddenFields v names subject

/-- What a check reports of a value, given the name of the value and the end of messages.
Of the rules and fields that break it, it is the first that is reported. -/
inductive Reports (var suffix : String) (v : Value) : Check → AssertionError → Prop
  | type {types : TypeList} (h : v.typeTag ∉ types.tags) :
      Reports var suffix v (.type types) (.violated
        { kind := .type
          message := "Wrong type for '" ++ var ++ "', expected " ++
            String.intercalate "/" types.tags ++ ", got " ++ v.typeTag ++ suffix
          field := none
          diagnostics := none })
  | value {condition : Condition} {failure : Failure} (h : condition.evaluate v = .fail failure) :
      Reports var suffix v (.value condition) (.violated
        { kind := .value
          message := "Wrong value for '" ++ var ++ "', expected " ++ failure.details ++
            ", got " ++ failure.actual.quoted ++ suffix
          field := none
          diagnostics := some failure })
  | clause {operator : Operator} {reference : Reference} {condition : Condition}
      {e : AssertionError} (hbuild : Condition.clause operator reference = .ok condition)
      (h : Reports var suffix v (.value condition) e) :
      Reports var suffix v (.clause operator reference) e
  | unsuitable {operator : Operator} {reference : Reference} {error : ConditionError}
      (hbuild : Condition.clause operator reference = .error error) :
      Reports var suffix v (.clause operator reference) (.condition error)
  | fieldTypes {optional : Bool} {fields : FieldRules TypeList} {e : AssertionError}
      (h : ReadsAs.FirstOf (Assert.TypePasses optional v)
        (fun rule e => ¬ Assert.TypePasses optional v rule ∧ e = .violated
          { kind := fieldTypesKind optional
            message := "Wrong type for field '" ++ rule.1 ++ "' of '" ++ var ++
              "', expected " ++ String.intercalate "/" rule.2.tags ++ ", got " ++
              Assert.shownType (v.field rule.1) ++ suffix
            field := some rule.1
            diagnostics := none }) fields.rules e) :
      Reports var suffix v (.fieldTypes optional fields) e
  | fieldValues {optional : Bool} {fields : FieldRules Condition} {e : AssertionError}
      (h : ReadsAs.FirstOf (Assert.ValuePasses optional v)
        (fun rule e => ¬ Assert.PassedOver optional v rule.1 ∧
          ∃ failure, rule.2.evaluate (v.field rule.1) = .fail failure ∧ e = .violated
            { kind := fieldValuesKind optional
              message := "Wrong value for field '" ++ rule.1 ++ "' of '" ++ var ++
                "', expected " ++ failure.details ++ ", got " ++ failure.actual.quoted ++ suffix
              field := some rule.1
              diagnostics := some failure }) fields.rules e) :
      Reports var suffix v (.fieldValues optional fields) e
  | allowedFields {names : List String} {e : AssertionError}
      (h : ReadsAs.FirstOf (· ∈ names)
        (fun name e => name ∉ names ∧ e = .violated
          { kind := .allowedFields
            message := "Unexpected field '" ++ name ++ "' in '" ++ var ++ "'" ++ suffix
            field := some name
            diagnostics := none }) (Assert.fieldNames v) e) :
      Reports var suffix v (.allowedFields names) e
  | forbiddenFields {names : List String} {e : AssertionError}
      (h : ReadsAs.FirstOf (· ∉ names)
        (fun name e => name ∈ names ∧ e = .violated
          { kind := .forbiddenFields
            message := "Field '" ++ name ++ "' not allowed in '" ++ var ++ "'" ++ suffix
            field := some name
            diagnostics := none }) (Assert.fieldNames v) e) :
      Reports var suffix v (.forbiddenFields names) e

section Run

variable {defaultName : String} {v : Value} {subject : Subject} {e : AssertionError}

theorem type_eq_error_iff {types : TypeList} :
    (Assert.mk .builtIn defaultName).type v types subject = .error e ↔
      Reports (subject.name.getD defaultName) subject.suffix v (.type types) e := by
  simp only [Assert.type, Assert.violation, render_type]
  by_cases hmem : v.typeTag ∈ types.tags
  · rw [if_pos (TypeList.contains_iff.mpr hmem)]
    constructor
    · nofun
    · intro h
      cases h with
      | type hnot => exact absurd hmem hnot
  · rw [if_neg fun h => hmem (TypeList.contains_iff.mp h)]
    constructor
    · rintro ⟨⟩
      exact .type hmem
    · intro h
      cases h with
      | type => rfl

theorem value_eq_error_iff {condition : Condition} :
    (Assert.mk .builtIn defaultName).value v condition subject = .error e ↔
      Reports (subject.name.getD defaultName) subject.suffix v (.value condition) e := by
  rw [Assert.value]
  cases hevaluate : condition.evaluate v with
  | pass =>
      constructor
      · nofun
      · intro h
        cases h with
        | value hfail =>
            rw [hevaluate] at hfail
            cases hfail
  | fail failure =>
      simp only [Assert.violation, render_value]
      constructor
      · rintro ⟨⟩
        exact .value hevaluate
      · intro h
        cases h with
        | value hfail =>
            rw [hevaluate] at hfail
            cases hfail
            rfl

theorem clause_eq_error_iff {operator : Operator} {reference : Reference} :
    (Assert.mk .builtIn defaultName).clause v operator reference subject = .error e ↔
      Reports (subject.name.getD defaultName) subject.suffix v (.clause operator reference) e := by
  rw [Assert.clause]
  cases hbuild : Condition.clause operator reference with
  | error error =>
      constructor
      · rintro ⟨⟩
        exact .unsuitable hbuild
      · intro h
        cases h with
        | clause hcondition =>
            rw [hbuild] at hcondition
            cases hcondition
        | unsuitable herror =>
            rw [hbuild] at herror
            cases herror
            rfl
  | ok condition =>
      constructor
      · intro h
        exact .clause hbuild (value_eq_error_iff.mp h)
      · intro h
        cases h with
        | clause hcondition h =>
            rw [hbuild] at hcondition
            cases hcondition
            exact value_eq_error_iff.mpr h
        | unsuitable herror =>
            rw [hbuild] at herror
            cases herror

theorem fieldTypes_eq_error_iff {optional : Bool} {fields : FieldRules TypeList} :
    (Check.fieldTypes optional fields).run ⟨.builtIn, defaultName⟩ v subject = .error e ↔
      Reports (subject.name.getD defaultName) subject.suffix v (.fieldTypes optional fields) e := by
  have hrun : (Check.fieldTypes optional fields).run ⟨.builtIn, defaultName⟩ v subject =
      (Assert.mk .builtIn defaultName).checkFieldTypes (fieldTypesKind optional) optional v
        subject fields.rules := by
    cases optional <;> rfl
  rw [hrun, Assert.checkFieldTypes_eq_error_iff]
  simp only [Assert.fieldTypeViolation, Assert.violation, render_fieldTypes]
  constructor
  · exact .fieldTypes
  · intro h
    cases h with
    | fieldTypes h => exact h

theorem fieldValues_eq_error_iff {optional : Bool} {fields : FieldRules Condition} :
    (Check.fieldValues optional fields).run ⟨.builtIn, defaultName⟩ v subject = .error e ↔
      Reports (subject.name.getD defaultName) subject.suffix v (.fieldValues optional fields)
        e := by
  have hrun : (Check.fieldValues optional fields).run ⟨.builtIn, defaultName⟩ v subject =
      (Assert.mk .builtIn defaultName).checkFieldValues (fieldValuesKind optional) optional v
        subject fields.rules := by
    cases optional <;> rfl
  rw [hrun, Assert.checkFieldValues_eq_error_iff]
  simp only [Assert.fieldValueViolation, Assert.violation, render_fieldValues]
  constructor
  · exact .fieldValues
  · intro h
    cases h with
    | fieldValues h => exact h

theorem allowedFields_eq_error_iff {names : List String} :
    (Assert.mk .builtIn defaultName).allowedFields v names subject = .error e ↔
      Reports (subject.name.getD defaultName) subject.suffix v (.allowedFields names) e := by
  rw [Assert.allowedFields, Assert.checkNames_eq_error_iff]
  simp only [Assert.violation, render_allowedFields, List.contains_iff_mem]
  constructor
  · intro h
    exact .allowedFields (by simpa using h)
  · intro h
    cases h with
    | allowedFields h => simpa using h

theorem forbiddenFields_eq_error_iff {names : List String} :
    (Assert.mk .builtIn defaultName).forbiddenFields v names subject = .error e ↔
      Reports (subject.name.getD defaultName) subject.suffix v (.forbiddenFields names) e := by
  rw [Assert.forbiddenFields, Assert.checkNames_eq_error_iff]
  simp only [Assert.violation, render_forbiddenFields]
  constructor
  · intro h
    exact .forbiddenFields (by simpa using h)
  · intro h
    cases h with
    | forbiddenFields h => simpa using h

end Run

/-- **What assertions report.**  With the built-in templates an assertion fails exactly when
there is something to report, and with just that. -/
theorem run_eq_error_iff (check : Check) (defaultName : String) (v : Value) (subject : Subject)
    (e : AssertionError) :
    check.run ⟨.builtIn, defaultName⟩ v subject = .error e ↔
      Reports (subject.name.getD defaultName) subject.suffix v check e := by
  cases check with
  | type types => exact type_eq_error_iff
  | value condition => exact value_eq_error_iff
  | clause operator reference => exact clause_eq_error_iff
  | fieldTypes optional fields => exact fieldTypes_eq_error_iff
  | fieldValues optional fields => exact fieldValues_eq_error_iff
  | allowedFields names => exact allowedFields_eq_error_iff
  | forbiddenFields names => exact forbiddenFields_eq_error_iff

end ValueAssertions
