import ValueAssertions.Proofs.Assertion.Check

/-!
# Rules on fields

Four assertions check the fields of a value: by their types or by conditions, and fields that
must be there or that need not be.  All four report the first rule in the list that is
violated (`ReportsFirst`), and the rules after that one do not matter.

* The field that a rule is about is told by `Value.HasField`.  A value that is no object has
  none, and then every required rule is about the absent value.
* What there is against a rule depends on the field and on the rule alone, but for the kind
  and the message of the violation (`Judges`).  So the rules on absent fields may be taken
  out of the list beforehand when absent fields are passed over, and the rest is checked as
  if it were required.

Names may be repeated in a list.  Nothing here asks for more than the order of the rules.
-/

namespace ValueAssertions

/-! ## The fields of a value -/

/-- What a value has under a name: the first field with the name of an object, and nothing
otherwise. -/
inductive Value.HasField (name : String) : Value → Value → Prop
  | present {before after : List (String × Value)} {x : Value}
      (hbefore : name ∉ before.map Prod.fst) :
      HasField name (.object (before ++ (name, x) :: after)) x
  | missing {fields : List (String × Value)} (hfields : name ∉ fields.map Prod.fst) :
      HasField name (.object fields) .undefined
  | noObject {v : Value} (hv : ∀ fields, v ≠ .object fields) : HasField name v .undefined

namespace Value

variable {name : String} {v x : Value}

theorem field_of_forall_ne_object (hv : ∀ fields, v ≠ .object fields) :
    v.field name = .undefined := by
  cases v with
  | object fields => exact absurd rfl (hv fields)
  | _ => rfl

theorem findField_append {before rest : List (String × Value)}
    (hbefore : name ∉ before.map Prod.fst) :
    findField name (before ++ rest) = findField name rest := by
  induction before with
  | nil => rfl
  | cons field before ih =>
      obtain ⟨key, value⟩ := field
      rw [List.map_cons, List.mem_cons, not_or] at hbefore
      rw [List.cons_append, findField, if_neg (Ne.symm hbefore.1), ih hbefore.2]

theorem HasField.field_eq (h : HasField name v x) : v.field name = x := by
  cases h with
  | present hbefore => rw [field, findField_append hbefore, findField, if_pos rfl]
  | @missing fields hfields =>
      rw [field, ← List.append_nil fields, findField_append hfields, findField]
  | noObject hv => exact field_of_forall_ne_object hv

/-- A field of another name in front does not matter. -/
theorem HasField.cons {key : String} {value : Value} {rest : List (String × Value)}
    (hkey : key ≠ name) (h : HasField name (.object rest) x) :
    HasField name (.object ((key, value) :: rest)) x := by
  have hcons : ∀ {fields : List (String × Value)}, name ∉ fields.map Prod.fst →
      name ∉ ((key, value) :: fields).map Prod.fst := by
    intro fields hfields
    rw [List.map_cons, List.mem_cons, not_or]
    exact ⟨Ne.symm hkey, hfields⟩
  cases h with
  | @present before after _ hbefore =>
      exact @HasField.present name ((key, value) :: before) after x (hcons hbefore)
  | missing hrest => exact .missing (hcons hrest)
  | noObject hv => exact absurd rfl (hv rest)

theorem hasField_findField (fields : List (String × Value)) :
    HasField name (.object fields) (findField name fields) := by
  induction fields with
  | nil => exact .missing List.not_mem_nil
  | cons field rest ih =>
      obtain ⟨key, value⟩ := field
      rw [findField]
      split
      · next hkey =>
          subst hkey
          exact @HasField.present key [] rest value List.not_mem_nil
      · next hkey => exact ih.cons hkey

theorem field_eq_iff_hasField : v.field name = x ↔ HasField name v x := by
  constructor
  · rintro rfl
    cases v with
    | object fields => exact hasField_findField fields
    | _ => exact .noObject nofun
  · exact HasField.field_eq

end Value

/-! ## What is reported -/

/-- Two assertions report the same, but for the kind and the message. -/
inductive SameReport : Except AssertionError Unit → Except AssertionError Unit → Prop
  | pass : SameReport (.ok ()) (.ok ())
  | violated {first second : Violation} (hfield : first.field = second.field)
      (hdiagnostics : first.diagnostics = second.diagnostics) :
      SameReport (.error (.violated first)) (.error (.violated second))

section Reports

variable {α : Type} (v : Value) (accepts : α → Value → Prop)
  (diagnostics : α → Value → Option Failure)

/-- A rule does not accept its field, and the error says so. -/
def ViolatedBy (kind : AssertionKind) (rule : String × α) (e : AssertionError) : Prop :=
  ¬ accepts rule.2 (v.field rule.1) ∧
    ∃ message, e = .violated
      { kind
        message
        field := some rule.1
        diagnostics := diagnostics rule.2 (v.field rule.1) }

/-- What two assertions on the fields of a value report, one on required and one on optional
fields, when rules accept some values and give diagnostics of the others. -/
structure ReportsFirst (kind optionalKind : AssertionKind)
    (required optional : FieldRules α → Except AssertionError Unit) : Prop where
  /-- Required fields pass when every rule accepts its field. -/
  required_iff : ∀ rules,
    required ⟨rules⟩ = .ok () ↔ ∀ rule ∈ rules, accepts rule.2 (v.field rule.1)
  /-- Otherwise the first rule that does not accept its field is reported. -/
  required_error : ∀ rules e, required ⟨rules⟩ = .error e →
    ReadsAs.FirstOf (fun rule => accepts rule.2 (v.field rule.1))
      (ViolatedBy v accepts diagnostics kind) rules e
  /-- Optional fields are checked like required ones as far as they are there. -/
  optional_same : ∀ rules, SameReport (optional ⟨rules⟩)
    (required ⟨rules.filter fun rule => !(v.field rule.1).isUndefined⟩)
  /-- A violation of an optional field has a kind of its own. -/
  optional_kind : ∀ rules violation,
    optional ⟨rules⟩ = .error (.violated violation) → violation.kind = optionalKind
  /-- What is no object has no optional fields. -/
  optional_noObject : (∀ fields, v ≠ .object fields) → ∀ rules, optional ⟨rules⟩ = .ok ()
  /-- Rules are checked when all rules before them pass. -/
  append : ∀ check ∈ [required, optional], ∀ first second,
    (∀ e, check ⟨first⟩ = .error e → check ⟨first ++ second⟩ = .error e) ∧
      (check ⟨first⟩ = .ok () → check ⟨first ++ second⟩ = check ⟨second⟩)

/-- Something is held against a rule when its field is not passed over and the rule does not
accept it.  It depends on the kind in its kind and its message only. -/
structure Judges (fault? : AssertionKind → Bool → String × α → Option AssertionError) :
    Prop where
  none_iff : ∀ kind absentPasses rule, fault? kind absentPasses rule = none ↔
    Assert.PassedOver absentPasses v rule.1 ∨ accepts rule.2 (v.field rule.1)
  violatedBy : ∀ kind absentPasses rule e, fault? kind absentPasses rule = some e →
    ViolatedBy v accepts diagnostics kind rule e

variable {v accepts diagnostics}

theorem Assert.not_passedOver_false {name : String} : ¬ PassedOver false v name :=
  fun h => Bool.false_ne_true h.1

namespace Judges

variable {fault? : AssertionKind → Bool → String × α → Option AssertionError}

theorem none_required_iff (h : Judges v accepts diagnostics fault?) {kind : AssertionKind}
    {rule : String × α} :
    fault? kind false rule = none ↔ accepts rule.2 (v.field rule.1) := by
  rw [h.none_iff, or_iff_right Assert.not_passedOver_false]

/-- Where a field is there it does not matter whether it has to be. -/
theorem same (h : Judges v accepts diagnostics fault?) (kind optionalKind : AssertionKind)
    {rule : String × α} (hrule : v.field rule.1 ≠ .undefined) :
    (fault? optionalKind true rule = none ∧ fault? kind false rule = none) ∨
      ∃ e e', fault? optionalKind true rule = some e ∧ fault? kind false rule = some e' ∧
        SameReport (.error e) (.error e') := by
  have hnone : fault? optionalKind true rule = none ↔ fault? kind false rule = none := by
    rw [h.none_required_iff, h.none_iff, or_iff_right fun hover => hrule hover.2]
  cases hoptional : fault? optionalKind true rule with
  | none => exact .inl ⟨rfl, hnone.mp hoptional⟩
  | some e =>
      cases hrequired : fault? kind false rule with
      | none => simp [hnone.mpr hrequired] at hoptional
      | some e' =>
          obtain ⟨-, message, rfl⟩ := h.violatedBy _ _ _ _ hoptional
          obtain ⟨-, message', rfl⟩ := h.violatedBy _ _ _ _ hrequired
          exact .inr ⟨_, _, rfl, rfl, .violated rfl rfl⟩

theorem sameReport (h : Judges v accepts diagnostics fault?) (kind optionalKind : AssertionKind)
    (rules : List (String × α)) :
    SameReport (firstFault (fault? optionalKind true) rules)
      (firstFault (fault? kind false)
        (rules.filter fun rule => !(v.field rule.1).isUndefined)) := by
  have habsent : ∀ rule : String × α, (!(v.field rule.1).isUndefined) = false →
      fault? optionalKind true rule = none := by
    intro rule hrule
    rw [Bool.not_eq_false', Value.isUndefined_iff] at hrule
    exact (h.none_iff _ _ _).mpr (.inl ⟨rfl, hrule⟩)
  have hpresent : ∀ rule : String × α, (!(v.field rule.1).isUndefined) = true →
      v.field rule.1 ≠ .undefined := by
    intro rule hrule hundefined
    rw [Value.isUndefined_iff.mpr hundefined] at hrule
    cases hrule
  rw [← firstFault_filter habsent]
  refine firstFault_rel .pass fun rule hrule => ?_
  exact h.same kind optionalKind (hpresent rule (List.mem_filter.mp hrule).2)

/-- The assertions that report the first fault of a list of rules. -/
theorem reportsFirst (h : Judges v accepts diagnostics fault?) (kind optionalKind : AssertionKind)
    {required optional : FieldRules α → Except AssertionError Unit}
    (hrequired : ∀ rules, required ⟨rules⟩ = firstFault (fault? kind false) rules)
    (hoptional : ∀ rules, optional ⟨rules⟩ = firstFault (fault? optionalKind true) rules) :
    ReportsFirst v accepts diagnostics kind optionalKind required optional where
  required_iff rules := by
    rw [hrequired, firstFault_eq_ok_iff]
    exact forall₂_congr fun rule _ => h.none_required_iff
  required_error rules e he := by
    rw [hrequired, firstFault_eq_error_iff] at he
    exact he.mono (fun rule => h.none_required_iff.mp) fun rule => h.violatedBy kind false rule e
  optional_same rules := by
    rw [hrequired, hoptional]
    exact h.sameReport kind optionalKind rules
  optional_kind rules violation he := by
    rw [hoptional, firstFault_eq_error_iff] at he
    obtain ⟨_, rule, _, _, _, hrule⟩ := he
    obtain ⟨-, message, heq⟩ := h.violatedBy _ _ _ _ hrule
    cases heq
    rfl
  optional_noObject hv rules := by
    rw [hoptional, firstFault_eq_ok_iff]
    intro rule _
    exact (h.none_iff _ _ _).mpr (.inl ⟨rfl, Value.field_of_forall_ne_object hv⟩)
  append check hcheck first second := by
    obtain ⟨f, hf⟩ : ∃ f : String × α → Option AssertionError,
        ∀ rules, check ⟨rules⟩ = firstFault f rules := by
      rcases List.mem_pair.mp hcheck with rfl | rfl
      · exact ⟨_, hrequired⟩
      · exact ⟨_, hoptional⟩
    simp only [hf, firstFault_append]
    constructor
    · intro e he
      rw [he]
      rfl
    · intro hpass
      rw [hpass]
      rfl

end Judges

end Reports

/-! ## The four assertions -/

namespace Assert

variable (assert : Assert) (v : Value) (subject : Subject)

theorem judges_typeFault? :
    Judges v (fun types x => x.typeTag ∈ types.tags) (fun _ _ => none)
      fun kind absentPasses => assert.typeFault? kind absentPasses v subject where
  none_iff kind absentPasses rule := typeFault?_eq_none_iff
  violatedBy kind absentPasses rule e he := by
    obtain ⟨hrule, rfl⟩ := typeFault?_eq_some_iff.mp he
    exact ⟨(not_or.mp hrule).2, _, rfl⟩

theorem judges_valueFault? :
    Judges v (fun condition x => condition.evaluate x = .pass)
      (fun condition x => (condition.evaluate x).failure?)
      fun kind absentPasses => assert.valueFault? kind absentPasses v subject where
  none_iff kind absentPasses rule := valueFault?_eq_none_iff
  violatedBy kind absentPasses rule e he := by
    obtain ⟨-, failure, hfail, rfl⟩ := valueFault?_eq_some_iff.mp he
    rw [ViolatedBy, hfail]
    exact ⟨nofun, _, rfl⟩

end Assert

/-- **The first rule that is violated.**  Rules on types accept the fields that have one of the
types, and are reported without diagnostics; rules on values accept the fields that pass the
condition, and are reported with the failure of its evaluation.  Both report the first rule
that is violated, for required fields, and in the same way for those of the optional ones that
are there. -/
theorem fieldAssertions_reportFirst (assert : Assert) (v : Value) (subject : Subject) :
    (∀ name x, v.field name = x ↔ Value.HasField name v x) ∧
      ReportsFirst v (fun types x => x.typeTag ∈ types.tags) (fun _ _ => none)
        .fieldTypes .optionalFieldTypes
        (assert.fieldTypes v · subject) (assert.optionalFieldTypes v · subject) ∧
      ReportsFirst v (fun condition x => condition.evaluate x = .pass)
        (fun condition x => (condition.evaluate x).failure?)
        .fieldValues .optionalFieldValues
        (assert.fieldValues v · subject) (assert.optionalFieldValues v · subject) := by
  refine ⟨fun name x => Value.field_eq_iff_hasField, ?types, ?values⟩
  case types =>
    exact (assert.judges_typeFault? v subject).reportsFirst _ _
      (fun rules => Assert.checkFieldTypes_eq_firstFault rules)
      (fun rules => Assert.checkFieldTypes_eq_firstFault rules)
  case values =>
    exact (assert.judges_valueFault? v subject).reportsFirst _ _
      (fun rules => Assert.checkFieldValues_eq_firstFault rules)
      (fun rules => Assert.checkFieldValues_eq_firstFault rules)

end ValueAssertions
