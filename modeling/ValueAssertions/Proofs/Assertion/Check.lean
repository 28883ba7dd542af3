import ValueAssertions.Assertion.Assert
import ValueAssertions.Proofs.Document.Reading

/-!
# The first violation

Assertions on fields go through rules, or through the fields of an object, in order, and
report the first one that is broken, whatever comes after it.  `checkFieldTypes`,
`checkFieldValues` and `checkNames` do so for rules on types, rules on values and lists of
names; each has one equation here that says when it fails and with what, in terms of the
first fault in the list (`ReadsAs.FirstOf`).

The loops over the two sorts of rules differ only in what they have against a rule
(`typeFault?`, `valueFault?`).  That they stop at the first rule that they have something
against is said once for both, by `firstFault` and its laws.
-/

namespace ValueAssertions

theorem ReadsAs.not_firstOf_nil {α ε : Type} {valid : α → Prop} {fault : α → ε → Prop} {e : ε} :
    ¬ FirstOf valid fault [] e := by
  rintro ⟨before, x, after, heq, -⟩
  simp at heq

theorem ReadsAs.FirstOf.mono {α ε : Type} {valid valid' : α → Prop} {fault fault' : α → ε → Prop}
    {xs : List α} {e : ε} (h : FirstOf valid fault xs e) (hvalid : ∀ x, valid x → valid' x)
    (hfault : ∀ x, fault x e → fault' x e) : FirstOf valid' fault' xs e := by
  obtain ⟨before, x, after, heq, hbefore, hx⟩ := h
  exact ⟨before, x, after, heq, fun y hy => hvalid y (hbefore y hy), hfault x hx⟩

theorem Value.isUndefined_iff {v : Value} : v.isUndefined = true ↔ v = .undefined := by
  cases v <;> simp [isUndefined]

theorem TypeList.contains_iff {types : TypeList} {tag : String} :
    types.contains tag = true ↔ tag ∈ types.tags :=
  List.contains_iff_mem

/-! ## Rules in order -/

/-- Rules are checked in order, and the first that there is something against is reported. -/
def firstFault {α : Type} (fault? : α → Option AssertionError) (rules : List α) :
    Except AssertionError Unit :=
  match rules.findSome? fault? with
  | none => .ok ()
  | some e => .error e

section FirstFault

variable {α β : Type} {fault? : α → Option AssertionError} {rules : List α} {e : AssertionError}

theorem firstFault_cons (rule : α) (rest : List α) :
    firstFault fault? (rule :: rest) =
      match fault? rule with
      | none => firstFault fault? rest
      | some e => .error e := by
  rw [firstFault, List.findSome?_cons]
  cases fault? rule <;> rfl

theorem firstFault_eq_ok_iff :
    firstFault fault? rules = .ok () ↔ ∀ rule ∈ rules, fault? rule = none := by
  rw [← List.findSome?_eq_none_iff, firstFault]
  cases rules.findSome? fault? <;> simp

theorem firstFault_eq_error_iff :
    firstFault fault? rules = .error e ↔
      ReadsAs.FirstOf (fault? · = none) (fault? · = some ·) rules e := by
  have hfind : firstFault fault? rules = .error e ↔ rules.findSome? fault? = some e := by
    rw [firstFault]
    cases rules.findSome? fault? <;> simp
  rw [hfind, List.findSome?_eq_some_iff]
  constructor
  · rintro ⟨before, rule, after, heq, hrule, hbefore⟩
    exact ⟨before, rule, after, heq, hbefore, hrule⟩
  · rintro ⟨before, rule, after, heq, hbefore, hrule⟩
    exact ⟨before, rule, after, heq, hrule, hbefore⟩

/-- More rules are checked when there is nothing against the first ones. -/
theorem firstFault_append (first second : List α) :
    firstFault fault? (first ++ second) =
      (firstFault fault? first).bind fun _ => firstFault fault? second := by
  rw [firstFault, List.findSome?_append, firstFault]
  cases first.findSome? fault? <;> rfl

/-- Rules that there is nothing against may be left out. -/
theorem firstFault_filter {test : α → Bool}
    (h : ∀ rule, test rule = false → fault? rule = none) (rules : List α) :
    firstFault fault? (rules.filter test) = firstFault fault? rules := by
  induction rules with
  | nil => rfl
  | cons rule rest ih =>
      rw [firstFault_cons, ← ih]
      cases htest : test rule with
      | false => rw [List.filter_cons_of_neg (by simp [htest]), h rule htest]
      | true => rw [List.filter_cons_of_pos htest, firstFault_cons]

theorem firstFault_map (pair : β → α) (rules : List β) :
    firstFault fault? (rules.map pair) = firstFault (fun rule => fault? (pair rule)) rules := by
  rw [firstFault, List.findSome?_map]
  rfl

/-- Rules are reported on alike when there is something against the same ones. -/
theorem firstFault_rel {other? : α → Option AssertionError}
    {R : Except AssertionError Unit → Except AssertionError Unit → Prop}
    (hpass : R (.ok ()) (.ok ()))
    (h : ∀ rule ∈ rules, (fault? rule = none ∧ other? rule = none) ∨
      ∃ e e', fault? rule = some e ∧ other? rule = some e' ∧ R (.error e) (.error e')) :
    R (firstFault fault? rules) (firstFault other? rules) := by
  induction rules with
  | nil => exact hpass
  | cons rule rest ih =>
      obtain ⟨hrule, hrest⟩ := List.forall_mem_cons.mp h
      rw [firstFault_cons, firstFault_cons]
      rcases hrule with ⟨hnone, hnone'⟩ | ⟨e, e', hsome, hsome', hrel⟩
      · rw [hnone, hnone']
        exact ih hrest
      · rw [hsome, hsome']
        exact hrel

end FirstFault

namespace Assert

/-- A field is passed over: it is not there, and need not be. -/
def PassedOver (absentPasses : Bool) (v : Value) (name : String) : Prop :=
  absentPasses = true ∧ v.field name = .undefined

/-- A field has one of the types of a rule, or is passed over. -/
def TypePasses (absentPasses : Bool) (v : Value) (rule : String × TypeList) : Prop :=
  PassedOver absentPasses v rule.1 ∨ (v.field rule.1).typeTag ∈ rule.2.tags

/-- A field passes the condition of a rule, or is passed over. -/
def ValuePasses (absentPasses : Bool) (v : Value) (rule : String × Condition) : Prop :=
  PassedOver absentPasses v rule.1 ∨ rule.2.evaluate (v.field rule.1) = .pass

/-- What there is against a field by a rule on types. -/
def typeFault? (assert : Assert) (kind : AssertionKind) (absentPasses : Bool) (v : Value)
    (subject : Subject) (rule : String × TypeList) : Option AssertionError :=
  if (absentPasses && (v.field rule.1).isUndefined) ||
      rule.2.contains (v.field rule.1).typeTag then none
  else some (assert.fieldTypeViolation kind rule.1 (v.field rule.1) rule.2 subject)

/-- What there is against a field by a rule on values. -/
def valueFault? (assert : Assert) (kind : AssertionKind) (absentPasses : Bool) (v : Value)
    (subject : Subject) (rule : String × Condition) : Option AssertionError :=
  if absentPasses && (v.field rule.1).isUndefined then none
  else (rule.2.evaluate (v.field rule.1)).failure?.map fun failure =>
    assert.fieldValueViolation kind rule.1 (v.field rule.1) failure subject

section Fields

variable {assert : Assert} {kind : AssertionKind} {absentPasses : Bool} {v : Value}
  {subject : Subject} {e : AssertionError}

theorem passedOver_iff {name : String} :
    PassedOver absentPasses v name ↔ (absentPasses && (v.field name).isUndefined) = true := by
  rw [PassedOver, Bool.and_eq_true, Value.isUndefined_iff]

/-! ## Rules on types -/

theorem checkFieldTypes_eq_firstFault (rules : List (String × TypeList)) :
    assert.checkFieldTypes kind absentPasses v subject rules =
      firstFault (assert.typeFault? kind absentPasses v subject) rules := by
  induction rules with
  | nil => rfl
  | cons rule rest ih =>
      rw [firstFault_cons, checkFieldTypes, typeFault?, ih]
      split <;> rfl

theorem typePasses_iff {rule : String × TypeList} :
    TypePasses absentPasses v rule ↔ ((absentPasses && (v.field rule.1).isUndefined) ||
      rule.2.contains (v.field rule.1).typeTag) = true := by
  rw [TypePasses, Bool.or_eq_true, ← passedOver_iff, TypeList.contains_iff]

theorem typeFault?_eq_none_iff {rule : String × TypeList} :
    assert.typeFault? kind absentPasses v subject rule = none ↔
      TypePasses absentPasses v rule := by
  rw [typePasses_iff, typeFault?]
  split <;> simp_all

theorem typeFault?_eq_some_iff {rule : String × TypeList} :
    assert.typeFault? kind absentPasses v subject rule = some e ↔
      ¬ TypePasses absentPasses v rule ∧
        e = assert.fieldTypeViolation kind rule.1 (v.field rule.1) rule.2 subject := by
  rw [typePasses_iff, typeFault?]
  split
  · next hpasses => simp [hpasses]
  · next hpasses => simp [hpasses, eq_comm]

/-- Rules on types fail with the first field that has a wrong type. -/
theorem checkFieldTypes_eq_error_iff {rules : List (String × TypeList)} :
    assert.checkFieldTypes kind absentPasses v subject rules = .error e ↔
      ReadsAs.FirstOf (TypePasses absentPasses v)
        (fun rule e => ¬ TypePasses absentPasses v rule ∧
          e = assert.fieldTypeViolation kind rule.1 (v.field rule.1) rule.2 subject) rules e := by
  rw [checkFieldTypes_eq_firstFault, firstFault_eq_error_iff]
  simp only [typeFault?_eq_none_iff, typeFault?_eq_some_iff]

/-! ## Rules on values -/

theorem checkFieldValues_eq_firstFault (rules : List (String × Condition)) :
    assert.checkFieldValues kind absentPasses v subject rules =
      firstFault (assert.valueFault? kind absentPasses v subject) rules := by
  induction rules with
  | nil => rfl
  | cons rule rest ih =>
      rw [firstFault_cons, checkFieldValues, valueFault?, ih]
      -- A field that is passed over is not evaluated, whatever its condition would say.
      split
      · rfl
      · cases rule.2.evaluate (v.field rule.1) <;> rfl

theorem valueFault?_eq_none_iff {rule : String × Condition} :
    assert.valueFault? kind absentPasses v subject rule = none ↔
      ValuePasses absentPasses v rule := by
  rw [ValuePasses, passedOver_iff, valueFault?]
  split
  · next hover => simp [hover]
  · next hover => cases rule.2.evaluate (v.field rule.1) <;> simp [hover, Outcome.failure?]

theorem valueFault?_eq_some_iff {rule : String × Condition} :
    assert.valueFault? kind absentPasses v subject rule = some e ↔
      ¬ PassedOver absentPasses v rule.1 ∧
        ∃ failure, rule.2.evaluate (v.field rule.1) = .fail failure ∧
          e = assert.fieldValueViolation kind rule.1 (v.field rule.1) failure subject := by
  rw [passedOver_iff, valueFault?]
  split
  · next hover => simp [hover]
  · next hover =>
      cases rule.2.evaluate (v.field rule.1) <;> simp [hover, Outcome.failure?, eq_comm]

/-- Rules on values fail with the first field that fails its condition. -/
theorem checkFieldValues_eq_error_iff {rules : List (String × Condition)} :
    assert.checkFieldValues kind absentPasses v subject rules = .error e ↔
      ReadsAs.FirstOf (ValuePasses absentPasses v)
        (fun rule e => ¬ PassedOver absentPasses v rule.1 ∧
          ∃ failure, rule.2.evaluate (v.field rule.1) = .fail failure ∧
            e = assert.fieldValueViolation kind rule.1 (v.field rule.1) failure subject)
        rules e := by
  rw [checkFieldValues_eq_firstFault, firstFault_eq_error_iff]
  simp only [valueFault?_eq_none_iff, valueFault?_eq_some_iff]

/-! ## Names -/

/-- Names fail with the first field of the object whose name is not accepted. -/
theorem checkNames_eq_error_iff {accepts : String → Bool} :
    assert.checkNames kind v subject accepts = .error e ↔
      ReadsAs.FirstOf (fun name => accepts name = true)
        (fun name e => accepts name = false ∧
          e = assert.violation kind ((assert.context subject).insert "field" (.string name))
            (some name) none) (fieldNames v) e := by
  rw [checkNames]
  induction fieldNames v with
  | nil => simp [ReadsAs.not_firstOf_nil]
  | cons name rest ih =>
      rw [ReadsAs.firstOf_cons, ← ih]
      cases hname : accepts name with
      | true => simp [hname]
      | false => simp [hname, eq_comm]

end Fields

end Assert

end ValueAssertions
