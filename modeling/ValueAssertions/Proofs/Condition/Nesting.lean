import ValueAssertions.Proofs.Condition.Evaluation

/-!
# Nested conditions

`length` and `each` leave all work to the condition that they nest.  A length passes when
the nested condition does, and elements when all of them do.  Otherwise the failure is that
of the nested condition, for the length or for the first element that fails, and only what
says where it was found is changed: the path gets one more step, a length also puts a word
before the phrase, and elements replace the index.  `evaluate_nested` says so for all values
and conditions.

Elements have one failure of their own, for a value that has none.
-/

namespace ValueAssertions

/-- The condition `{length: c}`. -/
def Condition.underLength (c : Condition) : Condition :=
  .all [.mk .length (.condition c)]

/-- The condition `{each: c}`. -/
def Condition.underEach (c : Condition) : Condition :=
  .all [.mk .each (.condition c)]

namespace Condition

variable {c : Condition} {v : Value} {items : List Value} {failure : Failure}

/-! ## Lengths -/

theorem evaluate_underLength (c : Condition) (v : Value) :
    c.underLength.evaluate v = (c.evaluate v.lengthValue).underLength := by
  rw [underLength, evaluate_single, Clause.evaluate_length]

theorem evaluate_underLength_eq_pass_iff :
    c.underLength.evaluate v = .pass ↔ c.evaluate v.lengthValue = .pass := by
  rw [evaluate_underLength, Outcome.underLength_eq_pass_iff]

theorem evaluate_underLength_eq_fail_iff :
    c.underLength.evaluate v = .fail failure ↔
      ∃ inner, c.evaluate v.lengthValue = .fail inner ∧
        failure = { inner with
          check := .length inner.check
          details := "length " ++ inner.details } := by
  rw [evaluate_underLength, Outcome.underLength_eq_fail_iff]
  exact exists_congr fun inner => and_congr_right fun _ => eq_comm

/-! ## Elements -/

theorem evaluate_underEach_array (c : Condition) (items : List Value) :
    c.underEach.evaluate (.array items) = firstFailure (fun item => c.evaluate item) 0 items := by
  rw [underEach, evaluate_single, Clause.evaluate_each_array]

theorem evaluate_underEach_eq_pass_iff :
    c.underEach.evaluate (.array items) = .pass ↔ ∀ item ∈ items, c.evaluate item = .pass := by
  rw [evaluate_underEach_array, firstFailure_eq_pass_iff]

theorem evaluate_underEach_eq_fail_iff :
    c.underEach.evaluate (.array items) = .fail failure ↔
      ∃ (i : Nat) (item : Value) (inner : Failure), items[i]? = some item ∧
        (∀ j < i, ∀ earlier, items[j]? = some earlier → c.evaluate earlier = .pass) ∧
          c.evaluate item = .fail inner ∧
            failure = { inner with check := .each inner.check, index := some i } := by
  rw [evaluate_underEach_array, firstFailure_eq_fail_iff]
  refine exists_congr fun i => exists_congr fun item => ?_
  rw [Nat.zero_add, Outcome.underEach_eq_fail_iff]
  constructor
  · rintro ⟨hitem, hbefore, inner, hinner, rfl⟩
    exact ⟨inner, hitem, hbefore, hinner, rfl⟩
  · rintro ⟨inner, hitem, hbefore, hinner, rfl⟩
    exact ⟨hitem, hbefore, inner, hinner, rfl⟩

theorem evaluate_underEach_of_not_isArray (hv : ¬ v.IsArray) :
    c.underEach.evaluate v = .fail ⟨.operator .each, .condition c, v, "array", none⟩ := by
  rw [underEach, evaluate_single, Clause.evaluate_each_of_not_isArray hv, failEach]

end Condition

/-- **Nested conditions do all the work.**  A length passes when the nested condition does,
and fails with its failure, one step further up.  An array passes when the nested condition
accepts all elements, and fails with the failure of the first one that is not accepted, one
step further up and with its index.  Elements of anything but an array fail as such. -/
theorem evaluate_nested (c : Condition) (v : Value) :
    ((c.underLength.evaluate v = .pass ↔ c.evaluate v.lengthValue = .pass) ∧
      ∀ failure, c.underLength.evaluate v = .fail failure ↔
        ∃ inner, c.evaluate v.lengthValue = .fail inner ∧
          failure = { inner with
            check := .length inner.check
            details := "length " ++ inner.details }) ∧
    (∀ items, v = .array items →
      (c.underEach.evaluate v = .pass ↔ ∀ item ∈ items, c.evaluate item = .pass) ∧
      ∀ failure, c.underEach.evaluate v = .fail failure ↔
        ∃ (i : Nat) (item : Value) (inner : Failure), items[i]? = some item ∧
          (∀ j < i, ∀ earlier, items[j]? = some earlier → c.evaluate earlier = .pass) ∧
            c.evaluate item = .fail inner ∧
              failure = { inner with check := .each inner.check, index := some i }) ∧
    (¬ v.IsArray →
      c.underEach.evaluate v = .fail ⟨.operator .each, .condition c, v, "array", none⟩) := by
  refine ⟨⟨Condition.evaluate_underLength_eq_pass_iff, fun failure =>
    Condition.evaluate_underLength_eq_fail_iff⟩, ?_, Condition.evaluate_underEach_of_not_isArray⟩
  rintro items rfl
  exact ⟨Condition.evaluate_underEach_eq_pass_iff, fun failure =>
    Condition.evaluate_underEach_eq_fail_iff⟩

/-- Elements with a length. -/
def withLengths : Condition :=
  Condition.underEach (Condition.underLength (.any [
    .literal .null, .all [.mk .type (.value (.string "number"))]]))

/-- The null in `[["a"], ["b", "c", null]]` has no length.  Its own index is lost, and that of
the second array is reported. -/
theorem withLengths_nested :
    (withLengths.evaluate (.array [.string "b", .string "c", .null])).failure?.map
        Failure.index = some (some 2) ∧
      (∃ inner, withLengths.evaluate (.array [.string "b", .string "c", .null]) = .fail inner ∧
        withLengths.underEach.evaluate (.array [.array [.string "a"],
            .array [.string "b", .string "c", .null]]) =
          .fail { inner with check := .each inner.check, index := some 1 }) ∧
      ¬ Value.null.IsArray ∧
      withLengths.underEach.evaluate .null =
        .fail ⟨.operator .each, .condition withLengths, .null, "array", none⟩ := by
  have hnull : ¬ Value.null.IsArray := by
    rintro ⟨items, ⟨⟩⟩
  refine ⟨by decide +kernel, ⟨_, rfl, ?_⟩, hnull, (evaluate_nested withLengths .null).2.2 hnull⟩
  refine (((evaluate_nested withLengths _).2.1 _ rfl).2 _).mpr ⟨1, _, _, rfl, ?_, rfl, rfl⟩
  rintro (_ | j) hj earlier hearlier
  · obtain rfl := Option.some.inj hearlier
    rfl
  · omega

end ValueAssertions
