import ValueAssertions.Proofs.Condition.NormalForm
import ValueAssertions.Proofs.Condition.Union
import Mathlib.Data.String.Basic
import Mathlib.Order.Compare

/-!
# The order of values

The operators `lt`, `lte`, `gt` and `gte` ask for an order of two values.  Numbers have one
unless they are not-a-number, and so have texts (`Value.Comparable`); no other two values
have one, and then all four operators say no.  `lte` and `gte` exclude one order in place of
asking for the other two, which comes to the same because there is an order to begin with.

Numbers are compared by their places on a line of integers, and texts as lists of characters.
Both of these are total orders, and their laws carry over to values: the order of the two
sides turns round with them (`Value.compare?_swap`), values are equal when their order is that
of equals (`Value.beq_iff_compare?`), and orders that are not reversed can be chained
(`Value.compares_trans`).
-/

namespace ValueAssertions

/-! ## Numbers -/

namespace Number

variable {m n : Number}

theorem exists_place (h : m ≠ .nan) : ∃ x, m.place = some x := by
  cases m with
  | nan => exact absurd rfl h
  | infinite negative => exact ⟨_, rfl⟩
  | finite negative magnitude => exact ⟨_, rfl⟩

theorem compare?_eq_some_iff {order : Ordering} :
    m.compare? n = some order ↔
      ∃ x y, m.place = some x ∧ n.place = some y ∧ compare x y = order := by
  rw [compare?]
  cases m.place with
  | none => simp
  | some x => cases n.place <;> simp

end Number

/-! ## Comparable values -/

namespace Value

variable {a b c : Value} {order : Ordering}

/-- Two values that have an order: numbers, neither of which is not-a-number, or texts. -/
inductive Comparable : Value → Value → Prop
  | numbers {m n : Number} (hm : m ≠ .nan) (hn : n ≠ .nan) :
      Comparable (.number m) (.number n)
  | texts (s t : String) : Comparable (.string s) (.string t)

/-- Comparable values stand at two places of one total order, that of the integers or that of
texts. -/
theorem compare?_eq_some_iff :
    a.compare? b = some order ↔
      (∃ m n x y, a = .number m ∧ b = .number n ∧ m.place = some x ∧ n.place = some y ∧
        compare x y = order) ∨
      ∃ s t, a = .string s ∧ b = .string t ∧ compare s t = order := by
  cases a <;> cases b <;> simp [compare?, Number.compare?_eq_some_iff]

theorem Comparable.exists_order (h : a.Comparable b) : ∃ order, a.compare? b = some order := by
  cases h with
  | @numbers m n hm hn =>
      obtain ⟨x, hx⟩ := Number.exists_place hm
      obtain ⟨y, hy⟩ := Number.exists_place hn
      exact ⟨_, Number.compare?_eq_some_iff.mpr ⟨x, y, hx, hy, rfl⟩⟩
  | texts s t => exact ⟨_, rfl⟩

theorem comparable_of_compare? (h : a.compare? b = some order) : a.Comparable b := by
  rcases compare?_eq_some_iff.mp h with
    ⟨m, n, x, y, rfl, rfl, hx, hy, -⟩ | ⟨s, t, rfl, rfl, -⟩
  · refine .numbers ?_ ?_
    · rintro rfl
      cases hx
    · rintro rfl
      cases hy
  · exact .texts s t

theorem compare?_swap (h : a.compare? b = some order) : b.compare? a = some order.swap := by
  rw [compare?_eq_some_iff] at h ⊢
  rcases h with ⟨m, n, x, y, rfl, rfl, hx, hy, rfl⟩ | ⟨s, t, rfl, rfl, rfl⟩
  · exact .inl ⟨n, m, y, x, rfl, rfl, hy, hx, Std.OrientedCmp.eq_swap⟩
  · exact .inr ⟨t, s, rfl, rfl, Std.OrientedCmp.eq_swap⟩

/-- Comparable values are equal when their order says so. -/
theorem beq_iff_compare? (h : a.Comparable b) :
    (a == b) = true ↔ a.compare? b = some .eq := by
  cases h with
  | @numbers m n hm hn =>
      change (m.compare? n == some .eq) = true ↔ m.compare? n = some .eq
      rw [beq_iff_eq]
  | texts s t =>
      change (s == t) = true ↔ some (compare s t) = some .eq
      rw [beq_iff_eq, Option.some.injEq, Std.LawfulEqCmp.compare_eq_iff_eq]

/-- What can be chained in every total order can be chained here. -/
theorem compares_trans {accepts : Ordering → Bool}
    (hchain : ∀ (α : Type) [Ord α] [Std.TransOrd α] (x y z : α), accepts (compare x y) = true →
      accepts (compare y z) = true → accepts (compare x z) = true)
    (hab : a.compares b accepts = true) (hbc : b.compares c accepts = true) :
    a.compares c accepts = true := by
  rw [compares_iff] at hab hbc ⊢
  obtain ⟨first, hfirst, hab⟩ := hab
  obtain ⟨second, hsecond, hbc⟩ := hbc
  rcases compare?_eq_some_iff.mp hfirst with
    ⟨m, n, x, y, rfl, rfl, hx, hy, rfl⟩ | ⟨s, t, rfl, rfl, rfl⟩
  · obtain ⟨_, k, y', z, hn, rfl, hy', hz, rfl⟩ | ⟨_, _, hn, -⟩ := compare?_eq_some_iff.mp hsecond
    · cases hn
      obtain rfl : y = y' := Option.some.inj (hy.symm.trans hy')
      exact ⟨compare x z, Number.compare?_eq_some_iff.mpr ⟨x, z, hx, hz, rfl⟩,
        hchain Int x y z hab hbc⟩
    · cases hn
  · obtain ⟨_, _, _, _, ht, -⟩ | ⟨_, u, ht, rfl, rfl⟩ := compare?_eq_some_iff.mp hsecond
    · cases ht
    · cases ht
      exact ⟨compare s u, rfl, hchain String s t u hab hbc⟩

end Value

/-! ## The operators -/

/-- The operators that ask for an order. -/
def Operator.ordering : List Operator := [.lt, .lte, .gt, .gte]

/-- The orders that an operator accepts. -/
def Operator.acceptsOrder : Operator → Ordering → Bool
  | .lt => (· == .lt)
  | .lte => (· != .gt)
  | .gt => (· == .gt)
  | .gte => (· != .lt)
  | _ => fun _ => false

/-- The operator that an order of two values satisfies. -/
def Operator.ofOrder : Ordering → Operator
  | .lt => .lt
  | .eq => .eq
  | .gt => .gt

section Passes

variable {operator : Operator} {a b c : Value} {order : Ordering}

theorem passes_eq_iff : a.Passes .eq b ↔ (a == b) = true := by
  rw [Value.Passes, Reference.accepts_leaf_iff rfl]
  simp [Operator.holds, Reference.valueList]

theorem passes_ordering_iff (h : operator ∈ Operator.ordering) :
    a.Passes operator b ↔ a.compares b operator.acceptsOrder = true := by
  simp only [Operator.ordering, List.mem_cons, List.not_mem_nil, or_false] at h
  rcases h with rfl | rfl | rfl | rfl
  all_goals
    rw [Value.Passes, Reference.accepts_leaf_iff rfl]
    simp [Operator.holds, Reference.valueList, Operator.acceptsOrder]

/-- Of comparable values it is their order that counts. -/
theorem passes_ordering_iff_of_compare? (h : operator ∈ Operator.ordering)
    (horder : a.compare? b = some order) :
    a.Passes operator b ↔ operator.acceptsOrder order = true := by
  rw [passes_ordering_iff h, Value.compares, horder]

theorem passes_eq_iff_of_compare? (horder : a.compare? b = some order) :
    a.Passes .eq b ↔ order = .eq := by
  rw [passes_eq_iff, Value.beq_iff_compare? (Value.comparable_of_compare? horder), horder,
    Option.some.injEq]

theorem comparable_of_passes (h : operator ∈ Operator.ordering) (hpasses : a.Passes operator b) :
    a.Comparable b := by
  rw [passes_ordering_iff h, Value.compares_iff] at hpasses
  obtain ⟨order, horder, -⟩ := hpasses
  exact Value.comparable_of_compare? horder

/-- Of the operators that ask for one order, it is that of the order there is that accepts. -/
theorem passes_ofOrder_iff (horder : a.compare? b = some order) (asked : Ordering) :
    a.Passes (.ofOrder asked) b ↔ order = asked := by
  cases asked with
  | lt => exact (passes_ordering_iff_of_compare? (by decide) horder).trans beq_iff_eq
  | eq => exact passes_eq_iff_of_compare? horder
  | gt => exact (passes_ordering_iff_of_compare? (by decide) horder).trans beq_iff_eq

theorem Operator.mem_iff_exists_ofOrder :
    operator ∈ [.lt, .eq, .gt] ↔ ∃ asked, operator = .ofOrder asked := by
  constructor
  · simp only [List.mem_cons, List.not_mem_nil, or_false]
    rintro (rfl | rfl | rfl)
    exacts [⟨.lt, rfl⟩, ⟨.eq, rfl⟩, ⟨.gt, rfl⟩]
  · rintro ⟨asked, rfl⟩
    cases asked <;> decide

/-- One of three operators accepts a value that is comparable. -/
theorem existsUnique_passes (h : a.Comparable b) :
    ∃! operator, operator ∈ [.lt, .eq, .gt] ∧ a.Passes operator b := by
  obtain ⟨order, horder⟩ := h.exists_order
  refine ⟨.ofOrder order, ⟨Operator.mem_iff_exists_ofOrder.mpr ⟨order, rfl⟩,
    (passes_ofOrder_iff horder order).mpr rfl⟩, ?_⟩
  rintro operator ⟨hmem, hpasses⟩
  obtain ⟨asked, rfl⟩ := Operator.mem_iff_exists_ofOrder.mp hmem
  rw [(passes_ofOrder_iff horder asked).mp hpasses]

/-- The order is turned round with the two sides. -/
theorem passes_lt_iff_passes_gt : a.Passes .lt b ↔ b.Passes .gt a := by
  have hturn : ∀ {a b : Value} {operator turned : Operator}, operator ∈ Operator.ordering →
      turned ∈ Operator.ordering →
      (∀ order, operator.acceptsOrder order = turned.acceptsOrder order.swap) →
      a.Passes operator b → b.Passes turned a := by
    intro a b operator turned hoperator hturned hswap h
    rw [passes_ordering_iff hoperator, Value.compares_iff] at h
    obtain ⟨order, horder, haccepts⟩ := h
    rw [passes_ordering_iff_of_compare? hturned (Value.compare?_swap horder), ← hswap]
    exact haccepts
  exact ⟨hturn (by decide) (by decide) (by decide), hturn (by decide) (by decide) (by decide)⟩

theorem passes_lt_trans (hab : a.Passes .lt b) (hbc : b.Passes .lt c) : a.Passes .lt c := by
  rw [passes_ordering_iff (by decide)] at hab hbc ⊢
  refine Value.compares_trans ?_ hab hbc
  intro α _ _ x y z hxy hyz
  exact beq_iff_eq.mpr (Std.TransCmp.lt_trans (eq_of_beq hxy) (eq_of_beq hyz))

theorem passes_lte_trans (hab : a.Passes .lte b) (hbc : b.Passes .lte c) : a.Passes .lte c := by
  have hle : ∀ order, Operator.lte.acceptsOrder order = order.isLE := by decide
  rw [passes_ordering_iff (by decide)] at hab hbc ⊢
  refine Value.compares_trans ?_ hab hbc
  intro α _ _ x y z hxy hyz
  rw [hle] at hxy hyz ⊢
  exact Std.TransCmp.isLE_trans hxy hyz

/-- Texts are compared by the code points of their characters. -/
theorem compare_eq_lt_iff_codePoints {s t : String} :
    compare s t = .lt ↔ s.toList.map Char.toNat < t.toList.map Char.toNat := by
  have hmono : StrictMono fun text : List Char => text.map Char.toNat := by
    intro as bs h
    exact List.map_lt (fun c d hcd => hcd) h
  rw [compare_lt_iff_lt, String.lt_iff_toList_lt]
  exact hmono.lt_iff_lt.symm

theorem passes_lt_string_iff {s t : String} :
    (Value.string s).Passes .lt (.string t) ↔
      s.toList.map Char.toNat < t.toList.map Char.toNat := by
  rw [passes_ordering_iff (by decide), ← compare_eq_lt_iff_codePoints]
  exact beq_iff_eq

theorem clause_passes {operator : Operator} (h : operator ∈ .eq :: Operator.ordering) (b : Value) :
    Condition.clause operator (.value b) = .ok (.all [.mk operator (.value b)]) := by
  -- These operators take any value: they ask neither for a string nor for a truth value.
  have hoperator : operator.isNested = false ∧ operator.isPattern = false ∧
      operator ≠ .type ∧ operator ≠ .integer := by
    revert h
    cases operator <;> decide
  obtain ⟨hnested, hpattern, htype, hinteger⟩ := hoperator
  exact Condition.clause_of_normal
    ⟨hnested, hpattern, fun h => absurd h htype, fun h => absurd h hinteger⟩

end Passes

/-- **The order of values.**  Of comparable values exactly one is true, that the first is less,
equal or greater; `lte` and `gte` add equality to the strict operators, and with the sides the
order is turned round.  Both `lt` and `lte` can be chained.  What is not comparable passes none
of the four operators.  Texts are ordered by their code points. -/
theorem passes_totalOrder (a b c : Value) :
    (∀ operator ∈ [.eq, .lt, .lte, .gt, .gte],
      Condition.clause operator (.value b) = .ok (.all [.mk operator (.value b)])) ∧
    (a.Comparable b →
      (∃! operator, operator ∈ [.lt, .eq, .gt] ∧ a.Passes operator b) ∧
      (a.Passes .lte b ↔ a.Passes .lt b ∨ a.Passes .eq b) ∧
      (a.Passes .gte b ↔ a.Passes .gt b ∨ a.Passes .eq b) ∧
      (a.Passes .lt b ↔ b.Passes .gt a)) ∧
    (a.Passes .lt b → b.Passes .lt c → a.Passes .lt c) ∧
    (a.Passes .lte b → b.Passes .lte c → a.Passes .lte c) ∧
    (¬ a.Comparable b → ∀ operator ∈ [.lt, .lte, .gt, .gte], ¬ a.Passes operator b) ∧
    ∀ s t : String, (Value.string s).Passes .lt (.string t) ↔
      s.toList.map Char.toNat < t.toList.map Char.toNat := by
  refine ⟨fun operator h => clause_passes h b, fun h => ?comparable, passes_lt_trans,
    passes_lte_trans, fun h operator hmem hpasses => h (comparable_of_passes hmem hpasses),
    fun s t => passes_lt_string_iff⟩
  case comparable =>
    obtain ⟨order, horder⟩ := h.exists_order
    have hlte : ∀ order, Operator.lte.acceptsOrder order = true ↔
        Operator.lt.acceptsOrder order = true ∨ order = .eq := by decide
    have hgte : ∀ order, Operator.gte.acceptsOrder order = true ↔
        Operator.gt.acceptsOrder order = true ∨ order = .eq := by decide
    refine ⟨existsUnique_passes h, ?lte, ?gte, passes_lt_iff_passes_gt⟩
    case lte =>
      rw [passes_ordering_iff_of_compare? (by decide) horder, hlte,
        passes_ordering_iff_of_compare? (by decide) horder, passes_eq_iff_of_compare? horder]
    case gte =>
      rw [passes_ordering_iff_of_compare? (by decide) horder, hgte,
        passes_ordering_iff_of_compare? (by decide) horder, passes_eq_iff_of_compare? horder]

end ValueAssertions
