import ValueAssertions.Condition.Leaf
import ValueAssertions.Proofs.Number.Equality
import Mathlib.Data.List.Forall2

/-!
# Equal values

Equal values have one shape and hold the same texts, names and truth values, but only
equal numbers, so that the zeros of both signs may stand for each other anywhere inside.
A value with not-a-number in it is equal to nothing.

A fact about equal values is proved by induction on both of them at once
(`Value.beq_induction`): one may assume it for the elements of two arrays in step, and
for the fields of two objects.  In this way it is shown that equality is symmetric and
transitive, and that equal values are written alike and stand alike to other values in
everything that leaf operators ask.
-/

namespace ValueAssertions

/-! ## Lists in step -/

section Forall₂

variable {α β γ : Type} {as : List α} {bs : List β}

theorem forall₂_imp_mem {R S : α → β → Prop} (h : List.Forall₂ R as bs)
    (himp : ∀ a ∈ as, ∀ b ∈ bs, R a b → S a b) : List.Forall₂ S as bs := by
  induction h with
  | nil => exact .nil
  | cons hab _ ih =>
      refine .cons (himp _ List.mem_cons_self _ List.mem_cons_self hab) (ih ?_)
      exact fun a ha b hb => himp a (List.mem_cons_of_mem _ ha) b (List.mem_cons_of_mem _ hb)

/-- Lists that are in step with one list are in step with each other. -/
theorem forall₂_trans {R : α → β → Prop} {S : β → γ → Prop} {T : α → γ → Prop}
    (htrans : ∀ a b c, R a b → S b c → T a c) {cs : List γ}
    (hab : List.Forall₂ R as bs) (hbc : List.Forall₂ S bs cs) : List.Forall₂ T as cs := by
  induction hab generalizing cs with
  | nil =>
      cases hbc
      exact .nil
  | cons hfirst _ ih =>
      cases hbc with
      | cons hsecond hrest => exact .cons (htrans _ _ _ hfirst hsecond) (ih hrest)

theorem map_eq_of_forall₂ {f : α → γ} {g : β → γ}
    (h : List.Forall₂ (fun a b => f a = g b) as bs) : as.map f = bs.map g := by
  rw [← List.forall₂_eq_eq_eq, List.forall₂_map_left_iff, List.forall₂_map_right_iff]
  exact h

theorem any_eq_of_forall₂ {p : α → Bool} {q : β → Bool}
    (h : List.Forall₂ (fun a b => p a = q b) as bs) : as.any p = bs.any q := by
  have hany : (as.map p).any id = (bs.map q).any id := by rw [map_eq_of_forall₂ h]
  rwa [List.any_map, List.any_map] at hany

/-- A test that goes through two lists at once, member by member, holds when they are in
step. -/
theorem test_iff_forall₂ {test : List α → List β → Bool} {same : α → β → Bool}
    (hnil : test [] [] = true) (hleft : ∀ a as, test (a :: as) [] = false)
    (hright : ∀ b bs, test [] (b :: bs) = false)
    (hcons : ∀ a as b bs, test (a :: as) (b :: bs) = (same a b && test as bs)) :
    test as bs = true ↔ List.Forall₂ (fun a b => same a b = true) as bs := by
  induction as generalizing bs with
  | nil => cases bs <;> simp [hnil, hright]
  | cons a as ih =>
      cases bs with
      | nil => simp [hleft]
      | cons b bs => rw [hcons, Bool.and_eq_true, ih, List.forall₂_cons]

end Forall₂

namespace Value

/-! ## Induction on equal values -/

theorem sameItems_iff {as bs : List Value} :
    sameItems as bs = true ↔ List.Forall₂ (fun a b => (a == b) = true) as bs :=
  test_iff_forall₂ rfl (fun _ _ => rfl) (fun _ _ => rfl) (fun _ _ _ _ => rfl)

theorem sameFields_iff {fs gs : List (String × Value)} :
    sameFields fs gs = true ↔
      List.Forall₂ (fun f g => f.1 = g.1 ∧ (f.2 == g.2) = true) fs gs := by
  have htest : sameFields fs gs = true ↔
      List.Forall₂ (fun f g => (f.1 == g.1 && f.2 == g.2) = true) fs gs :=
    test_iff_forall₂ rfl (fun _ _ => rfl) (fun _ _ => rfl) (fun _ _ _ _ => rfl)
  simpa only [Bool.and_eq_true, beq_iff_eq] using htest

theorem beq_array_iff {as bs : List Value} :
    (array as == array bs) = true ↔ List.Forall₂ (fun a b => (a == b) = true) as bs :=
  sameItems_iff

theorem beq_object_iff {fs gs : List (String × Value)} :
    (object fs == object gs) = true ↔
      List.Forall₂ (fun f g => f.1 = g.1 ∧ (f.2 == g.2) = true) fs gs :=
  sameFields_iff

/-- Induction on two equal values.  Of the elements of arrays and of the fields of
objects one may assume the property. -/
@[elab_as_elim]
theorem beq_induction {motive : (a b : Value) → (a == b) = true → Prop}
    (undefined : motive .undefined .undefined rfl) (null : motive .null .null rfl)
    (bool : ∀ x h, motive (.bool x) (.bool x) h)
    (number : ∀ m n (h : (m == n) = true), motive (.number m) (.number n) h)
    (string : ∀ s h, motive (.string s) (.string s) h)
    (array : ∀ as bs h, List.Forall₂ (fun a b => ∃ h, motive a b h) as bs →
      motive (.array as) (.array bs) h)
    (object : ∀ fs gs h, List.Forall₂ (fun f g => f.1 = g.1 ∧ ∃ h, motive f.2 g.2 h) fs gs →
      motive (.object fs) (.object gs) h)
    (function : ∀ name h, motive (.function name) (.function name) h)
    (a b : Value) (h : (a == b) = true) : motive a b h := by
  cases a with
  | undefined => cases b <;> first | exact undefined | cases h
  | null => cases b <;> first | exact null | cases h
  | bool x =>
      cases b <;> try cases h
      next y =>
        obtain rfl : x = y := by simpa using (show (x == y) = true from h)
        exact bool x h
  | number m =>
      cases b <;> first | exact number _ _ h | cases h
  | string s =>
      cases b <;> try cases h
      next t =>
        obtain rfl : s = t := by simpa using (show (s == t) = true from h)
        exact string s h
  | array as =>
      cases b <;> try cases h
      next bs =>
        refine array as bs h (forall₂_imp_mem (beq_array_iff.mp h) fun a _hmem b _ hab => ?_)
        exact ⟨hab, beq_induction undefined null bool number string array object function a b hab⟩
  | object fs =>
      cases b <;> try cases h
      next gs =>
        refine object fs gs h (forall₂_imp_mem (beq_object_iff.mp h) fun f _hmem g _ hfg => ?_)
        exact ⟨hfg.1, hfg.2,
          beq_induction undefined null bool number string array object function f.2 g.2 hfg.2⟩
  | function name =>
      cases b <;> try cases h
      next other =>
        obtain rfl : name = other := by simpa using (show (name == other) = true from h)
        exact function name h
termination_by sizeOf a
decreasing_by
  · subst_vars
    have := List.sizeOf_lt_of_mem _hmem
    simp only [Value.array.sizeOf_spec]
    omega
  · subst_vars
    have := List.sizeOf_lt_of_mem _hmem
    obtain ⟨name, v⟩ := f
    simp only [Value.object.sizeOf_spec, Prod.mk.sizeOf_spec] at this ⊢
    omega

/-! ## Symmetry and transitivity -/

theorem beq_symm {a b : Value} (h : (a == b) = true) : (b == a) = true := by
  induction a, b, h using beq_induction with
  | undefined => rfl
  | null => rfl
  | bool x h => exact h
  | number m n h => exact Number.beq_symm h
  | string s h => exact h
  | array as bs _ ih =>
      rw [beq_array_iff]
      exact (ih.imp fun a b ⟨_, hba⟩ => hba).flip
  | object fs gs _ ih =>
      rw [beq_object_iff]
      exact (ih.imp fun f g ⟨hname, _, hgf⟩ => ⟨hname.symm, hgf⟩).flip
  | function name h => exact h

theorem beq_trans {a b c : Value} (hab : (a == b) = true) (hbc : (b == c) = true) :
    (a == c) = true := by
  induction a, b, hab using beq_induction generalizing c with
  | undefined => exact hbc
  | null => exact hbc
  | bool x _ => exact hbc
  | number m n h =>
      cases c with
      | number k => exact Number.beq_trans h hbc
      | _ => cases hbc
  | string s _ => exact hbc
  | array as bs _ ih =>
      cases c with
      | array cs =>
          rw [beq_array_iff] at hbc ⊢
          exact forall₂_trans (fun a b c ⟨_, htrans⟩ hbc => htrans hbc) ih hbc
      | _ => cases hbc
  | object fs gs _ ih =>
      cases c with
      | object hs =>
          rw [beq_object_iff] at hbc ⊢
          exact forall₂_trans (fun f g h ⟨hname, _, htrans⟩ ⟨hname', hgh⟩ =>
            ⟨hname.trans hname', htrans hgh⟩) ih hbc
      | _ => cases hbc
  | function name _ => exact hbc

/-- Values may be replaced by equal ones in an equation. -/
theorem beq_congr {a b a' b' : Value} (ha : (a == a') = true) (hb : (b == b') = true) :
    (a == b) = (a' == b') := by
  rw [Bool.eq_iff_iff]
  constructor
  · intro hab
    exact beq_trans (beq_symm ha) (beq_trans hab hb)
  · intro hab
    exact beq_trans ha (beq_trans hab (beq_symm hb))

/-! ## Written forms -/

theorem compactItems_eq_map (items : List Value) : compactItems items = items.map compact := by
  induction items with
  | nil => rfl
  | cons item items ih => rw [compactItems, ih, List.map_cons]

theorem compactFields_eq_map (fields : List (String × Value)) :
    compactFields fields =
      fields.map fun field => Quoted.encode field.1.toList ++ ':' :: field.2.compact := by
  induction fields with
  | nil => rfl
  | cons field fields ih => rw [compactFields, ih, List.map_cons]

theorem compact_eq_of_beq {a b : Value} (h : (a == b) = true) : a.compact = b.compact := by
  induction a, b, h using beq_induction with
  | undefined => rfl
  | null => rfl
  | bool x _ => rfl
  | number m n h =>
      rw [compact, compact]
      exact Number.text_eq_of_beq h
  | string s _ => rfl
  | array as bs _ ih =>
      have hitems : as.map compact = bs.map compact :=
        map_eq_of_forall₂ (ih.imp fun a b ⟨_, hcompact⟩ => hcompact)
      rw [compact, compact, compactItems_eq_map, compactItems_eq_map, hitems]
  | object fs gs _ ih =>
      have hfields : compactFields fs = compactFields gs := by
        rw [compactFields_eq_map, compactFields_eq_map]
        refine map_eq_of_forall₂ (ih.imp ?_)
        rintro f g ⟨hname, _, hcompact⟩
        rw [hname, hcompact]
      rw [compact, compact, hfields]
  | function name _ => rfl

theorem quoted_eq_of_beq {a b : Value} (h : (a == b) = true) : a.quoted = b.quoted := by
  have hcompact : a.compact = b.compact := compact_eq_of_beq h
  induction a, b, h using beq_induction with
  | number => exact congrArg String.ofList hcompact
  | array => exact congrArg String.ofList hcompact
  | object => exact congrArg String.ofList hcompact
  | _ => rfl

theorem plain_eq_of_beq {a b : Value} (h : (a == b) = true) : a.plain = b.plain := by
  have hquoted : a.quoted = b.quoted := quoted_eq_of_beq h
  induction a, b, h using beq_induction with
  | number => exact hquoted
  | array => exact hquoted
  | object => exact hquoted
  | _ => rfl

/-! ## What leaf operators ask -/

section Leaf

variable {v w r s : Value}

theorem typeTag_eq_of_beq (h : (v == w) = true) : v.typeTag = w.typeTag := by
  induction v, w, h using beq_induction <;> rfl

theorem asString?_eq_of_beq (h : (v == w) = true) : v.asString? = w.asString? := by
  induction v, w, h using beq_induction <;> rfl

theorem asBool?_eq_of_beq (h : (v == w) = true) : v.asBool? = w.asBool? := by
  induction v, w, h using beq_induction <;> rfl

theorem length?_eq_of_beq (h : (v == w) = true) : v.length? = w.length? := by
  induction v, w, h using beq_induction with
  | array as bs _ ih => rw [length?, length?, ih.length_eq]
  | _ => rfl

theorem lengthValue_beq (h : (v == w) = true) : (v.lengthValue == w.lengthValue) = true := by
  rw [lengthValue, lengthValue, length?_eq_of_beq h]
  cases w.length? with
  | none => rfl
  | some n => exact Number.ofNat_beq_self n

theorem compares_congr (hv : (v == w) = true) (hr : (r == s) = true)
    (accepts : Ordering → Bool) : v.compares r accepts = w.compares s accepts := by
  -- Only two numbers and two texts have an order, and equal texts are the same.
  have horder : v.compare? r = w.compare? s := by
    induction v, w, hv using beq_induction with
    | number m n hmn =>
        induction r, s, hr using beq_induction with
        | number k l hkl => exact Number.compare?_congr hmn hkl
        | _ => rfl
    | string text _ => induction r, s, hr using beq_induction <;> rfl
    | _ => rfl
  rw [compares, compares, horder]

theorem isIntegerAs_congr (hv : (v == w) = true) (hr : (r == s) = true) :
    v.isIntegerAs r = w.isIntegerAs s := by
  have hinteger : v.isInteger = w.isInteger := by
    induction v, w, hv using beq_induction with
    | number m n h => exact Number.isIntegral_eq_of_beq h
    | _ => rfl
  have hnumber : v.asNumber?.isSome = w.asNumber?.isSome := by
    induction v, w, hv using beq_induction <;> rfl
  induction r, s, hr using beq_induction with
  | bool b _ => cases b <;> simp only [isIntegerAs, hinteger, hnumber]
  | _ => rfl

theorem isMultipleOf_congr (hv : (v == w) = true) (hr : (r == s) = true) :
    v.isMultipleOf r = w.isMultipleOf s := by
  induction v, w, hv using beq_induction with
  | number m n hmn =>
      induction r, s, hr using beq_induction with
      | number k l hkl => exact Number.isExactQuotient_congr hmn hkl
      | _ => rfl
  | _ => rfl

end Leaf

end Value

end ValueAssertions
