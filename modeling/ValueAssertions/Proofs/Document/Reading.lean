import ValueAssertions.Document.Basic
import Mathlib.Data.List.Forall2

/-!
# Reading documents

What all readers of documents have in common.  A reader makes something of what is
valid and reports an error for anything else, and a list is read up to the first
error.  `ReadsAs` says of one result that it is right in this sense: it is a success
on something valid, and then the only mirror of it, or else its only fault.  It is
kept by building on what was read (`ReadsAs.map`) and by reading a list
(`ReadsAs.mapM`), which is how a statement about parts becomes one about the whole.

`Document.induction` is the induction that goes with it: a document is a scalar, an
array of documents, or an object with documents under its keys.
-/

namespace ValueAssertions

/-! ## Successes -/

theorem bind_eq_ok_iff {ε α β : Type} {x : Except ε α} {f : α → Except ε β} {b : β} :
    x >>= f = .ok b ↔ ∃ a, x = .ok a ∧ f a = .ok b := by
  cases x with
  | error e => exact ⟨nofun, fun ⟨_, h, _⟩ => nomatch h⟩
  | ok a =>
      constructor
      · intro h
        exact ⟨a, rfl, h⟩
      · rintro ⟨_, ha, h⟩
        cases ha
        exact h

theorem map_eq_ok_iff {ε α β : Type} {x : Except ε α} {f : α → β} {b : β} :
    x.map f = .ok b ↔ ∃ a, x = .ok a ∧ f a = b := by
  cases x with
  | error e => exact ⟨nofun, fun ⟨_, h, _⟩ => nomatch h⟩
  | ok a => simp [Except.map]

/-- Whatever is in a list that was read was read from something. -/
theorem exists_of_mem_of_mapM_eq_ok {ε α β : Type} {f : α → Except ε β} {xs : List α}
    {ys : List β} (h : xs.mapM f = .ok ys) {y : β} (hy : y ∈ ys) : ∃ x ∈ xs, f x = .ok y := by
  induction xs generalizing ys with
  | nil =>
      cases h
      cases hy
  | cons x xs ih =>
      rw [List.mapM_cons, bind_eq_ok_iff] at h
      obtain ⟨first, hfirst, h⟩ := h
      rw [bind_eq_ok_iff] at h
      obtain ⟨rest, hrest, h⟩ := h
      cases h
      rcases List.mem_cons.mp hy with rfl | hmem
      · exact ⟨x, List.mem_cons_self, hfirst⟩
      · obtain ⟨z, hz, hread⟩ := ih hrest hmem
        exact ⟨z, List.mem_cons_of_mem x hz, hread⟩

/-! ## What a reader makes of something -/

/-- What a reader makes of something: from what is valid it makes the only thing that
mirrors it, and for the rest it reports the only fault. -/
inductive ReadsAs {ε α : Type} (valid : Prop) (mirrors : α → Prop) (fault : ε → Prop) :
    Except ε α → Prop
  | ok {a : α} (hvalid : valid) (hmirrors : ∀ b, mirrors b ↔ b = a) (hfault : ∀ e, ¬ fault e) :
      ReadsAs valid mirrors fault (.ok a)
  | error {e : ε} (hvalid : ¬ valid) (hfault : ∀ e', fault e' ↔ e' = e) :
      ReadsAs valid mirrors fault (.error e)

namespace ReadsAs

variable {ε α β : Type} {valid valid' : Prop} {mirrors mirrors' : α → Prop}
  {fault fault' : ε → Prop} {result : Except ε α}

theorem exists_iff (h : ReadsAs valid mirrors fault result) :
    (∃ a, result = .ok a) ↔ valid := by
  cases h with
  | ok hvalid => simp [hvalid]
  | error hvalid => simp [hvalid]

theorem ok_iff (h : ReadsAs valid mirrors fault result) (a : α) :
    result = .ok a ↔ valid ∧ mirrors a := by
  cases h with
  | ok hvalid hmirrors => simp [hvalid, hmirrors, eq_comm]
  | error hvalid => simp [hvalid]

theorem error_iff (h : ReadsAs valid mirrors fault result) (e : ε) :
    result = .error e ↔ fault e := by
  cases h with
  | ok _ _ hfault => simp [hfault]
  | error _ hfault => simp [hfault, eq_comm]

theorem congr (h : ReadsAs valid mirrors fault result) (hvalid : valid ↔ valid')
    (hmirrors : ∀ a, mirrors a ↔ mirrors' a) (hfault : ∀ e, fault e ↔ fault' e) :
    ReadsAs valid' mirrors' fault' result := by
  obtain rfl := propext hvalid
  obtain rfl := funext fun a => propext (hmirrors a)
  obtain rfl := funext fun e => propext (hfault e)
  exact h

/-- What is built from a result mirrors what the result does. -/
theorem map (h : ReadsAs valid mirrors fault result) (build : α → β) :
    ReadsAs valid (fun b => ∃ a, mirrors a ∧ b = build a) fault (result.map build) := by
  cases h with
  | ok hvalid hmirrors hfault => exact .ok hvalid (by simp [hmirrors]) hfault
  | error hvalid hfault => exact .error hvalid hfault

/-- A check that decides validity. -/
theorem check {test : Bool} (h : test = true ↔ valid) (a : α) (e : ε) :
    ReadsAs valid (fun b => b = a) (fun e' => ¬ valid ∧ e' = e)
      (if test then .ok a else .error e) := by
  by_cases hvalid : valid
  · rw [if_pos (h.mpr hvalid)]
    exact .ok hvalid (fun _ => Iff.rfl) fun e' he' => he'.1 hvalid
  · rw [if_neg fun htest => hvalid (h.mp htest)]
    exact .error hvalid fun e' => and_iff_right hvalid

/-- The first fault in a list. -/
def FirstOf (valid : α → Prop) (fault : α → ε → Prop) (xs : List α) (e : ε) : Prop :=
  ∃ before x after, xs = before ++ x :: after ∧ (∀ y ∈ before, valid y) ∧ fault x e

theorem firstOf_cons {valid : α → Prop} {fault : α → ε → Prop} {x : α} {xs : List α} {e : ε} :
    FirstOf valid fault (x :: xs) e ↔ fault x e ∨ valid x ∧ FirstOf valid fault xs e := by
  constructor
  · rintro ⟨before, y, after, heq, hbefore, hfault⟩
    cases before with
    | nil =>
        obtain ⟨rfl, rfl⟩ := List.cons_eq_cons.mp heq
        exact .inl hfault
    | cons z before =>
        obtain ⟨rfl, rfl⟩ := List.cons_eq_cons.mp heq
        obtain ⟨hvalid, hrest⟩ := List.forall_mem_cons.mp hbefore
        exact .inr ⟨hvalid, before, y, after, rfl, hrest, hfault⟩
  · rintro (hfault | ⟨hvalid, before, y, after, rfl, hbefore, hfault⟩)
    · exact ⟨[], x, xs, rfl, by simp, hfault⟩
    · exact ⟨x :: before, y, after, rfl, List.forall_mem_cons.mpr ⟨hvalid, hbefore⟩, hfault⟩

theorem FirstOf.append_left {valid : α → Prop} {fault : α → ε → Prop} {xs ys : List α} {e : ε}
    (h : FirstOf valid fault xs e) : FirstOf valid fault (xs ++ ys) e := by
  obtain ⟨before, x, after, rfl, hbefore, hfault⟩ := h
  exact ⟨before, x, after ++ ys, by simp, hbefore, hfault⟩

theorem FirstOf.append_right {valid : α → Prop} {fault : α → ε → Prop} {xs ys : List α} {e : ε}
    (hvalid : ∀ x ∈ xs, valid x) (h : FirstOf valid fault ys e) :
    FirstOf valid fault (xs ++ ys) e := by
  obtain ⟨before, y, after, rfl, hbefore, hfault⟩ := h
  exact ⟨xs ++ before, y, after, by simp, List.forall_mem_append.mpr ⟨hvalid, hbefore⟩, hfault⟩

/-- The first fault in the parts of a list is that in the parts of the first of its
elements with a fault. -/
theorem FirstOf.flatMap {ε' : Type} {valid : α → Prop} {fault : α → ε → Prop}
    {validPart : β → Prop} {faultPart : β → ε' → Prop} {parts : α → List β} {xs : List α}
    {e : ε} {e' : ε'} (h : FirstOf valid fault xs e)
    (hvalid : ∀ x ∈ xs, valid x → ∀ y ∈ parts x, validPart y)
    (hfault : ∀ x ∈ xs, fault x e → FirstOf validPart faultPart (parts x) e') :
    FirstOf validPart faultPart (xs.flatMap parts) e' := by
  obtain ⟨before, x, after, rfl, hbefore, hx⟩ := h
  have hparts : ∀ y ∈ before.flatMap parts, validPart y := by
    intro y hy
    obtain ⟨z, hz, hmem⟩ := List.mem_flatMap.mp hy
    exact hvalid z (List.mem_append_left _ hz) (hbefore z hz) y hmem
  rw [List.flatMap_append, List.flatMap_cons]
  exact (hfault x (by simp) hx).append_left.append_right hparts

/-- A list that is read up to the first error. -/
theorem mapM {f : α → Except ε β} {valid : α → Prop} {mirrors : α → β → Prop}
    {fault : α → ε → Prop} {xs : List α}
    (h : ∀ x ∈ xs, ReadsAs (valid x) (mirrors x) (fault x) (f x)) :
    ReadsAs (∀ x ∈ xs, valid x) (List.Forall₂ mirrors xs) (FirstOf valid fault xs)
      (xs.mapM f) := by
  induction xs with
  | nil =>
      refine .ok (by simp) (fun ys => List.forall₂_nil_left_iff) ?_
      rintro e ⟨before, x, after, heq, -⟩
      simp at heq
  | cons x xs ih =>
      have hx := h x List.mem_cons_self
      have hxs := ih fun y hy => h y (List.mem_cons_of_mem x hy)
      rw [List.mapM_cons]
      generalize f x = first at hx ⊢
      generalize xs.mapM f = rest at hxs ⊢
      cases hx with
      | error hvalid hfault =>
          refine .error (by simp [hvalid]) fun e' => ?_
          rw [firstOf_cons]
          simp [hvalid, hfault]
      | @ok y hvalid hmirrors hfault =>
          cases hxs with
          | error hvalids hfaults =>
              refine .error (by simp [hvalids]) fun e' => ?_
              rw [firstOf_cons]
              simp [hvalid, hfault, hfaults]
          | @ok ys hvalids hmirrorsAll hfaults =>
              refine .ok (List.forall_mem_cons.mpr ⟨hvalid, hvalids⟩) (fun all => ?_) fun e => ?_
              · rw [List.forall₂_cons_left_iff]
                simp [hmirrors, hmirrorsAll]
              · rw [firstOf_cons]
                simp [hfault, hfaults]

end ReadsAs

/-! ## Induction on documents -/

namespace Document

theorem eq_array_or_ne (d : Document) :
    (∃ items, d = .array items) ∨ ∀ items, d ≠ .array items := by
  by_cases h : ∃ items, d = .array items
  · exact .inl h
  · exact .inr fun items heq => h ⟨items, heq⟩

/-- A document without parts. -/
inductive IsScalar : Document → Prop
  | null : IsScalar .null
  | bool (value : Bool) : IsScalar (.bool value)
  | number (numeral : Numeral) : IsScalar (.number numeral)
  | string (text : String) : IsScalar (.string text)

/-- Induction on a document.  One may assume the property for the items of an array
and for what stands under the keys of an object. -/
@[elab_as_elim]
theorem induction {motive : Document → Prop} (scalar : ∀ d, d.IsScalar → motive d)
    (array : ∀ items, (∀ item ∈ items, motive item) → motive (.array items))
    (object : ∀ members, (∀ key d, (key, d) ∈ members → motive d) → motive (.object members))
    (d : Document) : motive d :=
  match d with
  | .null => scalar _ .null
  | .bool value => scalar _ (.bool value)
  | .number numeral => scalar _ (.number numeral)
  | .string text => scalar _ (.string text)
  | .array items => array items fun item _hmem => induction scalar array object item
  | .object members => object members fun _ d _hmem => induction scalar array object d
termination_by sizeOf d
decreasing_by
  · have := List.sizeOf_lt_of_mem _hmem
    simp only [Document.array.sizeOf_spec]
    omega
  · have := List.sizeOf_lt_of_mem _hmem
    simp only [Document.object.sizeOf_spec, Prod.mk.sizeOf_spec] at this ⊢
    omega

end Document

end ValueAssertions
