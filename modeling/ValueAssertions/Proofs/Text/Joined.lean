import ValueAssertions.Text.Search
import Mathlib.Data.List.Basic

/-!
# Laws of joined texts

Texts are joined with one separator between each two (`joinWith`), or as the phrases of
alternatives, with `or` before the last (`joinAlternatives`).  Both begin with the first text,
and what comes after it is a row of separators and texts.

Phrases that are at most as long as others, each as the one in its place, join to the same
text only when all of them are as long (`joinAlternatives_map_eq_iff`): none can make up for
another one.
-/

namespace ValueAssertions

/-! ## Separators -/

theorem joinWith_cons (separator first : List Char) (rest : List (List Char)) :
    joinWith separator (first :: rest) = first ++ rest.flatMap fun text => separator ++ text := by
  induction rest generalizing first with
  | nil => simp [joinWith]
  | cons next rest ih => simp [joinWith, ih]

theorem joinWith_map_cons {α : Type} (separator : Char) (write : α → List Char) (x : α)
    (xs : List α) :
    joinWith [separator] ((x :: xs).map write) =
      write x ++ xs.flatMap fun x => separator :: write x := by
  rw [List.map_cons, joinWith_cons, List.flatMap_map]
  rfl

/-! ## Phrases -/

theorem joinAlternatives_singleton (only : String) : joinAlternatives [only] = only :=
  rfl

theorem joinAlternatives_pair (first last : String) :
    joinAlternatives [first, last] = first ++ " or " ++ last := by
  simp [joinAlternatives]

theorem joinAlternatives_cons (first second third : String) (rest : List String) :
    joinAlternatives (first :: second :: third :: rest) =
      first ++ ", " ++ joinAlternatives (second :: third :: rest) := by
  simp [joinAlternatives, String.append_assoc]

section Join

variable {α : Type} {f g : α → String} {xs : List α}

/-- Longer phrases make a longer text, unless each is as long as the one in its place. -/
theorem length_joinAlternatives_map (h : ∀ x ∈ xs, (f x).length ≤ (g x).length) :
    (joinAlternatives (xs.map f)).length ≤ (joinAlternatives (xs.map g)).length ∧
      ((joinAlternatives (xs.map f)).length = (joinAlternatives (xs.map g)).length ↔
        ∀ x ∈ xs, (f x).length = (g x).length) := by
  induction xs with
  | nil => simp
  | cons x xs ih =>
      obtain ⟨hx, hxs⟩ := List.forall_mem_cons.mp h
      obtain ⟨hle, heq⟩ := ih hxs
      rw [List.forall_mem_cons, ← heq]
      match xs with
      | [] => simpa [joinAlternatives_singleton] using hx
      | [y] =>
          simp only [List.map_cons, List.map_nil, joinAlternatives_pair,
            joinAlternatives_singleton, String.length_append] at hle ⊢
          omega
      | y :: z :: rest =>
          simp only [List.map_cons, joinAlternatives_cons, String.length_append] at hle ⊢
          omega

theorem joinAlternatives_map_eq_iff (h : ∀ x ∈ xs, (f x).length ≤ (g x).length)
    (hlength : ∀ x ∈ xs, (f x).length = (g x).length → f x = g x) :
    joinAlternatives (xs.map f) = joinAlternatives (xs.map g) ↔
      ∀ x ∈ xs, (f x).length = (g x).length := by
  constructor
  · intro heq
    exact (length_joinAlternatives_map h).2.mp (congrArg String.length heq)
  · intro heq
    rw [List.map_congr_left fun x hx => hlength x hx (heq x hx)]

end Join

end ValueAssertions
