import ValueAssertions.Text.Blank
import Mathlib.Data.List.TakeWhile

/-!
# Spans and trimming

A reader of text takes the longest span of characters of one kind.  When a text is
put together from spans, the reader finds the first of them again if the character
after it is of another kind (`takeWhile_span`, `dropWhile_span`).

Trimming is the case of blanks: it leaves a text that begins and ends with other
characters as it is (`trim_eq_self`) and takes off exactly the blanks that were put
around it.
-/

namespace ValueAssertions

/-! ## Spans -/

section Span

variable {α : Type} {p : α → Bool} {s t : List α}

/-- A span ends where a character of another kind follows it. -/
theorem takeWhile_span (hs : ∀ a ∈ s, p a = true) (ht : ∀ a ∈ t.head?, p a = false) :
    (s ++ t).takeWhile p = s := by
  rw [List.takeWhile_append_of_pos hs]
  cases t with
  | nil => simp
  | cons a t => simp [List.takeWhile_cons_of_neg, ht a rfl]

/-- What comes after a span begins with a character of another kind. -/
theorem dropWhile_span (hs : ∀ a ∈ s, p a = true) (ht : ∀ a ∈ t.head?, p a = false) :
    (s ++ t).dropWhile p = t := by
  rw [List.dropWhile_append_of_pos hs]
  cases t with
  | nil => rfl
  | cons a t => rw [List.dropWhile_cons_of_neg (by simp [ht a rfl])]

/-- What is left when a span is dropped begins with a character of another kind. -/
theorem head?_dropWhile_eq_false (p : α → Bool) (s : List α) :
    ∀ a ∈ (s.dropWhile p).head?, p a = false := by
  intro a ha
  have h := List.head?_dropWhile_not p s
  rw [Option.mem_def.mp ha] at h
  exact h

/-- What a text begins with, if it may be empty, is looked for in the next one. -/
theorem forall_head?_append {P : α → Prop} (hs : ∀ a ∈ s, P a) (ht : ∀ a ∈ t.head?, P a) :
    ∀ a ∈ (s ++ t).head?, P a := by
  cases s with
  | nil => exact ht
  | cons b s =>
      rintro a ha
      cases ha
      exact hs b List.mem_cons_self

end Span

/-! ## Trimming -/

/-- A property of the characters below a bound, which can be decided for all of them. -/
theorem of_toNat_lt {bound : Nat} {P : Char → Prop} (hall : ∀ n < bound, P (Char.ofNat n))
    {c : Char} (hc : c.toNat < bound) : P c :=
  c.ofNat_toNat ▸ hall c.toNat hc

section Trim

variable {s t : List Char}

/-- Blanks put before a text are taken off. -/
theorem trimStart_append (hs : ∀ c ∈ s, isBlank c = true)
    (ht : ∀ c ∈ t.head?, isBlank c = false) : trimStart (s ++ t) = t :=
  dropWhile_span hs ht

theorem trimStart_eq_self (hs : ∀ c ∈ s.head?, isBlank c = false) : trimStart s = s :=
  trimStart_append (s := []) (by simp) hs

theorem trimEnd_eq_nil (hs : ∀ c ∈ s, isBlank c = true) : trimEnd s = [] := by
  induction s with
  | nil => rfl
  | cons c s ih =>
      rw [trimEnd, ih fun d hd => hs d (List.mem_cons_of_mem c hd)]
      exact if_pos (hs c List.mem_cons_self)

/-- Blanks put after a text are taken off. -/
theorem trimEnd_append (ht : ∀ c ∈ t, isBlank c = true) : trimEnd (s ++ t) = trimEnd s := by
  induction s with
  | nil => exact trimEnd_eq_nil ht
  | cons c s ih => rw [List.cons_append, trimEnd, trimEnd, ih]

theorem trimEnd_eq_self (hs : ∀ c ∈ s.getLast?, isBlank c = false) : trimEnd s = s := by
  induction s with
  | nil => rfl
  | cons c s ih =>
      cases s with
      | nil => simp [trimEnd, hs c rfl]
      | cons d s =>
          rw [trimEnd, ih fun a ha => hs a (by simpa using ha)]

/-- A text that neither begins nor ends with a blank is left as it is. -/
theorem trim_eq_self (hhead : ∀ c ∈ s.head?, isBlank c = false)
    (hlast : ∀ c ∈ s.getLast?, isBlank c = false) : trim s = s := by
  rw [trim, trimStart_eq_self hhead, trimEnd_eq_self hlast]

/-- Blanks around a text are taken off, whatever the text begins and ends with. -/
theorem trim_append_left (hs : ∀ c ∈ s, isBlank c = true) (t : List Char) :
    trim (s ++ t) = trim t := by
  rw [trim, trim, trimStart, List.dropWhile_append_of_pos hs, trimStart]

theorem trim_append_right (s : List Char) (ht : ∀ c ∈ t, isBlank c = true) :
    trim (s ++ t) = trim s := by
  induction s with
  | nil => simpa [trim, trimStart, trimEnd] using trim_append_left ht []
  | cons c s ih =>
      cases hc : isBlank c with
      | true =>
          have hblank : ∀ d ∈ [c], isBlank d = true := by simpa using hc
          rw [← List.singleton_append, List.append_assoc, trim_append_left hblank,
            trim_append_left hblank, ih]
      | false =>
          have hhead : ∀ u, ∀ d ∈ (c :: u).head?, isBlank d = false := by
            rintro u _ ⟨⟩
            exact hc
          rw [trim, trim, List.cons_append, trimStart_eq_self (hhead _),
            trimStart_eq_self (hhead _), ← List.cons_append, trimEnd_append ht]

/-- A text is what trimming at its start leaves of it, with blanks before it. -/
theorem exists_append_trimStart (s : List Char) :
    ∃ lead, (∀ c ∈ lead, isBlank c = true) ∧ s = lead ++ trimStart s :=
  ⟨s.takeWhile isBlank, fun _ hc => List.mem_takeWhile_imp hc,
    List.takeWhile_append_dropWhile.symm⟩

theorem exists_trimEnd_append (s : List Char) :
    ∃ trail, (∀ c ∈ trail, isBlank c = true) ∧ s = trimEnd s ++ trail := by
  induction s with
  | nil => exact ⟨[], nofun, rfl⟩
  | cons c s ih =>
      obtain ⟨trail, htrail, heq⟩ := ih
      rw [trimEnd]
      split
      · next hnil =>
        rw [hnil, List.nil_append] at heq
        split
        · next hc =>
          exact ⟨c :: s, List.forall_mem_cons.mpr ⟨hc, heq ▸ htrail⟩, rfl⟩
        · exact ⟨s, heq ▸ htrail, rfl⟩
      · exact ⟨trail, htrail, by rw [List.cons_append, ← heq]⟩

/-- A text is what trimming leaves of it, with blanks around it. -/
theorem exists_eq_append_trim (s : List Char) :
    ∃ lead trail, (∀ c ∈ lead, isBlank c = true) ∧ (∀ c ∈ trail, isBlank c = true) ∧
      s = lead ++ (trim s ++ trail) := by
  obtain ⟨lead, hlead, hs⟩ := exists_append_trimStart s
  obtain ⟨trail, htrail, htrim⟩ := exists_trimEnd_append (trimStart s)
  exact ⟨lead, trail, hlead, htrail, by rw [trim, ← htrim, ← hs]⟩

end Trim

end ValueAssertions
