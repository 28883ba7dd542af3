import ValueAssertions.Document.Token
import Mathlib.Data.List.Basic

/-!
# Laws of quoted text

Between quotes most characters stand for themselves (`Quoted.Verbatim`).  The others are
escaped, by a letter after a backslash or, if they are control characters without a letter,
by four hexadecimal digits; `Quoted.escaped_cases` lists the three forms.

From the list it follows that no escape is the beginning of another one.  So a quoted text
can be told from whatever comes after it (`Quoted.encode_append_inj`), and it is longer than
the text between two quotes exactly when something had to be escaped
(`Quoted.length_encode_eq_iff`).
-/

namespace ValueAssertions

namespace Quoted

/-- A character that stands for itself between quotes: no quote, no backslash and no control
character below the blank. -/
def Verbatim (c : Char) : Prop :=
  c ≠ '"' ∧ c ≠ '\\' ∧ ' ' ≤ c

instance (c : Char) : Decidable (Verbatim c) :=
  inferInstanceAs (Decidable (_ ∧ _))

/-! ## The forms of an escape -/

theorem escaped_of_verbatim {c : Char} (h : Verbatim c) : escaped c = [c] := by
  revert h
  unfold escaped
  split
  case h_8 => exact fun h => if_neg (Char.not_lt.mpr h.2.2)
  all_goals exact fun h => absurd h (by decide)

theorem toNat_lt_of_lt_blank {c : Char} (h : c < ' ') : c.toNat < 32 :=
  h

/-- A control character is escaped by the letter that stands for it, or by its number. -/
theorem escaped_of_lt_blank {c : Char} (h : c < ' ') :
    (∃ letter, Token.escapedLetter? letter = some c ∧ escaped c = ['\\', letter]) ∨
      escaped c = controlEscape c := by
  revert h
  unfold escaped
  split
  case h_1 | h_2 => exact fun h => absurd h (by decide)
  case h_3 => exact fun _ => .inl ⟨'b', rfl, rfl⟩
  case h_4 => exact fun _ => .inl ⟨'f', rfl, rfl⟩
  case h_5 => exact fun _ => .inl ⟨'n', rfl, rfl⟩
  case h_6 => exact fun _ => .inl ⟨'r', rfl, rfl⟩
  case h_7 => exact fun _ => .inl ⟨'t', rfl, rfl⟩
  case h_8 => exact fun h => .inr (if_pos h)

/-- What stands for a character: itself, a letter after a backslash, or its number. -/
theorem escaped_cases (c : Char) :
    (Verbatim c ∧ escaped c = [c]) ∨
      (∃ letter, Token.escapedLetter? letter = some c ∧ escaped c = ['\\', letter]) ∨
      (c < ' ' ∧ escaped c = controlEscape c) := by
  by_cases hverbatim : Verbatim c
  · exact .inl ⟨hverbatim, escaped_of_verbatim hverbatim⟩
  right
  by_cases hquote : c = '"'
  · subst hquote
    exact .inl ⟨'"', rfl, rfl⟩
  by_cases hbackslash : c = '\\'
  · subst hbackslash
    exact .inl ⟨'\\', rfl, rfl⟩
  have hcontrol : c < ' ' := Char.not_le.mp fun hblank => hverbatim ⟨hquote, hbackslash, hblank⟩
  exact (escaped_of_lt_blank hcontrol).imp_right fun hescaped => ⟨hcontrol, hescaped⟩

/-- The two digits of a control character are read back. -/
theorem hexDigit?_controlEscape {c : Char} (h : c < ' ') :
    hexDigit? (Nat.digitChar (c.toNat / 16)) = some (c.toNat / 16) ∧
      hexDigit? (Nat.digitChar (c.toNat % 16)) = some (c.toNat % 16) := by
  have hdigit : ∀ n < 16, hexDigit? (Nat.digitChar n) = some n := by decide
  have hlt : c.toNat < 32 := toNat_lt_of_lt_blank h
  exact ⟨hdigit _ (by omega), hdigit _ (by omega)⟩

theorem controlEscape_inj {c d : Char} (hc : c < ' ') (hd : d < ' ') {s t : List Char}
    (h : controlEscape c ++ s = controlEscape d ++ t) : c = d ∧ s = t := by
  obtain ⟨hhigh, hlow⟩ := hexDigit?_controlEscape hc
  obtain ⟨hhigh', hlow'⟩ := hexDigit?_controlEscape hd
  simp only [controlEscape, List.cons_append, List.nil_append, List.cons.injEq, true_and] at h
  obtain ⟨hfirst, hsecond, hrest⟩ := h
  rw [hfirst, hhigh', Option.some.injEq] at hhigh
  rw [hsecond, hlow', Option.some.injEq] at hlow
  have hnumber : c.toNat = d.toNat := by omega
  exact ⟨Char.toNat_inj.mp hnumber, hrest⟩

/-! ## Telling quoted texts apart -/

/-- An escape can be told from whatever comes after it. -/
theorem escaped_append_inj {c d : Char} {s t : List Char}
    (h : escaped c ++ s = escaped d ++ t) : c = d ∧ s = t := by
  rcases escaped_cases c with ⟨hc, heq⟩ | ⟨letter, hletter, heq⟩ | ⟨hc, heq⟩ <;>
    rcases escaped_cases d with ⟨hd, heq'⟩ | ⟨letter', hletter', heq'⟩ | ⟨hd, heq'⟩ <;>
    rw [heq, heq'] at h
  case inl.inl => exact List.cons_eq_cons.mp h
  case inl.inr.inl => exact absurd (List.cons_eq_cons.mp h).1 hc.2.1
  case inl.inr.inr => exact absurd (List.cons_eq_cons.mp h).1 hc.2.1
  case inr.inl.inl => exact absurd (List.cons_eq_cons.mp h).1.symm hd.2.1
  case inr.inr.inl => exact absurd (List.cons_eq_cons.mp h).1.symm hd.2.1
  case inr.inl.inr.inl =>
    obtain ⟨rfl, hrest⟩ := List.cons_eq_cons.mp (List.cons_eq_cons.mp h).2
    exact ⟨Option.some.inj (hletter.symm.trans hletter'), hrest⟩
  case inr.inl.inr.inr =>
    obtain ⟨rfl, -⟩ := List.cons_eq_cons.mp (List.cons_eq_cons.mp h).2
    cases hletter
  case inr.inr.inr.inl =>
    obtain ⟨rfl, -⟩ := List.cons_eq_cons.mp (List.cons_eq_cons.mp h).2
    cases hletter'
  case inr.inr.inr.inr => exact controlEscape_inj hc hd h

/-- An escape does not begin with the quote that ends the text. -/
theorem exists_escaped_eq_cons (c : Char) :
    ∃ first rest, escaped c = first :: rest ∧ first ≠ '"' := by
  rcases escaped_cases c with ⟨hc, heq⟩ | ⟨letter, -, heq⟩ | ⟨-, heq⟩
  · exact ⟨c, [], heq, hc.1⟩
  · exact ⟨'\\', [letter], heq, by decide⟩
  · exact ⟨'\\', _, heq, by decide⟩

theorem flatMap_escaped_append_inj {s t u v : List Char}
    (h : s.flatMap escaped ++ '"' :: u = t.flatMap escaped ++ '"' :: v) : s = t ∧ u = v := by
  induction s generalizing t with
  | nil =>
      cases t with
      | nil => exact ⟨rfl, (List.cons_eq_cons.mp h).2⟩
      | cons d t =>
          obtain ⟨first, rest, heq, hne⟩ := exists_escaped_eq_cons d
          rw [List.flatMap_cons, heq] at h
          exact absurd (List.cons_eq_cons.mp h).1.symm hne
  | cons c s ih =>
      cases t with
      | nil =>
          obtain ⟨first, rest, heq, hne⟩ := exists_escaped_eq_cons c
          rw [List.flatMap_cons, heq] at h
          exact absurd (List.cons_eq_cons.mp h).1 hne
      | cons d t =>
          rw [List.flatMap_cons, List.flatMap_cons, List.append_assoc, List.append_assoc] at h
          obtain ⟨rfl, hrest⟩ := escaped_append_inj h
          obtain ⟨rfl, hafter⟩ := ih hrest
          exact ⟨rfl, hafter⟩

/-- A quoted text can be told from whatever comes after it. -/
theorem encode_append_inj {s t u v : List Char} (h : encode s ++ u = encode t ++ v) :
    s = t ∧ u = v := by
  simp only [encode, List.cons_append, List.append_assoc, List.nil_append] at h
  exact flatMap_escaped_append_inj (List.cons_eq_cons.mp h).2

/-! ## The length of quoted text -/

theorem one_le_length_escaped (c : Char) : 1 ≤ (escaped c).length := by
  obtain ⟨first, rest, heq, -⟩ := exists_escaped_eq_cons c
  simp [heq]

theorem length_escaped_eq_one_iff {c : Char} : (escaped c).length = 1 ↔ Verbatim c := by
  constructor
  · intro h
    rcases escaped_cases c with ⟨hc, -⟩ | ⟨letter, -, heq⟩ | ⟨-, heq⟩
    · exact hc
    · simp [heq] at h
    · simp [heq, controlEscape] at h
  · intro h
    rw [escaped_of_verbatim h, List.length_singleton]

theorem length_le_length_flatMap_escaped (s : List Char) :
    s.length ≤ (s.flatMap escaped).length := by
  induction s with
  | nil => exact Nat.le_refl _
  | cons c s ih =>
      have hc : 1 ≤ (escaped c).length := one_le_length_escaped c
      rw [List.flatMap_cons, List.length_append, List.length_cons]
      omega

theorem length_flatMap_escaped_eq_iff {s : List Char} :
    (s.flatMap escaped).length = s.length ↔ ∀ c ∈ s, Verbatim c := by
  induction s with
  | nil => simp
  | cons c s ih =>
      have hc : 1 ≤ (escaped c).length := one_le_length_escaped c
      have hs : s.length ≤ (s.flatMap escaped).length := length_le_length_flatMap_escaped s
      rw [List.forall_mem_cons, ← ih, ← length_escaped_eq_one_iff, List.flatMap_cons,
        List.length_append, List.length_cons]
      omega

/-- Quotes around a text and escapes in it do not make it shorter. -/
theorem length_le_length_encode (s : List Char) : s.length + 2 ≤ (encode s).length := by
  have h : s.length ≤ (s.flatMap escaped).length := length_le_length_flatMap_escaped s
  simp only [encode, List.length_cons, List.length_append, List.length_nil]
  omega

/-- Only the quotes make a text longer when each of its characters stands for itself. -/
theorem length_encode_eq_iff {s : List Char} :
    (encode s).length = s.length + 2 ↔ ∀ c ∈ s, Verbatim c := by
  rw [← length_flatMap_escaped_eq_iff]
  simp only [encode, List.length_cons, List.length_append, List.length_nil]
  omega

theorem encode_of_forall_verbatim {s : List Char} (h : ∀ c ∈ s, Verbatim c) :
    encode s = '"' :: (s ++ ['"']) := by
  have hflat : s.flatMap escaped = s := by
    rw [List.flatMap_congr fun c hc => escaped_of_verbatim (h c hc), List.flatMap_singleton']
  rw [encode, hflat]

end Quoted

end ValueAssertions
