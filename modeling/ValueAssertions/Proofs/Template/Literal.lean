import ValueAssertions.Proofs.Template.Marker
import ValueAssertions.Proofs.Text.Blank
import ValueAssertions.Template.Placeholder

/-!
# Written literals

The literal of a block's expression is a text between quotes, `true` or `false`, or
a decimal.  `WrittenLiteral` is that syntax, `print` its text and `value` the value
that it stands for.

* `readLiteral_print`: reading the text gives the value.
* `WrittenLiteral.passes_print`: the scan for markers passes over the text.

A literal that is not quoted is made of ordinary characters (`IsOrdinary`): none of
them is a blank or a quote, or begins a comparison or a marker.  So are the names of
tokens.  A quoted text may have anything but its quote and markers in it where it stands
in a block (`Valid`), and anything at all where it ends the text that is read (`Readable`).
-/

namespace ValueAssertions.Template

/-! ## Syntax -/

/-- Digits, at least one. -/
def IsDigits (s : List Char) : Prop :=
  s ≠ [] ∧ ∀ c ∈ s, c.isDigit = true

/-- A written literal. -/
inductive WrittenLiteral where
  /-- Text between two equal quotes. -/
  | quoted (quote : Char) (text : List Char)
  /-- `true` or `false`. -/
  | truth (value : Bool)
  /-- Digits, and perhaps a point and more digits, after a sign that may be missing
  and is `true` for minus. -/
  | decimal (sign : Option Bool) (whole : List Char) (fraction : Option (List Char))

namespace WrittenLiteral

/-- The text of a sign. -/
def signText : Option Bool → List Char
  | none => []
  | some true => ['-']
  | some false => ['+']

/-- The text of a fraction. -/
def fractionText : Option (List Char) → List Char
  | none => []
  | some digits => '.' :: digits

/-- The text of a literal. -/
def print : WrittenLiteral → List Char
  | .quoted quote text => quote :: (text ++ [quote])
  | .truth true => "true".toList
  | .truth false => "false".toList
  | .decimal sign whole fraction => signText sign ++ (whole ++ fractionText fraction)

/-- The value of a literal; of a decimal it is the nearest number. -/
def value : WrittenLiteral → Value
  | .quoted _ text => .string (String.ofList text)
  | .truth b => .bool b
  | .decimal sign whole fraction =>
    .number (Decimal.toNumber
      { negative := sign == some true
        digits := digitsValue (whole ++ fraction.getD [])
        exponent := -(fraction.getD []).length })

/-- The text of a literal is one: quotes are put around anything, and a decimal has
digits where they belong. -/
def Readable : WrittenLiteral → Prop
  | .quoted quote _ => isQuote quote = true
  | .truth _ => True
  | .decimal _ whole fraction => IsDigits whole ∧ ∀ digits ∈ fraction, IsDigits digits

/-- A quoted text has neither its own quote nor markers in it, and a decimal has
digits where they belong. -/
def Valid : WrittenLiteral → Prop
  | .quoted quote text => isQuote quote = true ∧ quote ∉ text ∧ Unmarked text
  | .truth _ => True
  | .decimal _ whole fraction => IsDigits whole ∧ ∀ digits ∈ fraction, IsDigits digits

end WrittenLiteral

/-! ## Characters -/

/-- Whether a comparison begins with a character. -/
def startsTest (c : Char) : Bool :=
  c == '=' || c == '!' || c == '<' || c == '>'

theorem endsName_eq_or (c : Char) : endsName c = (isBlank c || startsTest c) := by
  simp only [endsName, startsTest, Bool.or_assoc]

/-- A character at which neither a name nor a literal ends, and no marker begins. -/
structure IsSolid (c : Char) : Prop where
  endsName_eq : endsName c = false
  ne_marker : c ≠ '(' ∧ c ≠ '?'

/-- A character that no reader of expressions takes for anything but itself. -/
structure IsOrdinary (c : Char) : Prop extends IsSolid c where
  isQuote_eq : isQuote c = false

theorem IsSolid.isBlank_eq {c : Char} (h : IsSolid c) : isBlank c = false := by
  have := h.endsName_eq
  rw [endsName_eq_or, Bool.or_eq_false_iff] at this
  exact this.1

theorem IsSolid.startsTest_eq {c : Char} (h : IsSolid c) : startsTest c = false := by
  have := h.endsName_eq
  rw [endsName_eq_or, Bool.or_eq_false_iff] at this
  exact this.2

theorem isSolid_of_isQuote {c : Char} (h : isQuote c = true) : IsSolid c := by
  simp only [isQuote, Bool.or_eq_true, beq_iff_eq] at h
  rcases h with rfl | rfl
  · exact ⟨by decide, by decide⟩
  · exact ⟨by decide, by decide⟩

theorem toNat_lt_of_isNameCharacter {c : Char} (h : isNameCharacter c = true) :
    c.toNat < 128 := by
  have hle : c.val ≤ 'z'.val := by
    change ((((c.isUpper || c.isLower || c.isDigit) || c == '_') || c == '.') || c == '$') ||
      c == '-' at h
    simp only [Bool.or_eq_true, beq_iff_eq] at h
    rcases h with (((((hupper | hlower) | hdigit) | rfl) | rfl) | rfl) | rfl
    · exact UInt32.le_trans (of_decide_eq_true hupper).2 (by decide)
    · exact of_decide_eq_true (Bool.and_eq_true_iff.mp hlower).2
    · exact UInt32.le_trans (of_decide_eq_true (Bool.and_eq_true_iff.mp hdigit).2) (by decide)
    all_goals decide
  exact Nat.lt_of_le_of_lt (UInt32.le_iff_toNat_le.mp hle) (by decide)

/-- There are few characters that names are made of, so that each can be looked at. -/
theorem isOrdinary_of_isNameCharacter {c : Char} (h : isNameCharacter c = true) :
    IsOrdinary c := by
  obtain ⟨hends, hquote, hmarker⟩ := of_toNat_lt
    (P := fun c => isNameCharacter c = true →
      endsName c = false ∧ isQuote c = false ∧ c ≠ '(' ∧ c ≠ '?')
    (by decide +kernel) (toNat_lt_of_isNameCharacter h) h
  exact ⟨⟨hends, hmarker⟩, hquote⟩

theorem isNameCharacter_of_isDigit {c : Char} (h : c.isDigit = true) :
    isNameCharacter c = true := by
  simp [isNameCharacter, Char.isAlphanum, h]

/-- Blanks are no quotes and begin neither comparisons nor markers. -/
theorem not_special_of_isBlank {c : Char} (h : isBlank c = true) :
    isQuote c = false ∧ startsTest c = false ∧ c ≠ '(' ∧ c ≠ '?' := by
  have hne : ∀ d, isBlank d = false → c ≠ d := by
    rintro d hd rfl
    rw [h] at hd
    cases hd
  simp only [isQuote, startsTest, Bool.or_eq_false_iff, beq_eq_false_iff_ne]
  refine ⟨⟨?_, ?_⟩, ⟨⟨⟨?_, ?_⟩, ?_⟩, ?_⟩, ?_, ?_⟩ <;> exact hne _ (by decide)

/-! ## Extent -/

namespace WrittenLiteral

/-- A literal that can stand in a block can be read. -/
theorem Valid.readable {literal : WrittenLiteral} (h : literal.Valid) : literal.Readable := by
  cases literal with
  | quoted quote text => exact h.1
  | truth b => exact h
  | decimal sign whole fraction => exact h

theorem isOrdinary_of_mem_decimal {sign : Option Bool} {whole : List Char}
    {fraction : Option (List Char)} (h : Readable (.decimal sign whole fraction)) :
    ∀ c ∈ print (.decimal sign whole fraction), IsOrdinary c := by
  obtain ⟨⟨-, hwhole⟩, hfraction⟩ := h
  have hdigit : ∀ c : Char, c.isDigit = true → IsOrdinary c :=
    fun c hc => isOrdinary_of_isNameCharacter (isNameCharacter_of_isDigit hc)
  intro c hc
  simp only [print, List.mem_append] at hc
  rcases hc with hc | hc | hc
  · have hsign : c = '-' ∨ c = '+' := by
      rcases sign with _ | _ | _ <;> simp_all [signText]
    rcases hsign with rfl | rfl
    · exact isOrdinary_of_isNameCharacter (by decide)
    · exact ⟨⟨by decide, by decide⟩, by decide⟩
  · exact hdigit c (hwhole c hc)
  · cases fraction with
    | none => cases hc
    | some digits =>
        rcases List.mem_cons.mp hc with rfl | hc
        · exact isOrdinary_of_isNameCharacter (by decide)
        · exact hdigit c ((hfraction digits rfl).2 c hc)

/-- A literal that is not quoted is made of ordinary characters. -/
theorem Readable.ordinary_or_quoted {literal : WrittenLiteral} (h : literal.Readable) :
    (literal.print ≠ [] ∧ ∀ c ∈ literal.print, IsOrdinary c) ∨
      ∃ quote text, literal = .quoted quote text := by
  cases literal with
  | quoted quote text => exact .inr ⟨quote, text, rfl⟩
  | truth b =>
      have hletters : (print (.truth b)).all isNameCharacter = true := by cases b <;> decide
      rw [List.all_eq_true] at hletters
      exact .inl ⟨by cases b <;> decide, fun c hc => isOrdinary_of_isNameCharacter (hletters c hc)⟩
  | decimal sign whole fraction =>
      exact .inl ⟨by simp [print, h.1.1], isOrdinary_of_mem_decimal h⟩

/-- Literals begin and end with solid characters. -/
theorem Readable.solid {literal : WrittenLiteral} (h : literal.Readable) :
    literal.print ≠ [] ∧ (∀ c ∈ literal.print.head?, IsSolid c) ∧
      ∀ c ∈ literal.print.getLast?, IsSolid c := by
  rcases h.ordinary_or_quoted with ⟨hne, hordinary⟩ | ⟨quote, text, rfl⟩
  · exact ⟨hne, fun c hc => (hordinary c (List.mem_of_mem_head? hc)).toIsSolid,
      fun c hc => (hordinary c (List.mem_of_mem_getLast? hc)).toIsSolid⟩
  · have hquote := isSolid_of_isQuote h
    refine ⟨by simp [print], fun c hc => ?_, fun c hc => ?_⟩
    · cases hc
      exact hquote
    · have heq : (print (.quoted quote text)).getLast? = some quote := by
        rw [print, ← List.cons_append, List.getLast?_concat]
      cases heq.symm.trans hc
      exact hquote

theorem passes_print {literal : WrittenLiteral} (h : literal.Valid) (t : List Char) :
    Passes literal.print t := by
  rcases h.readable.ordinary_or_quoted with ⟨-, hordinary⟩ | ⟨quote, text, rfl⟩
  · exact passes_of_forall_ne (fun c hc => (hordinary c hc).ne_marker) t
  · obtain ⟨hquote, -, htext⟩ := h
    have hmarker := (isSolid_of_isQuote hquote).ne_marker
    have hsingle : ∀ u, Passes [quote] u := passes_of_forall_ne (by simpa using hmarker)
    have hacross : NoMarkerAcross text ([quote] ++ t) := by
      rintro a - b hb
      cases hb
      refine ⟨fun heq => hmarker.2 heq.2, ?_⟩
      rintro ⟨-, rfl⟩
      exact absurd hquote (by decide)
    exact (hsingle _).append ((passes_of_unmarked htext hacross).append (hsingle t))

/-! ## Value -/

/-- Where a literal begins with a digit, no sign is read. -/
theorem readSign_signText (sign : Option Bool) {s : List Char}
    (hs : ∀ c ∈ s.head?, c.isDigit = true) :
    Decimal.readSign (signText sign ++ s) = (sign == some true, s) := by
  rcases sign with _ | _ | _
  · rw [signText, List.nil_append, Decimal.readSign]
    · rfl
    · rintro rest rfl
      cases hs '-' rfl
    · rintro rest rfl
      cases hs '+' rfl
  · rfl
  · rfl

theorem readDigits_digits {digits rest : List Char} (hdigits : ∀ c ∈ digits, c.isDigit = true)
    (hrest : ∀ c ∈ rest.head?, c.isDigit = false) :
    Decimal.readDigits (digits ++ rest) = (digits, rest) := by
  rw [Decimal.readDigits, takeWhile_span hdigits hrest, dropWhile_span hdigits hrest]

section Decimal

variable {whole : List Char} {fraction : Option (List Char)}

theorem head?_whole (hwhole : IsDigits whole) :
    ∀ c ∈ (whole ++ fractionText fraction).head?, c.isDigit = true := by
  obtain ⟨d, digits, rfl⟩ := List.exists_cons_of_ne_nil hwhole.1
  rintro c hc
  cases hc
  exact hwhole.2 d List.mem_cons_self

theorem readDigits_whole (hwhole : IsDigits whole) :
    Decimal.readDigits (whole ++ fractionText fraction) = (whole, fractionText fraction) := by
  refine readDigits_digits hwhole.2 ?_
  cases fraction with
  | none => nofun
  | some digits =>
      rintro c hc
      cases hc
      rfl

theorem readFraction_fractionText (hfraction : ∀ digits ∈ fraction, IsDigits digits) :
    Decimal.readFraction (fractionText fraction) = (fraction.getD [], []) := by
  cases fraction with
  | none => rfl
  | some digits =>
      have hread : Decimal.readDigits (digits ++ []) = (digits, []) :=
        readDigits_digits (hfraction digits rfl).2 nofun
      rwa [List.append_nil] at hread

theorem decimal_read? (sign : Option Bool) (hwhole : IsDigits whole)
    (hfraction : ∀ digits ∈ fraction, IsDigits digits) :
    Decimal.read? (print (.decimal sign whole fraction)) =
      some ⟨sign == some true, digitsValue (whole ++ fraction.getD []),
        -(fraction.getD []).length⟩ := by
  rw [print, Decimal.read?]
  simp only [readSign_signText sign (head?_whole hwhole), readDigits_whole hwhole,
    readFraction_fractionText hfraction]
  simp [hwhole.1, Decimal.readExponent?]

theorem isDecimal_print (sign : Option Bool) (hwhole : IsDigits whole)
    (hfraction : ∀ digits ∈ fraction, IsDigits digits) :
    isDecimal (print (.decimal sign whole fraction)) = true := by
  rw [print, isDecimal]
  simp only [readSign_signText sign (head?_whole hwhole), readDigits_whole hwhole]
  cases fraction with
  | none => simp [fractionText, hwhole.1]
  | some digits =>
      obtain ⟨hne, hdigits⟩ := hfraction digits rfl
      simpa [fractionText, hwhole.1, hne] using hdigits

/-- Digits are no name of a number. -/
theorem ofName?_whole (negative : Bool) (hwhole : IsDigits whole) :
    Number.ofName? negative (whole ++ fractionText fraction) = none := by
  obtain ⟨d, digits, rfl⟩ := List.exists_cons_of_ne_nil hwhole.1
  have hd := hwhole.2 d List.mem_cons_self
  have hlower : d.toLower ≠ 'i' ∧ d.toLower ≠ 'n' :=
    of_toNat_lt (P := fun c => c.isDigit = true → c.toLower ≠ 'i' ∧ c.toLower ≠ 'n')
      (by decide +kernel) (toNat_lt_of_isNameCharacter (isNameCharacter_of_isDigit hd)) hd
  simp [Number.ofName?, hlower]

theorem number_read? (sign : Option Bool) (hwhole : IsDigits whole)
    (hfraction : ∀ digits ∈ fraction, IsDigits digits) :
    Number.read? (print (.decimal sign whole fraction)) =
      some (Decimal.toNumber ⟨sign == some true, digitsValue (whole ++ fraction.getD []),
        -(fraction.getD []).length⟩) := by
  rw [Number.read?, decimal_read? sign hwhole hfraction, print]
  simp only [readSign_signText sign (head?_whole hwhole), ofName?_whole _ hwhole]
  rfl

end Decimal

theorem unquote?_eq_none {s : List Char} (hs : ∀ c ∈ s.head?, isQuote c = false) :
    unquote? s = none := by
  cases s with
  | nil => rfl
  | cons c rest => simp [unquote?, hs c rfl]

/-- Reading the text of a literal gives its value. -/
theorem readLiteral_print {literal : WrittenLiteral} (h : literal.Readable) :
    readLiteral literal.print = literal.value := by
  cases literal with
  | quoted quote text =>
      have hquote : isQuote quote = true := h
      have hunquote : unquote? (print (.quoted quote text)) = some text := by
        simp [print, unquote?, hquote]
      rw [readLiteral, hunquote]
      rfl
  | truth b => cases b <;> rfl
  | decimal sign whole fraction =>
      have hwhole : IsDigits whole := h.1
      have hfraction : ∀ digits ∈ fraction, IsDigits digits := h.2
      have hdecimal := isDecimal_print sign hwhole hfraction
      have htrue : print (.decimal sign whole fraction) ≠ "true".toList := by
        intro heq
        rw [heq] at hdecimal
        exact absurd hdecimal (by decide)
      have hfalse : print (.decimal sign whole fraction) ≠ "false".toList := by
        intro heq
        rw [heq] at hdecimal
        exact absurd hdecimal (by decide)
      have hunquote : unquote? (print (.decimal sign whole fraction)) = none :=
        unquote?_eq_none fun c hc =>
          (isOrdinary_of_mem_decimal h c (List.mem_of_mem_head? hc)).isQuote_eq
      rw [readLiteral, hunquote]
      simp only [if_neg htrue, if_neg hfalse, hdecimal, number_read? sign hwhole hfraction]
      rfl

end WrittenLiteral

end ValueAssertions.Template
