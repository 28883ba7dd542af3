import ValueAssertions.Proofs.Text.Blank
import ValueAssertions.Proofs.Text.Joined
import ValueAssertions.Proofs.Text.Quoted
import ValueAssertions.Proofs.Value.Document

/-!
# The quoted form tells values apart

The quoted form of a value loses what JSON does not have: absent values and functions inside
arrays and objects, and it rounds numbers to their shortest decimal.  Values that are made
without these (`Value.Exact`) can be told apart by it: two of them are written alike only when
they are equal (`Value.quoted_eq_iff`).

## Strategy

A value is read off the beginning of a text, whatever comes after it: when two texts begin
with written values and are the same, the values are equal and so is what comes after them
(`Value.compact_append_inj`).  That is what an induction on the first value can show.

* The first character announces the type (`Value.exists_compact_eq_cons`).
* A number ends where its digits end, so no digit may follow it (`NoDigitNext`), and none does,
  since values are followed by a comma, a closing bracket, or nothing.
* A string ends with the first quote that is not escaped (`Quoted.encode_append_inj`).
* An array or an object ends with the first closing bracket that stands where a comma could
  (`forall₂_of_joinWith_append_eq`).
-/

namespace ValueAssertions

/-! ## Numbers -/

/-- No digit comes next. -/
def NoDigitNext (s : List Char) : Prop :=
  ∀ c ∈ s.head?, c.isDigit = false

theorem noDigitNext_nil : NoDigitNext [] := by
  simp [NoDigitNext]

theorem isDigit_of_mem_toDigits {n : Nat} {c : Char} (h : c ∈ Nat.toDigits 10 n) :
    c.isDigit = true :=
  Nat.isDigit_of_mem_toDigits (by decide) (by decide) h

theorem toDigits_append_inj {m n : Nat} {s t : List Char} (hs : NoDigitNext s)
    (ht : NoDigitNext t) (h : Nat.toDigits 10 m ++ s = Nat.toDigits 10 n ++ t) :
    m = n ∧ s = t := by
  have hdigits : Nat.toDigits 10 m = Nat.toDigits 10 n := by
    have hspan := congrArg (List.takeWhile Char.isDigit) h
    rwa [takeWhile_span (fun _ => isDigit_of_mem_toDigits) hs,
      takeWhile_span (fun _ => isDigit_of_mem_toDigits) ht] at hspan
  rw [hdigits] at h
  have hnumber := congrArg (Nat.ofDigitChars 10 · 0) hdigits
  simp only [Nat.ofDigitChars_ten_toDigits] at hnumber
  exact ⟨hnumber, List.append_cancel_left h⟩

namespace Numeral

theorem exists_toDigits_eq_cons (n : Nat) :
    ∃ c rest, Nat.toDigits 10 n = c :: rest ∧ c.isDigit = true := by
  obtain ⟨c, rest, hdigits⟩ :=
    List.exists_cons_of_ne_nil (Nat.toDigits_ne_nil (n := n) (b := 10))
  exact ⟨c, rest, hdigits, isDigit_of_mem_toDigits (hdigits ▸ List.mem_cons_self)⟩

/-- The written form of an integer begins with its sign or with a digit. -/
theorem exists_integerText_eq_cons (i : Int) :
    ∃ c rest, integerText i = c :: rest ∧ (c.isDigit = true ∨ c = '-') := by
  obtain ⟨c, rest, hdigits, hc⟩ := exists_toDigits_eq_cons i.natAbs
  rw [integerText, hdigits]
  cases decide (i < 0) with
  | false => exact ⟨c, rest, rfl, .inl hc⟩
  | true => exact ⟨'-', c :: rest, rfl, .inr rfl⟩

theorem integerText_append_inj {i j : Int} {s t : List Char} (hs : NoDigitNext s)
    (ht : NoDigitNext t) (h : integerText i ++ s = integerText j ++ t) : i = j ∧ s = t := by
  have hsign : ∀ {m n : Nat} {u v : List Char},
      '-' :: Nat.toDigits 10 m ++ u ≠ Nat.toDigits 10 n ++ v := by
    intro m n u v heq
    obtain ⟨c, rest, hdigits, hc⟩ := exists_toDigits_eq_cons n
    rw [hdigits] at heq
    obtain ⟨rfl, -⟩ := List.cons_eq_cons.mp heq
    cases hc
  unfold integerText at h
  by_cases hi : i < 0 <;> by_cases hj : j < 0 <;>
    simp only [hi, hj, decide_true, decide_false, signedText, if_true, Bool.false_eq_true,
      if_false] at h
  · obtain ⟨hnumber, hrest⟩ := toDigits_append_inj hs ht (List.cons_eq_cons.mp h).2
    exact ⟨by omega, hrest⟩
  · exact absurd h hsign
  · exact absurd h.symm hsign
  · obtain ⟨hnumber, hrest⟩ := toDigits_append_inj hs ht h
    exact ⟨by omega, hrest⟩

end Numeral

namespace Number

theorem integerText_signed {negative : Bool} {n : Nat} (h : n ≠ 0) :
    Numeral.integerText (signed negative n) = signedText negative (Nat.toDigits 10 n) := by
  have hsign : decide (signed negative n < 0) = negative := by
    cases negative with
    | false => simp [signed]
    | true =>
        have hneg : signed true n < 0 := by
          rw [signed, if_pos rfl]
          omega
        exact decide_eq_true hneg
  rw [Numeral.integerText, hsign, natAbs_signed]

/-- A whole number is written with all its digits in diagnostics, if it is not too large. -/
theorem text_of_toInt? {n : Number} {i : Int} (h : n.toInt? = some i)
    (hlt : i.natAbs < exactTextLimit) : n.text = Numeral.integerText i := by
  cases n with
  | nan => cases h
  | infinite negative => cases h
  | finite negative m =>
      rw [toInt?] at h
      split at h
      · next hwhole =>
          obtain rfl := Option.some.inj h
          have hpos : 0 < quantaPerOne := powerOfTwo_pos 1074
          rw [natAbs_signed, Nat.div_lt_iff_lt_mul hpos] at hlt
          by_cases hzero : m.quanta = 0
          · rw [finite_eq_zero hzero, text_zero, hzero, Nat.zero_div]
            cases negative <;> rfl
          · have hne : m.quanta / quantaPerOne ≠ 0 := by
              intro hdiv
              rw [← Nat.div_mul_cancel (Nat.dvd_of_mod_eq_zero hwhole), hdiv, Nat.zero_mul] at hzero
              exact hzero rfl
            rw [text, if_neg hzero, if_pos ⟨hwhole, hlt⟩, integerText_signed hne]
      · cases h

theorem beq_of_toInt?_eq {m n : Number} {i : Int} (hm : m.toInt? = some i)
    (hn : n.toInt? = some i) : (m == n) = true :=
  beq_trans (beq_symm (beq_ofInt_of_toInt? hm)) (beq_ofInt_of_toInt? hn)

end Number

/-! ## Lists -/

section Lists

variable {α : Type} {write : α → List Char} {R : α → α → Prop} {close : Char}

/-- Elements that come after a comma each are followed by a comma or by the closing bracket. -/
theorem noDigitNext_flatMap (hclose : close.isDigit = false) (xs : List α) (s : List Char) :
    NoDigitNext ((xs.flatMap fun x => ',' :: write x) ++ close :: s) := by
  cases xs with
  | nil =>
      rintro _ ⟨⟩
      exact hclose
  | cons x xs =>
      rintro _ ⟨⟩
      decide

/-- Elements that come after a comma each are read one after the other, up to the closing
bracket. -/
theorem forall₂_of_flatMap_append_eq (hclose : close ≠ ',' ∧ close.isDigit = false)
    {xs ys : List α} (hread : ∀ x ∈ xs, ∀ y ∈ ys, ∀ s t, NoDigitNext s → NoDigitNext t →
      write x ++ s = write y ++ t → R x y ∧ s = t) {s t : List Char}
    (h : (xs.flatMap fun x => ',' :: write x) ++ close :: s =
      (ys.flatMap fun y => ',' :: write y) ++ close :: t) : List.Forall₂ R xs ys ∧ s = t := by
  induction xs generalizing ys with
  | nil =>
      cases ys with
      | nil => exact ⟨.nil, (List.cons_eq_cons.mp h).2⟩
      | cons y ys => exact absurd (List.cons_eq_cons.mp h).1 hclose.1
  | cons x xs ih =>
      cases ys with
      | nil => exact absurd (List.cons_eq_cons.mp h).1.symm hclose.1
      | cons y ys =>
          rw [List.flatMap_cons, List.flatMap_cons, List.append_assoc, List.append_assoc] at h
          obtain ⟨hxy, hrest⟩ := hread x List.mem_cons_self y List.mem_cons_self _ _
            (noDigitNext_flatMap hclose.2 xs s) (noDigitNext_flatMap hclose.2 ys t)
            (List.cons_eq_cons.mp h).2
          obtain ⟨hall, hst⟩ := ih (fun x hx y hy => hread x (List.mem_cons_of_mem _ hx) y
            (List.mem_cons_of_mem _ hy)) hrest
          exact ⟨.cons hxy hall, hst⟩

/-- Elements between brackets are read one after the other.  None of them begins like the
closing bracket, so that no elements can be told from some. -/
theorem forall₂_of_joinWith_append_eq (hclose : close ≠ ',' ∧ close.isDigit = false)
    {xs ys : List α} (hfirst : ∀ z, z ∈ xs ∨ z ∈ ys → ∃ c rest, write z = c :: rest ∧ c ≠ close)
    (hread : ∀ x ∈ xs, ∀ y ∈ ys, ∀ s t, NoDigitNext s → NoDigitNext t →
      write x ++ s = write y ++ t → R x y ∧ s = t) {s t : List Char}
    (h : joinWith [','] (xs.map write) ++ close :: s =
      joinWith [','] (ys.map write) ++ close :: t) : List.Forall₂ R xs ys ∧ s = t := by
  cases xs with
  | nil =>
      cases ys with
      | nil => exact ⟨.nil, (List.cons_eq_cons.mp h).2⟩
      | cons y ys =>
          obtain ⟨c, rest, hwrite, hne⟩ := hfirst y (.inr List.mem_cons_self)
          rw [joinWith_map_cons, hwrite] at h
          exact absurd (List.cons_eq_cons.mp h).1.symm hne
  | cons x xs =>
      cases ys with
      | nil =>
          obtain ⟨c, rest, hwrite, hne⟩ := hfirst x (.inl List.mem_cons_self)
          rw [joinWith_map_cons, hwrite] at h
          exact absurd (List.cons_eq_cons.mp h).1 hne
      | cons y ys =>
          rw [joinWith_map_cons, joinWith_map_cons, List.append_assoc, List.append_assoc] at h
          obtain ⟨hxy, hrest⟩ := hread x List.mem_cons_self y List.mem_cons_self _ _
            (noDigitNext_flatMap hclose.2 xs s) (noDigitNext_flatMap hclose.2 ys t) h
          obtain ⟨hall, hst⟩ := forall₂_of_flatMap_append_eq hclose
            (fun x hx y hy => hread x (List.mem_cons_of_mem _ hx) y (List.mem_cons_of_mem _ hy))
            hrest
          exact ⟨.cons hxy hall, hst⟩

end Lists

namespace Value

/-! ## Values -/

/-- Values that are made from null, truth values, strings, arrays, objects, and whole numbers
below `10 ^ 21` in either direction. -/
inductive Exact : Value → Prop
  | null : Exact .null
  | bool (b : Bool) : Exact (.bool b)
  | number {n : Number} {i : Int} (hint : n.toInt? = some i) (hlt : i.natAbs < 10 ^ 21) :
      Exact (.number n)
  | string (s : String) : Exact (.string s)
  | array {items : List Value} (h : ∀ item ∈ items, Exact item) : Exact (.array items)
  | object {fields : List (String × Value)} (h : ∀ field ∈ fields, Exact field.2) :
      Exact (.object fields)

/-- The type that the first character of a written value announces. -/
def announced (c : Char) : String :=
  match c with
  | 'n' => "null"
  | 't' | 'f' => "boolean"
  | '"' => "string"
  | '[' => "array"
  | '{' => "object"
  | _ => "number"

theorem announced_of_isDigit {c : Char} (h : c.isDigit = true ∨ c = '-') :
    announced c = "number" := by
  unfold announced
  split
  case h_7 => rfl
  all_goals exact absurd h (by decide)

theorem compact_number {n : Number} {i : Int} (hint : n.toInt? = some i)
    (hlt : i.natAbs < 10 ^ 21) : (number n).compact = Numeral.integerText i := by
  rw [compact]
  exact Number.text_of_toInt? hint hlt

/-- The first character of a written value announces its type.  It is never the bracket that
closes an array. -/
theorem Exact.exists_compact_eq_cons {v : Value} (h : v.Exact) :
    ∃ c rest, v.compact = c :: rest ∧ announced c = v.typeTag ∧ c ≠ ']' := by
  cases h with
  | null => exact ⟨_, _, rfl, rfl, by decide⟩
  | bool b => cases b <;> exact ⟨_, _, rfl, rfl, by decide⟩
  | number hint hlt =>
      obtain ⟨c, rest, htext, hc⟩ := Numeral.exists_integerText_eq_cons _
      refine ⟨c, rest, (compact_number hint hlt).trans htext, announced_of_isDigit hc, ?_⟩
      rintro rfl
      exact absurd hc (by decide)
  | string s => exact ⟨_, _, rfl, rfl, by decide⟩
  | array h => exact ⟨_, _, rfl, rfl, by decide⟩
  | object h => exact ⟨_, _, rfl, rfl, by decide⟩

theorem Exact.typeTag_eq {a b : Value} (ha : a.Exact) (hb : b.Exact) {s t : List Char}
    (h : a.compact ++ s = b.compact ++ t) : a.typeTag = b.typeTag := by
  obtain ⟨c, rest, hc, htag, -⟩ := ha.exists_compact_eq_cons
  obtain ⟨d, rest', hd, htag', -⟩ := hb.exists_compact_eq_cons
  rw [hc, hd] at h
  rw [← htag, ← htag', (List.cons_eq_cons.mp h).1]

/-- The name of a field begins with a quote. -/
theorem exists_field_eq_cons (field : String × Value) :
    ∃ c rest, Quoted.encode field.1.toList ++ ':' :: field.2.compact = c :: rest ∧ c ≠ '}' :=
  ⟨'"', _, rfl, by decide⟩

/-- A value is read off the beginning of a text in one way only. -/
theorem Exact.compact_append_inj {a b : Value} (ha : a.Exact) (hb : b.Exact) {s t : List Char}
    (hs : NoDigitNext s) (ht : NoDigitNext t) (h : a.compact ++ s = b.compact ++ t) :
    (a == b) = true ∧ s = t := by
  have htag : a.typeTag = b.typeTag := ha.typeTag_eq hb h
  induction ha generalizing b s t with
  | null =>
      cases hb with
      | null => exact ⟨rfl, List.append_cancel_left h⟩
      | _ => simp [typeTag] at htag
  | bool x =>
      cases hb with
      | bool y =>
          -- The two truth values begin with different letters.
          cases x <;> cases y
          case false.false | true.true => exact ⟨rfl, List.append_cancel_left h⟩
          all_goals exact absurd (List.cons_eq_cons.mp h).1 (by decide)
      | _ => simp [typeTag] at htag
  | number hint hlt =>
      cases hb with
      | number hint' hlt' =>
          rw [compact_number hint hlt, compact_number hint' hlt'] at h
          obtain ⟨rfl, hrest⟩ := Numeral.integerText_append_inj hs ht h
          exact ⟨Number.beq_of_toInt?_eq hint hint', hrest⟩
      | _ => simp [typeTag] at htag
  | string x =>
      cases hb with
      | string y =>
          rw [compact, compact] at h
          obtain ⟨htext, hrest⟩ := Quoted.encode_append_inj h
          obtain rfl := String.toList_inj.mp htext
          exact ⟨beq_self_eq_true x, hrest⟩
      | _ => simp [typeTag] at htag
  | @array items hitems ih =>
      cases hb with
      | @array others hothers =>
          simp only [compact, compactItems_eq_map, List.cons_append, List.append_assoc,
            List.nil_append] at h
          have hread : List.Forall₂ (fun x y => (x == y) = true) items others ∧ s = t := by
            refine forall₂_of_joinWith_append_eq (by decide) ?_ ?_ (List.cons_eq_cons.mp h).2
            · intro x hx
              obtain ⟨c, rest, hc, -, hne⟩ :=
                (hx.elim (hitems x) (hothers x)).exists_compact_eq_cons
              exact ⟨c, rest, hc, hne⟩
            · intro x hx y hy u v hu hv heq
              exact ih x hx (hothers y hy) hu hv heq ((hitems x hx).typeTag_eq (hothers y hy) heq)
          exact ⟨beq_array_iff.mpr hread.1, hread.2⟩
      | _ => simp [typeTag] at htag
  | @object fields hfields ih =>
      cases hb with
      | @object others hothers =>
          simp only [compact, compactFields_eq_map, List.cons_append, List.append_assoc,
            List.nil_append] at h
          have hread : List.Forall₂ (fun f g => f.1 = g.1 ∧ (f.2 == g.2) = true) fields others ∧
              s = t := by
            refine forall₂_of_joinWith_append_eq (by decide) (fun f _ => exists_field_eq_cons f) ?_
              (List.cons_eq_cons.mp h).2
            intro f hf g hg u v hu hv heq
            rw [List.append_assoc, List.append_assoc] at heq
            obtain ⟨hname, hvalue⟩ := Quoted.encode_append_inj heq
            have hvalue := (List.cons_eq_cons.mp hvalue).2
            obtain ⟨hbeq, hrest⟩ := ih f hf (hothers g hg) hu hv hvalue
              ((hfields f hf).typeTag_eq (hothers g hg) hvalue)
            exact ⟨⟨String.toList_inj.mp hname, hbeq⟩, hrest⟩
          exact ⟨beq_object_iff.mpr hread.1, hread.2⟩
      | _ => simp [typeTag] at htag

theorem Exact.quoted_eq {v : Value} (h : v.Exact) : v.quoted = String.ofList v.compact := by
  cases h <;> rfl

/-- **The quoted form tells values apart.**  Values that JSON holds without loss, and whose
numbers are whole and written with all their digits, have one quoted form only when they are
equal. -/
theorem quoted_eq_iff {a b : Value} (ha : a.Exact) (hb : b.Exact) :
    a.quoted = b.quoted ↔ (a == b) = true := by
  constructor
  · intro h
    rw [ha.quoted_eq, hb.quoted_eq, String.ofList_inj] at h
    have happend : a.compact ++ [] = b.compact ++ [] := by rw [h]
    exact (ha.compact_append_inj hb noDigitNext_nil noDigitNext_nil happend).1
  · exact quoted_eq_of_beq

/-- A list with separators and brackets in its texts, and with a zero of either sign. -/
def bracketsInTexts (negative : Bool) : Value :=
  .array [.string "],\"", .object [("a\":", .array []), ("b", .number (.zero negative))],
    .number (.ofInt (-100000000000000000000)), .bool true, .null]

/-- The sign of zero is not shown, and makes no difference. -/
theorem bracketsInTexts_quoted :
    (bracketsInTexts true).Exact ∧ (bracketsInTexts false).Exact ∧
      (bracketsInTexts true).quoted = (bracketsInTexts false).quoted ∧
      (bracketsInTexts true == bracketsInTexts false) = true := by
  have hlarge : (Number.ofInt (-100000000000000000000)).toInt? =
      some (-100000000000000000000) := by decide +kernel
  have hexact : ∀ negative, (bracketsInTexts negative).Exact := by
    intro negative
    have hfields : (Value.object [("a\":", .array []), ("b", .number (.zero negative))]).Exact := by
      refine .object (List.forall_mem_cons.mpr ⟨.array nofun, List.forall_mem_singleton.mpr ?_⟩)
      exact .number (Number.toInt?_zero negative) (by decide)
    have hnumber : (Value.number (.ofInt (-100000000000000000000))).Exact :=
      .number hlarge (by decide)
    simp only [bracketsInTexts]
    exact .array (by simp [hfields, hnumber, Exact.string, Exact.bool, Exact.null])
  have hquoted : (bracketsInTexts true).quoted = (bracketsInTexts false).quoted := by
    simp only [bracketsInTexts, quoted, compact, compactItems, compactFields, Number.text_zero]
  exact ⟨hexact true, hexact false, hquoted,
    (quoted_eq_iff (hexact true) (hexact false)).mp hquoted⟩

end Value

end ValueAssertions
