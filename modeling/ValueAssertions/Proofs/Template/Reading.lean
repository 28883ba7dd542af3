import ValueAssertions.Proofs.Template.Symbol
import Mathlib.Data.Nat.Find

/-!
# Reading expressions

The comparison of an expression is searched for from left to right, outside quotes.  What
is outside is said without the search: no quote is open at the end of a text that is made
of quoted spans and of characters that are no quotes (`QuotesClosed`).  The search finds
the earliest place of this sort at which a comparison begins, and takes the longest that
begins there (`FirstComparison`).

The blanks around an expression are no part of it, and reading is the same whether they
are taken off before the search or after it (`read_of_splitAtTest?_eq_some`).  So the name
and the literal are what is before and after the comparison, without blanks around them.

`read_inverts_print` puts this together: it says what is read from a text in which a
comparison begins outside quotes and from one in which none does, and that printed
comparisons are read back, whatever blanks are around their parts.
-/

namespace ValueAssertions.Template

/-! ## Quotes -/

/-- No quote is open at the end of a text. -/
inductive QuotesClosed : List Char → Prop
  | nil : QuotesClosed []
  | plain {c : Char} {s : List Char} (hc : isQuote c = false) (hs : QuotesClosed s) :
      QuotesClosed (c :: s)
  | quoted {quote : Char} {inner s : List Char} (hquote : isQuote quote = true)
      (hinner : quote ∉ inner) (hs : QuotesClosed s) :
      QuotesClosed (quote :: (inner ++ quote :: s))

/-- Induction on a text from one quoted span to the next.  The last one may be open. -/
@[elab_as_elim]
theorem quotes_induction {motive : List Char → Prop} (nil : motive [])
    (plain : ∀ c s, isQuote c = false → motive s → motive (c :: s))
    (quoted : ∀ quote inner s, isQuote quote = true → quote ∉ inner → motive s →
      motive (quote :: (inner ++ quote :: s)))
    (unclosed : ∀ quote inner, isQuote quote = true → quote ∉ inner → motive (quote :: inner))
    (s : List Char) : motive s := by
  induction hlength : s.length using Nat.strong_induction_on generalizing s with
  | _ n ih =>
      cases s with
      | nil => exact nil
      | cons c s =>
          cases hc : isQuote c with
          | false => exact plain c s hc (ih _ (by rw [← hlength]; exact Nat.lt_succ_self _) s rfl)
          | true =>
              by_cases hmem : c ∈ s
              · obtain ⟨inner, rest, rfl, hinner⟩ := List.eq_append_cons_of_mem hmem
                refine quoted c inner rest hc hinner (ih _ ?_ rest rfl)
                rw [← hlength]
                simp only [List.length_cons, List.length_append]
                omega
              · exact unclosed c s hc hmem

/-! ## The search -/

section Search

variable {c quote : Char} {s t before inner after : List Char} {test : Test}

/-- Inside quotes nothing but the quote is looked for. -/
theorem splitAtTest?_inside_cons (quote c : Char) (s : List Char) :
    splitAtTest? (some quote) (c :: s) =
      (splitAtTest? (if c = quote then none else some quote) s).map
        fun parts => (c :: parts.1, parts.2) := by
  rw [splitAtTest?]

theorem splitAtTest?_quote_cons (hc : isQuote c = true) (s : List Char) :
    splitAtTest? none (c :: s) =
      (splitAtTest? (some c) s).map fun parts => (c :: parts.1, parts.2) := by
  rw [splitAtTest?, if_pos hc]

theorem splitAtTest?_plain_cons (hc : isQuote c = false) (hnone : Test.startOf? (c :: s) = none) :
    splitAtTest? none (c :: s) =
      (splitAtTest? none s).map fun parts => (c :: parts.1, parts.2) := by
  rw [splitAtTest?, if_neg (by simp [hc]), hnone]

theorem splitAtTest?_of_startOf? (hc : isQuote c = false)
    (hsome : Test.startOf? (c :: s) = some test) :
    splitAtTest? none (c :: s) = some ([], test, (c :: s).drop test.symbol.length) := by
  rw [splitAtTest?, if_neg (by simp [hc]), hsome]

/-- A quoted span is passed over up to its quote. -/
theorem splitAtTest?_inside (hinner : quote ∉ inner) (t : List Char) :
    splitAtTest? (some quote) (inner ++ t) =
      (splitAtTest? (some quote) t).map fun parts => (inner ++ parts.1, parts.2) := by
  induction inner with
  | nil => simp
  | cons c inner ih =>
      obtain ⟨hc, hinner⟩ : quote ≠ c ∧ quote ∉ inner := by simpa using hinner
      rw [List.cons_append, splitAtTest?_inside_cons, if_neg hc.symm, ih hinner, Option.map_map]
      rfl

theorem splitAtTest?_quoted (hquote : isQuote quote = true) (hinner : quote ∉ inner)
    (s : List Char) :
    splitAtTest? none (quote :: (inner ++ quote :: s)) =
      (splitAtTest? none s).map fun parts => (quote :: (inner ++ quote :: parts.1), parts.2) := by
  rw [splitAtTest?_quote_cons hquote, splitAtTest?_inside hinner, splitAtTest?_inside_cons,
    if_pos rfl, Option.map_map, Option.map_map]
  rfl

/-- Behind a quote that is never closed nothing is found. -/
theorem splitAtTest?_unclosed (hquote : isQuote quote = true) (hinner : quote ∉ inner) :
    splitAtTest? none (quote :: inner) = none := by
  have hinside := splitAtTest?_inside hinner []
  rw [List.append_nil, splitAtTest?, Option.map_none] at hinside
  rw [splitAtTest?_quote_cons hquote, hinside, Option.map_none]

/-- The search for a comparison passes over characters that are no quotes and begin
none. -/
theorem splitAtTest?_append (hs : ∀ c ∈ s, isQuote c = false ∧ startsTest c = false)
    (t : List Char) :
    splitAtTest? none (s ++ t) =
      (splitAtTest? none t).map fun parts => (s ++ parts.1, parts.2) := by
  induction s with
  | nil => simp
  | cons c s ih =>
      obtain ⟨⟨hquote, htest⟩, hs⟩ := List.forall_mem_cons.mp hs
      have hnone : Test.startOf? (c :: (s ++ t)) = none := by
        refine Test.startOf?_eq_none ?_
        rintro _ ⟨⟩
        exact htest
      rw [List.cons_append, splitAtTest?_plain_cons hquote hnone, ih hs, Option.map_map]
      rfl

/-- The search stops where a comparison begins, at the longest one. -/
theorem splitAtTest?_of_longest (h : LongestComparison (test.symbol.toList ++ s) test) :
    splitAtTest? none (test.symbol.toList ++ s) = some ([], test, s) := by
  obtain ⟨hne, hstarts⟩ := Test.startsTest_of_mem_symbol h.mem
  have hstart := Test.startOf?_eq_some_iff.mpr h
  obtain ⟨c, symbol, hsymbol⟩ := List.exists_cons_of_ne_nil hne
  rw [hsymbol] at hstarts
  rw [hsymbol, List.cons_append] at hstart
  have hquote : isQuote c = false := by
    rw [← Bool.not_eq_true]
    intro hc
    have := (isSolid_of_isQuote hc).startsTest_eq
    rw [hstarts c List.mem_cons_self] at this
    cases this
  rw [hsymbol, List.cons_append, splitAtTest?_of_startOf? hquote hstart, ← List.cons_append,
    ← hsymbol, ← String.length_toList, List.drop_left]

/-- A text is passed over that leaves no quote open, unless a comparison begins in it outside
quotes. -/
theorem QuotesClosed.splitAtTest?_append (hbefore : QuotesClosed before)
    (hnone : ∀ other rest, before ++ t = other ++ rest → QuotesClosed other →
      other.length < before.length → ¬ BeginsComparison rest) :
    splitAtTest? none (before ++ t) =
      (splitAtTest? none t).map fun parts => (before ++ parts.1, parts.2) := by
  induction hbefore with
  | nil => simp
  | @plain c before hc _ ih =>
      have hstart : Test.startOf? (c :: (before ++ t)) = none :=
        Test.startOf?_eq_none_iff.mpr (hnone [] _ rfl .nil (by simp))
      have hrest := ih fun other rest heq hother hlt =>
        hnone (c :: other) rest (by simp [heq]) (.plain hc hother) (by simpa using hlt)
      rw [List.cons_append, splitAtTest?_plain_cons hc hstart, hrest, Option.map_map]
      rfl
  | @quoted quote inner before hquote hinner _ ih =>
      have hrest := ih fun other rest heq hother hlt =>
        hnone (quote :: (inner ++ quote :: other)) rest (by simp [heq])
          (.quoted hquote hinner hother) (by simpa using hlt)
      have hspan : ∀ u, quote :: (inner ++ quote :: before) ++ u =
          quote :: (inner ++ quote :: (before ++ u)) := by
        simp
      rw [hspan, splitAtTest?_quoted hquote hinner, hrest, Option.map_map]
      simp only [hspan, Function.comp_def]

end Search

/-! ## The first comparison -/

/-- Somewhere in a text a comparison begins outside quotes. -/
def HasComparison (s : List Char) : Prop :=
  ∃ before rest, s = before ++ rest ∧ QuotesClosed before ∧ BeginsComparison rest

/-- The first comparison of a text outside quotes, and the longest one there, with what is
before and after it. -/
structure FirstComparison (s before : List Char) (test : Test) (after : List Char) : Prop where
  split : s = before ++ (test.symbol.toList ++ after)
  closed : QuotesClosed before
  longest : LongestComparison (test.symbol.toList ++ after) test
  earliest : ∀ other rest, s = other ++ rest → QuotesClosed other → BeginsComparison rest →
    before.length ≤ other.length

section First

variable {s before after : List Char} {test : Test}

/-- Where comparisons begin, one of them is the first. -/
theorem HasComparison.exists_first (h : HasComparison s) :
    ∃ before test after, FirstComparison s before test after := by
  classical
  have hlength : ∃ n before rest, before.length = n ∧
      s = before ++ rest ∧ QuotesClosed before ∧ BeginsComparison rest := by
    obtain ⟨before, rest, h⟩ := h
    exact ⟨before.length, before, rest, rfl, h⟩
  obtain ⟨before, rest, hbefore, hsplit, hclosed, hbegins⟩ := Nat.find_spec hlength
  obtain ⟨test, hlongest⟩ := hbegins.exists_longest
  obtain ⟨after, rfl⟩ := hlongest.begins
  refine ⟨before, test, after, hsplit, hclosed, hlongest, fun other rest heq hother hrest => ?_⟩
  rw [hbefore]
  exact Nat.find_min' hlength ⟨other, rest, rfl, heq, hother, hrest⟩

theorem FirstComparison.splitAtTest? (h : FirstComparison s before test after) :
    splitAtTest? none s = some (before, test, after) := by
  have hnone : ∀ other rest, before ++ (test.symbol.toList ++ after) = other ++ rest →
      QuotesClosed other → other.length < before.length → ¬ BeginsComparison rest :=
    fun other rest heq hother hlt hrest =>
      Nat.not_le_of_lt hlt (h.earliest other rest (h.split.trans heq) hother hrest)
  rw [h.split, h.closed.splitAtTest?_append hnone, splitAtTest?_of_longest h.longest]
  simp

theorem splitAtTest?_eq_none (h : ¬ HasComparison s) : splitAtTest? none s = none := by
  induction s using quotes_induction with
  | nil => rfl
  | plain c s hc ih =>
      have hstart : Test.startOf? (c :: s) = none :=
        Test.startOf?_eq_none_iff.mpr fun hbegins => h ⟨[], _, rfl, .nil, hbegins⟩
      have hs : ¬ HasComparison s := by
        rintro ⟨before, rest, rfl, hbefore, hrest⟩
        exact h ⟨c :: before, rest, rfl, .plain hc hbefore, hrest⟩
      rw [splitAtTest?_plain_cons hc hstart, ih hs, Option.map_none]
  | quoted quote inner s hquote hinner ih =>
      have hs : ¬ HasComparison s := by
        rintro ⟨before, rest, rfl, hbefore, hrest⟩
        exact h ⟨quote :: (inner ++ quote :: before), rest, by simp, .quoted hquote hinner hbefore,
          hrest⟩
      rw [splitAtTest?_quoted hquote hinner, ih hs, Option.map_none]
  | unclosed quote inner hquote hinner => exact splitAtTest?_unclosed hquote hinner

theorem hasComparison_iff_isSome : HasComparison s ↔ (splitAtTest? none s).isSome = true := by
  constructor
  · intro h
    obtain ⟨before, test, after, hfirst⟩ := h.exists_first
    rw [hfirst.splitAtTest?, Option.isSome_some]
  · intro h
    by_contra hnone
    rw [splitAtTest?_eq_none hnone, Option.isSome_none] at h
    cases h

instance : DecidablePred HasComparison :=
  fun _ => decidable_of_iff _ hasComparison_iff_isSome.symm

end First

/-! ## Blanks around an expression -/

section Blank

variable {s before after lead trail : List Char} {test : Test}

theorem splitAtTest?_append_left (hlead : ∀ c ∈ lead, isBlank c = true) (s : List Char) :
    splitAtTest? none (lead ++ s) =
      (splitAtTest? none s).map fun parts => (lead ++ parts.1, parts.2) := by
  refine splitAtTest?_append (fun c hc => ?_) s
  have := not_special_of_isBlank (hlead c hc)
  exact ⟨this.1, this.2.1⟩

theorem splitAtTest?_blank (htrail : ∀ c ∈ trail, isBlank c = true) (openQuote : Option Char) :
    splitAtTest? openQuote trail = none := by
  induction trail generalizing openQuote with
  | nil => rw [splitAtTest?]
  | cons c trail ih =>
      obtain ⟨hc, htrail⟩ := List.forall_mem_cons.mp htrail
      obtain ⟨hquote, hstarts, -⟩ := not_special_of_isBlank hc
      cases openQuote with
      | some quote => rw [splitAtTest?_inside_cons, ih htrail, Option.map_none]
      | none =>
          have hstart : Test.startOf? (c :: trail) = none := by
            refine Test.startOf?_eq_none ?_
            rintro _ ⟨⟩
            exact hstarts
          rw [splitAtTest?_plain_cons hquote hstart, ih htrail, Option.map_none]

/-- Blanks after a text are put after what comes after the comparison. -/
theorem splitAtTest?_append_right (htrail : ∀ c ∈ trail, isBlank c = true)
    (openQuote : Option Char) (s : List Char) :
    splitAtTest? openQuote (s ++ trail) =
      (splitAtTest? openQuote s).map fun parts => (parts.1, parts.2.1, parts.2.2 ++ trail) := by
  have hhead : ∀ c ∈ trail.head?, startsTest c = false := fun c hc =>
    (not_special_of_isBlank (htrail c (List.mem_of_mem_head? hc))).2.1
  induction s generalizing openQuote with
  | nil => rw [List.nil_append, splitAtTest?_blank htrail, splitAtTest?, Option.map_none]
  | cons c s ih =>
      rw [List.cons_append]
      cases openQuote with
      | some quote =>
          rw [splitAtTest?_inside_cons, splitAtTest?_inside_cons, ih, Option.map_map,
            Option.map_map]
          rfl
      | none =>
          cases hc : isQuote c with
          | true =>
              rw [splitAtTest?_quote_cons hc, splitAtTest?_quote_cons hc, ih, Option.map_map,
                Option.map_map]
              rfl
          | false =>
              -- A comparison does not go on into the blanks.
              have hstart : Test.startOf? (c :: (s ++ trail)) = Test.startOf? (c :: s) :=
                Test.startOf?_append (s := c :: s) hhead
              cases hfound : Test.startOf? (c :: s) with
              | none =>
                  rw [splitAtTest?_plain_cons hc (hstart.trans hfound),
                    splitAtTest?_plain_cons hc hfound, ih, Option.map_map, Option.map_map]
                  rfl
              | some test =>
                  have hle := (Test.startOf?_eq_some_iff.mp hfound).begins.length_le
                  rw [String.length_toList] at hle
                  rw [splitAtTest?_of_startOf? hc (hstart.trans hfound),
                    splitAtTest?_of_startOf? hc hfound, Option.map_some, ← List.cons_append,
                    List.drop_append_of_le_length hle]

/-- An expression with a comparison outside quotes compares what is before it with what is
after it. -/
theorem read_of_splitAtTest?_eq_some (h : splitAtTest? none s = some (before, test, after)) :
    Expression.read s =
      ⟨test, String.ofList (trim before), some (readLiteral (trim after))⟩ := by
  obtain ⟨lead, trail, hlead, htrail, heq⟩ := exists_eq_append_trim s
  -- The search in the whole text goes as in the trimmed one.
  rw [heq, splitAtTest?_append_left hlead, splitAtTest?_append_right htrail, Option.map_map] at h
  obtain ⟨⟨name, found, literal⟩, hfound, hparts⟩ := Option.map_eq_some_iff.mp h
  cases hparts
  simp only [Expression.read, hfound, trim_append_left hlead, trim_append_right literal htrail]

theorem read_of_splitAtTest?_eq_none (h : splitAtTest? none s = none) :
    Expression.read s = ⟨.truthy, String.ofList (trim s), none⟩ := by
  obtain ⟨lead, trail, hlead, htrail, heq⟩ := exists_eq_append_trim s
  rw [heq, splitAtTest?_append_left hlead, splitAtTest?_append_right htrail, Option.map_map,
    Option.map_eq_none_iff] at h
  simp only [Expression.read, h]

end Blank

/-! ## Printed comparisons -/

/-- A text that can stand before a comparison as a name: it begins no comparison and opens no
quote, and there are no blanks around it. -/
structure IsOperand (name : List Char) : Prop where
  plain : ∀ c ∈ name, isQuote c = false ∧ startsTest c = false
  head : ∀ c ∈ name.head?, isBlank c = false
  last : ∀ c ∈ name.getLast?, isBlank c = false

/-- A name by itself has to count as true. -/
theorem IsOperand.read {name : List Char} (h : IsOperand name) :
    Expression.read name = ⟨.truthy, String.ofList name, none⟩ := by
  have hnone : splitAtTest? none name = none := by
    have happend := splitAtTest?_append h.plain []
    rwa [List.append_nil, splitAtTest?, Option.map_none] at happend
  rw [read_of_splitAtTest?_eq_none hnone, trim_eq_self h.head h.last]

/-- What follows a name is read as the longest comparison there with the rest. -/
theorem read_of_longest {lead name before rest : List Char} {test : Test}
    (hlead : ∀ c ∈ lead, isBlank c = true) (hname : IsOperand name)
    (hbefore : ∀ c ∈ before, isBlank c = true)
    (hlongest : LongestComparison (test.symbol.toList ++ rest) test) :
    Expression.read (lead ++ (name ++ (before ++ (test.symbol.toList ++ rest)))) =
      ⟨test, String.ofList name, some (readLiteral (trim rest))⟩ := by
  have hplain : ∀ c ∈ name ++ before, isQuote c = false ∧ startsTest c = false := by
    refine List.forall_mem_append.mpr ⟨hname.plain, fun c hc => ?_⟩
    have hblank := not_special_of_isBlank (hbefore c hc)
    exact ⟨hblank.1, hblank.2.1⟩
  have hsplit : splitAtTest? none (lead ++ (name ++ (before ++ (test.symbol.toList ++ rest)))) =
      some (lead ++ (name ++ before), test, rest) := by
    rw [splitAtTest?_append_left hlead, ← List.append_assoc name, splitAtTest?_append hplain,
      splitAtTest?_of_longest hlongest]
    simp
  rw [read_of_splitAtTest?_eq_some hsplit, trim_append_left hlead, trim_append_right name hbefore,
    trim_eq_self hname.head hname.last]

/-- Before a literal, a comparison is as long as it was written. -/
theorem WrittenLiteral.Readable.longest {literal : WrittenLiteral} (h : literal.Readable)
    {test : Test} (htest : test ∈ Test.comparisons) {after : List Char}
    (hafter : ∀ c ∈ after, isBlank c = true) (rest : List Char) :
    LongestComparison (test.symbol.toList ++ (after ++ (literal.print ++ rest))) test := by
  obtain ⟨hne, hhead, -⟩ := h.solid
  refine Test.startOf?_eq_some_iff.mp (Test.startOf?_symbol_append htest ?_)
  refine forall_head?_append (fun c hc => (not_special_of_isBlank (hafter c hc)).2.1) ?_
  rw [List.head?_append_of_ne_nil _ hne]
  exact fun c hc => (hhead c hc).startsTest_eq

/-- A comparison is read back with any blanks around its parts. -/
theorem read_comparison {lead name before after trail : List Char} {test : Test}
    {literal : WrittenLiteral} (hlead : ∀ c ∈ lead, isBlank c = true) (hname : IsOperand name)
    (hbefore : ∀ c ∈ before, isBlank c = true) (htest : test ∈ Test.comparisons)
    (hafter : ∀ c ∈ after, isBlank c = true) (hliteral : literal.Readable)
    (htrail : ∀ c ∈ trail, isBlank c = true) :
    Expression.read (lead ++ (name ++ (before ++
        (test.symbol.toList ++ (after ++ (literal.print ++ trail)))))) =
      ⟨test, String.ofList name, some literal.value⟩ := by
  obtain ⟨-, hhead, hlast⟩ := hliteral.solid
  rw [read_of_longest hlead hname hbefore (hliteral.longest htest hafter trail),
    trim_append_left hafter,
    trim_append_right literal.print htrail,
    trim_eq_self (fun c hc => (hhead c hc).isBlank_eq) fun c hc => (hlast c hc).isBlank_eq,
    WrittenLiteral.readLiteral_print hliteral]

/-- **Reading undoes printing.**  A comparison is read back as it was printed, with any blanks
around its parts, an empty name, or a literal that looks like an expression.  In any other text
the comparison is the longest one at the first place outside quotes at which one begins; where
there is none, the text is the name of a token that has to count as true. -/
theorem read_inverts_print :
    (∀ (lead name before : List Char) (test : Test) (after : List Char) (literal : WrittenLiteral)
      (trail : List Char), (∀ c ∈ lead, isBlank c = true) → IsOperand name →
      (∀ c ∈ before, isBlank c = true) → test ∈ Test.comparisons →
      (∀ c ∈ after, isBlank c = true) → literal.Readable → (∀ c ∈ trail, isBlank c = true) →
        Expression.read (lead ++ (name ++ (before ++
            (test.symbol.toList ++ (after ++ (literal.print ++ trail)))))) =
          ⟨test, String.ofList name, some literal.value⟩) ∧
    (∀ s, ¬ HasComparison s → Expression.read s = ⟨.truthy, String.ofList (trim s), none⟩) ∧
    ∀ s, HasComparison s → ∃ before test after, FirstComparison s before test after ∧
      Expression.read s =
        ⟨test, String.ofList (trim before), some (readLiteral (trim after))⟩ := by
  refine ⟨fun lead name before test after literal trail hlead hname hbefore htest hafter hliteral
    htrail => read_comparison hlead hname hbefore htest hafter hliteral htrail,
    fun s hnone => read_of_splitAtTest?_eq_none (splitAtTest?_eq_none hnone), fun s hsome => ?_⟩
  obtain ⟨before, test, after, hfirst⟩ := hsome.exists_first
  exact ⟨before, test, after, hfirst, read_of_splitAtTest?_eq_some hfirst.splitAtTest?⟩

/-- A text with quotes of both sorts and symbols in it. -/
def quotedComparison : WrittenLiteral :=
  .quoted '"' "it's >= \"5\" ".toList

theorem quotedComparison_read :
    IsOperand "the value".toList ∧ Test.strictNe ∈ Test.comparisons ∧
      quotedComparison.Readable ∧
      Expression.read (" ".toList ++ ("the value".toList ++ ([] ++ (Test.strictNe.symbol.toList ++
          ("\n ".toList ++ (quotedComparison.print ++ "\t".toList)))))) =
        ⟨.strictNe, "the value", some (.string "it's >= \"5\" ")⟩ ∧
      ¬ HasComparison " a = 'b == c' ! d \"> ".toList ∧
      Expression.read " a = 'b == c' ! d \"> ".toList =
        ⟨.truthy, "a = 'b == c' ! d \">", none⟩ ∧
      HasComparison "'a == b' !===<= c".toList ∧
      ∃ before test after, FirstComparison "'a == b' !===<= c".toList before test after ∧
        Expression.read "'a == b' !===<= c".toList =
          ⟨test, String.ofList (trim before), some (readLiteral (trim after))⟩ := by
  obtain ⟨hprinted, hnone, hfirst⟩ := read_inverts_print
  have hplain : "the value".toList.all (fun c => !isQuote c && !startsTest c) = true := by decide
  have hname : IsOperand "the value".toList := by
    refine ⟨fun c hc => ?_, ?_, ?_⟩
    · simpa using List.all_eq_true.mp hplain c hc
    · rintro _ ⟨⟩
      decide
    · rintro _ ⟨⟩
      decide
  have hblank : ∀ s : List Char, s.all isBlank = true → ∀ c ∈ s, isBlank c = true :=
    fun s hs => List.all_eq_true.mp hs
  have hunquoted : ¬ HasComparison " a = 'b == c' ! d \"> ".toList := by decide
  have hsome : HasComparison "'a == b' !===<= c".toList := by decide
  exact ⟨hname, by decide, rfl,
    hprinted _ _ _ _ _ _ _ (hblank _ (by decide)) hname nofun (by decide) (hblank _ (by decide)) rfl
      (hblank _ (by decide)), hunquoted, hnone _ hunquoted, hsome, hfirst _ hsome⟩

end ValueAssertions.Template
