import ValueAssertions.Proofs.Template.Splitting

/-!
# Written expressions

The expression of a block is written as the name of a token, or as a name, a
comparison and a literal with blanks around the comparison.  `WrittenExpression`
is that syntax, `print` its text and `denote` the expression that it stands for.

* `splitBody_print`: in a block, the written expression ends where its text ends,
  whatever message comes after it.
* `read_print`: reading the text gives the expression that is denoted.
* `WrittenExpression.passes_print`: the scan for markers passes over the text.
-/

namespace ValueAssertions.Template

/-! ## Syntax -/

/-- A written expression. -/
inductive WrittenExpression where
  /-- The name of a token, which has to count as true. -/
  | bare (name : List Char)
  /-- The name of a token that is compared with a literal. -/
  | comparison (name before : List Char) (test : Test) (after : List Char)
      (literal : WrittenLiteral)

/-- A name is made of the characters that names have, at least one. -/
def IsName (s : List Char) : Prop :=
  s ≠ [] ∧ ∀ c ∈ s, isNameCharacter c = true

namespace WrittenExpression

/-- The text of an expression. -/
def print : WrittenExpression → List Char
  | .bare name => name
  | .comparison name before test after literal =>
    name ++ (before ++ (test.symbol.toList ++ (after ++ literal.print)))

/-- The expression that is written. -/
def denote : WrittenExpression → Expression
  | .bare name => ⟨.truthy, String.ofList name, none⟩
  | .comparison name _ test _ literal => ⟨test, String.ofList name, some literal.value⟩

/-- Only blanks stand around one of the eight comparisons. -/
def Valid : WrittenExpression → Prop
  | .bare name => IsName name
  | .comparison name before test after literal =>
    IsName name ∧ (∀ c ∈ before, isBlank c = true) ∧ test ∈ Test.comparisons ∧
      (∀ c ∈ after, isBlank c = true) ∧ literal.Valid

end WrittenExpression

/-! ## Names -/

namespace IsName

variable {name : List Char}

theorem isOrdinary (h : IsName name) : ∀ c ∈ name, IsOrdinary c :=
  fun c hc => isOrdinary_of_isNameCharacter (h.2 c hc)

theorem isOperand (h : IsName name) : IsOperand name where
  plain c hc := ⟨(h.isOrdinary c hc).isQuote_eq, (h.isOrdinary c hc).startsTest_eq⟩
  head c hc := (h.isOrdinary c (List.mem_of_mem_head? hc)).isBlank_eq
  last c hc := (h.isOrdinary c (List.mem_of_mem_getLast? hc)).isBlank_eq

theorem trimStart_append (h : IsName name) (rest : List Char) :
    trimStart (name ++ rest) = name ++ rest := by
  refine trimStart_eq_self ?_
  rw [List.head?_append_of_ne_nil _ h.1]
  exact h.isOperand.head

end IsName

/-! ## Expressions -/

/-- A literal ends before a blank. -/
theorem WrittenLiteral.Valid.endsBefore {literal : WrittenLiteral} (h : literal.Valid)
    {message : List Char} (hmessage : ∀ c ∈ message.head?, isBlank c = true) :
    EndsBefore literal.print message := by
  rcases h.readable.ordinary_or_quoted with ⟨-, hordinary⟩ | ⟨quote, text, rfl⟩
  · exact .word (fun c hc => (hordinary c (List.mem_of_mem_head? hc)).isQuote_eq)
      (fun c hc => (hordinary c hc).isBlank_eq) hmessage
  · exact .quoted h.1 h.2.1

namespace WrittenExpression

/-- The message after a bare name does not go on with a comparison. -/
def Ends (message : List Char) : WrittenExpression → Prop
  | .bare _ => ∀ test ∈ Test.comparisons, ¬ test.symbol.toList <+: trimStart message
  | .comparison .. => True

instance (message : List Char) : (expression : WrittenExpression) →
    Decidable (expression.Ends message)
  | .bare _ => inferInstanceAs (Decidable (∀ test ∈ Test.comparisons, _))
  | .comparison .. => .isTrue trivial

/-- In a block, an expression ends where its text ends. -/
theorem splitBody_print {expression : WrittenExpression} (h : expression.Valid)
    {message : List Char} (hmessage : ∀ c ∈ message.head?, isBlank c = true)
    (hends : expression.Ends message) :
    splitBody (expression.print ++ message) = (expression.print, message) := by
  cases expression with
  | bare name =>
      have hname : IsName name := h
      refine splitBody_bare (hname.trimStart_append message)
        (fun c hc => (hname.isOrdinary c hc).endsName_eq) (fun c hc => ?_) ?_
      · simp [endsName_eq_or, hmessage c hc]
      · rintro ⟨test, htest, hprefix⟩
        exact hends test htest hprefix
  | comparison name before test after literal =>
      obtain ⟨hname, hbefore, htest, hafter, hliteral⟩ := h
      have hcontent : trimStart (print (.comparison name before test after literal) ++ message) =
          name ++ (before ++ (test.symbol.toList ++ (after ++ (literal.print ++ message)))) := by
        rw [print, List.append_assoc, hname.trimStart_append]
        simp
      refine splitBody_comparison hcontent (fun c hc => (hname.isOrdinary c hc).endsName_eq) hbefore
        (hliteral.readable.longest htest hafter message) hafter ?_ rfl
        (hliteral.endsBefore hmessage)
      obtain ⟨hne, hhead, -⟩ := hliteral.readable.solid
      rw [List.head?_append_of_ne_nil _ hne]
      exact fun c hc => (hhead c hc).isBlank_eq

/-- Reading the text of an expression gives the expression that is denoted. -/
theorem read_print {expression : WrittenExpression} (h : expression.Valid) :
    Expression.read expression.print = expression.denote := by
  cases expression with
  | bare name =>
      have hname : IsName name := h
      exact hname.isOperand.read
  | comparison name before test after literal =>
      obtain ⟨hname, hbefore, htest, hafter, hliteral⟩ := h
      have hread := read_comparison (List.forall_mem_nil _) hname.isOperand hbefore htest hafter
        hliteral.readable (List.forall_mem_nil _)
      rwa [List.nil_append, List.append_nil] at hread

/-- The scan for markers passes over an expression. -/
theorem passes_print {expression : WrittenExpression} (h : expression.Valid) (t : List Char) :
    Passes expression.print t := by
  have hname : ∀ {name : List Char}, IsName name → ∀ u, Passes name u := fun hname =>
    passes_of_forall_ne fun c hc => (hname.isOrdinary c hc).ne_marker
  have hblanks : ∀ {blanks : List Char}, (∀ c ∈ blanks, isBlank c = true) →
      ∀ u, Passes blanks u := fun hblanks =>
    passes_of_forall_ne fun c hc => (not_special_of_isBlank (hblanks c hc)).2.2
  cases expression with
  | bare name => exact hname h t
  | comparison name before test after literal =>
      obtain ⟨hvalid, hbefore, htest, hafter, hliteral⟩ := h
      have hsymbol : ∀ u, Passes test.symbol.toList u := by
        refine passes_of_forall_ne fun c hc => ?_
        have hstarts := (Test.startsTest_of_mem_symbol htest).2 c hc
        constructor
        · rintro rfl
          exact absurd hstarts (by decide)
        · rintro rfl
          exact absurd hstarts (by decide)
      exact (hname hvalid _).append ((hblanks hbefore _).append ((hsymbol _).append
        ((hblanks hafter _).append (WrittenLiteral.passes_print hliteral t))))

end WrittenExpression

end ValueAssertions.Template
