import ValueAssertions.Proofs.Template.Reading

/-!
# Splitting the body of a block

The body of a block is its expression and its message, with nothing between them.  Two
readers have to agree on where the expression ends: the body is split after a name, or after
the literal if a comparison follows the name, and the part before the split is then searched
for a comparison.

They go about it differently.  The splitter looks for a comparison at one place only, after
the blanks that follow the first name, and does not care for quotes there.  The search looks
everywhere outside quotes, but in a text that is cut off after the literal and trimmed.  If
there is no quote in the name, the search comes to the place of the splitter, and the
comparison that is longest in the whole body is so in the part that was cut off
(`LongestComparison.of_isPrefix`).  `read_splitBody` says so for every body.
-/

namespace ValueAssertions.Template

/-! ## Where literals end -/

/-- A literal ends before the rest of a text: after its second quote, at the end of the text
if there is none, and before a blank if it does not begin with a quote. -/
inductive EndsBefore : List Char → List Char → Prop
  | quoted {quote : Char} {inner rest : List Char} (hquote : isQuote quote = true)
      (hinner : quote ∉ inner) : EndsBefore (quote :: (inner ++ [quote])) rest
  | unclosed {quote : Char} {inner : List Char} (hquote : isQuote quote = true)
      (hinner : quote ∉ inner) : EndsBefore (quote :: inner) []
  | word {word rest : List Char} (hhead : ∀ c ∈ word.head?, isQuote c = false)
      (hword : ∀ c ∈ word, isBlank c = false) (hrest : ∀ c ∈ rest.head?, isBlank c = true) :
      EndsBefore word rest

/-- The literal at the start of a text ends where it has to. -/
theorem splitLiteral_of_endsBefore {literal rest : List Char} (h : EndsBefore literal rest) :
    splitLiteral (literal ++ rest) = (literal, rest) := by
  have hne : ∀ {quote : Char} {inner : List Char}, quote ∉ inner →
      ∀ c ∈ inner, (c != quote) = true := by
    intro quote inner hinner c hc
    rw [bne_iff_ne]
    rintro rfl
    exact hinner hc
  cases h with
  | @quoted quote inner _ hquote hinner =>
      have hend : ∀ c ∈ ([quote] ++ rest).head?, (c != quote) = false := by
        rintro _ ⟨⟩
        exact bne_self_eq_false _
      rw [List.cons_append, List.append_assoc, splitLiteral, if_pos hquote,
        dropWhile_span (hne hinner) hend, takeWhile_span (hne hinner) hend]
      rfl
  | @unclosed quote inner hquote hinner =>
      have hdrop : inner.dropWhile (· != quote) = [] := List.dropWhile_eq_nil_iff.mpr (hne hinner)
      rw [List.append_nil, splitLiteral, if_pos hquote, hdrop]
  | word hhead hword hrest =>
      have hspan : ∀ c ∈ literal, (!isBlank c) = true := fun c hc => by simp [hword c hc]
      have hend : ∀ c ∈ rest.head?, (!isBlank c) = false := fun c hc => by simp [hrest c hc]
      have htake := takeWhile_span hspan hend
      have hdrop := dropWhile_span hspan hend
      have hhead : ∀ c ∈ (literal ++ rest).head?, isQuote c = false := by
        cases literal with
        | nil => exact fun c hc => (not_special_of_isBlank (hrest c hc)).1
        | cons d literal => exact hhead
      cases hall : literal ++ rest with
      | nil =>
          obtain ⟨rfl, rfl⟩ := List.append_eq_nil_iff.mp hall
          rw [splitLiteral]
      | cons c others =>
          rw [hall] at htake hdrop hhead
          rw [splitLiteral, if_neg (by simp [hhead c rfl]), htake, hdrop]

/-- Every text begins with a literal, which may be empty. -/
theorem exists_endsBefore (s : List Char) :
    ∃ literal rest, s = literal ++ rest ∧ EndsBefore literal rest := by
  cases s with
  | nil => exact ⟨[], [], rfl, .word nofun nofun nofun⟩
  | cons c s =>
      cases hquote : isQuote c with
      | true =>
          by_cases hmem : c ∈ s
          · obtain ⟨inner, rest, rfl, hinner⟩ := List.eq_append_cons_of_mem hmem
            exact ⟨c :: (inner ++ [c]), rest, by simp, .quoted hquote hinner⟩
          · exact ⟨c :: s, [], (List.append_nil _).symm, .unclosed hquote hmem⟩
      | false =>
          refine ⟨(c :: s).takeWhile (!isBlank ·), (c :: s).dropWhile (!isBlank ·),
            List.takeWhile_append_dropWhile.symm, .word (fun d hd => ?_) (fun d hd => ?_)
              fun d hd => ?_⟩
          · rw [List.head?_takeWhile] at hd
            obtain ⟨rfl, -⟩ : c = d ∧ isBlank d = false := by simpa using hd
            exact hquote
          · simpa using List.mem_takeWhile_imp hd
          · simpa using head?_dropWhile_eq_false (!isBlank ·) (c :: s) d hd

/-! ## Where expressions end -/

section Body

variable {content name before between rest text : List Char} {test : Test}

/-- A comparison that is longest in a text is so in what the text begins with. -/
theorem LongestComparison.of_isPrefix {s t : List Char} (h : LongestComparison t test)
    (hs : s <+: t) (hbegins : test.symbol.toList <+: s) : LongestComparison s test where
  mem := h.mem
  begins := hbegins
  longest other hother hother_begins := h.longest other hother (hother_begins.trans hs)

/-- A body without a comparison after its name is split after the name. -/
theorem splitBody_bare (hcontent : trimStart content = name ++ rest)
    (hname : ∀ c ∈ name, endsName c = false) (hrest : ∀ c ∈ rest.head?, endsName c = true)
    (hnone : ¬ BeginsComparison (trimStart rest)) : splitBody content = (name, rest) := by
  have htake : (name ++ rest).takeWhile (!endsName ·) = name :=
    takeWhile_span (fun c hc => by simp [hname c hc]) fun c hc => by simp [hrest c hc]
  rw [splitBody, hcontent]
  simp only [htake, List.drop_left, Test.startOf?_eq_none_iff.mpr hnone]

/-- A body with a comparison after its name is split after the literal. -/
theorem splitBody_comparison
    (hcontent : trimStart content =
      name ++ (before ++ (test.symbol.toList ++ (between ++ text))))
    (hname : ∀ c ∈ name, endsName c = false) (hbefore : ∀ c ∈ before, isBlank c = true)
    (hlongest : LongestComparison (test.symbol.toList ++ (between ++ text)) test)
    (hbetween : ∀ c ∈ between, isBlank c = true) (htext : ∀ c ∈ text.head?, isBlank c = false)
    {literal message : List Char} (hmessage : text = literal ++ message)
    (hends : EndsBefore literal message) :
    splitBody content =
      (name ++ (before ++ (test.symbol.toList ++ (between ++ literal))), message) := by
  have hstarts : ∀ c ∈ (before ++ (test.symbol.toList ++ (between ++ text))).head?,
      endsName c = true :=
    forall_head?_append (fun c hc => by simp [endsName_eq_or, hbefore c hc]) fun c hc => by
      simp [endsName_eq_or, Test.startsTest_of_mem_head? hlongest.mem _ c hc]
  have htake : (name ++ (before ++ (test.symbol.toList ++ (between ++ text)))).takeWhile
      (!endsName ·) = name :=
    takeWhile_span (fun c hc => by simp [hname c hc]) fun c hc => by simp [hstarts c hc]
  have hblank := fun c hc =>
    isBlank_of_startsTest (Test.startsTest_of_mem_head? hlongest.mem (between ++ text) c hc)
  have hlength : test.symbol.length = test.symbol.toList.length := String.length_toList.symm
  have hsplit : splitLiteral text = (literal, message) :=
    hmessage ▸ splitLiteral_of_endsBefore hends
  rw [splitBody, hcontent]
  simp only [htake, List.drop_left, trimStart_append hbefore hblank,
    Test.startOf?_eq_some_iff.mpr hlongest, hlength, trimStart_append hbetween htext, hsplit]
  -- Where the expression ends is counted back from the end of the text.
  have hwhole : name ++ (before ++ (test.symbol.toList ++ (between ++ text))) =
      (name ++ (before ++ (test.symbol.toList ++ (between ++ literal)))) ++ message := by
    simp [hmessage]
  have hsize : (name ++ (before ++ (test.symbol.toList ++ (between ++ text)))).length -
      text.length + literal.length =
        (name ++ (before ++ (test.symbol.toList ++ (between ++ literal)))).length := by
    simp only [List.length_append]
    omega
  rw [hsize, hwhole, List.take_left, List.drop_left]

/-- The name that a body begins with, up to a blank or a character that begins a comparison. -/
def leadingName (content : List Char) : List Char :=
  (trimStart content).takeWhile (!endsName ·)

/-- The body after its name and the blanks behind it. -/
def afterName (content : List Char) : List Char :=
  trimStart ((trimStart content).dropWhile (!endsName ·))

theorem leadingName_append (content : List Char) :
    trimStart content =
      leadingName content ++ (trimStart content).dropWhile (!endsName ·) :=
  List.takeWhile_append_dropWhile.symm

theorem endsName_of_mem_leadingName : ∀ c ∈ leadingName content, endsName c = false :=
  fun c hc => by simpa using List.mem_takeWhile_imp hc

/-- A name without quotes can stand before a comparison. -/
theorem isOperand_leadingName (hname : ∀ c ∈ leadingName content, isQuote c = false) :
    IsOperand (leadingName content) := by
  have hparts : ∀ c ∈ leadingName content, isBlank c = false ∧ startsTest c = false := by
    intro c hc
    have hends := endsName_of_mem_leadingName c hc
    rwa [endsName_eq_or, Bool.or_eq_false_iff] at hends
  exact ⟨fun c hc => ⟨hname c hc, (hparts c hc).2⟩,
    fun c hc => (hparts c (List.mem_of_mem_head? hc)).1,
    fun c hc => (hparts c (List.mem_of_mem_getLast? hc)).1⟩

/-- The body after its name ends the name, if there is more. -/
theorem endsName_head?_dropWhile :
    ∀ c ∈ ((trimStart content).dropWhile (!endsName ·)).head?, endsName c = true :=
  fun c hc => by simpa using head?_dropWhile_eq_false (!endsName ·) (trimStart content) c hc

/-- A body with a comparison after its name is the name, the longest comparison there, a literal
and the message, with blanks around the comparison. -/
theorem exists_parts_of_beginsComparison (h : BeginsComparison (afterName content)) :
    ∃ before test between literal message,
      trimStart content = leadingName content ++ (before ++ afterName content) ∧
      (∀ c ∈ before, isBlank c = true) ∧
      LongestComparison (afterName content) test ∧
      afterName content = test.symbol.toList ++ (between ++ (literal ++ message)) ∧
      (∀ c ∈ between, isBlank c = true) ∧
      (∀ c ∈ (literal ++ message).head?, isBlank c = false) ∧
      EndsBefore literal message := by
  obtain ⟨before, hbefore, hrest⟩ :=
    exists_append_trimStart ((trimStart content).dropWhile (!endsName ·))
  obtain ⟨test, hlongest⟩ := h.exists_longest
  obtain ⟨behind, hbehind⟩ := hlongest.begins
  obtain ⟨between, hbetween, hblanks⟩ := exists_append_trimStart behind
  obtain ⟨literal, message, htext, hends⟩ := exists_endsBefore (trimStart behind)
  have hhead := head?_dropWhile_eq_false isBlank behind
  rw [← trimStart, htext] at hhead
  rw [hblanks, htext] at hbehind
  have hbody : trimStart content = leadingName content ++ (before ++ afterName content) := by
    rw [afterName, ← hrest]
    exact leadingName_append content
  exact ⟨before, test, between, literal, message, hbody, hbefore, hlongest, hbehind.symm, hbetween,
    hhead, hends⟩

end Body

/-- **Splitting and reading agree.**  If there is no quote in the name of a body, the
expression and the message make up the body.  If a comparison follows the name, the expression
goes on to the end of the literal and is read as the longest comparison there, of the name with
this literal.  If none does, the expression is the name, which has to count as true. -/
theorem read_splitBody {content : List Char}
    (hname : ∀ c ∈ leadingName content, isQuote c = false) :
    (splitBody content).1 ++ (splitBody content).2 = trimStart content ∧
    (BeginsComparison (afterName content) → ∃ test between literal,
      LongestComparison (afterName content) test ∧
      (∀ c ∈ between, isBlank c = true) ∧
      (∀ c ∈ (literal ++ (splitBody content).2).head?, isBlank c = false) ∧
      afterName content =
        test.symbol.toList ++ (between ++ (literal ++ (splitBody content).2)) ∧
      EndsBefore literal (splitBody content).2 ∧
      Expression.read (splitBody content).1 =
        ⟨test, String.ofList (leadingName content), some (readLiteral (trim literal))⟩) ∧
    (¬ BeginsComparison (afterName content) →
      (splitBody content).1 = leadingName content ∧
      Expression.read (splitBody content).1 =
        ⟨.truthy, String.ofList (leadingName content), none⟩) := by
  have hends := @endsName_of_mem_leadingName content
  have hoperand := isOperand_leadingName hname
  by_cases hbegins : BeginsComparison (afterName content)
  · obtain ⟨before, test, between, literal, message, hbody, hbefore, hlongest, hafter, hbetween,
      hhead, hliteral⟩ := exists_parts_of_beginsComparison hbegins
    rw [hafter] at hbody
    have hsplit := splitBody_comparison hbody hends hbefore (hafter ▸ hlongest) hbetween hhead rfl
      hliteral
    -- What is cut off begins with the same comparison.
    have hcut : LongestComparison (test.symbol.toList ++ (between ++ literal)) test :=
      hlongest.of_isPrefix ⟨message, by simp [hafter]⟩ (List.prefix_append _ _)
    have hread := read_of_longest (List.forall_mem_nil _) hoperand hbefore hcut
    rw [trim_append_left hbetween, List.nil_append] at hread
    rw [hsplit]
    refine ⟨by simp [hbody], fun _ => ?_, fun h => absurd hbegins h⟩
    exact ⟨test, between, literal, hlongest, hbetween, hhead, hafter, hliteral, hread⟩
  · rw [splitBody_bare (leadingName_append content) hends endsName_head?_dropWhile hbegins]
    exact ⟨(leadingName_append content).symm, fun h => absurd h hbegins,
      fun _ => ⟨rfl, hoperand.read⟩⟩

/-- A body without a name, with a symbol that begins with another one and a quote that is not
closed. -/
def unclosedBody : List Char := " !== 'it is != \"".toList

theorem unclosedBody_read :
    (∀ c ∈ leadingName unclosedBody, isQuote c = false) ∧
      (splitBody unclosedBody).1 ++ (splitBody unclosedBody).2 = trimStart unclosedBody ∧
      BeginsComparison (afterName unclosedBody) ∧ ∃ test between literal,
        LongestComparison (afterName unclosedBody) test ∧
        (∀ c ∈ between, isBlank c = true) ∧
        (∀ c ∈ (literal ++ (splitBody unclosedBody).2).head?, isBlank c = false) ∧
        afterName unclosedBody =
          test.symbol.toList ++ (between ++ (literal ++ (splitBody unclosedBody).2)) ∧
        EndsBefore literal (splitBody unclosedBody).2 ∧
        Expression.read (splitBody unclosedBody).1 =
          ⟨test, String.ofList (leadingName unclosedBody), some (readLiteral (trim literal))⟩ := by
  have hempty : leadingName unclosedBody = [] := rfl
  have hname : ∀ c ∈ leadingName unclosedBody, isQuote c = false := by
    rw [hempty]
    exact List.forall_mem_nil _
  have hbegins : BeginsComparison (afterName unclosedBody) := ⟨.strictNe, by decide, by decide⟩
  obtain ⟨hbody, hcompared, -⟩ := read_splitBody hname
  exact ⟨hname, hbody, hbegins, hcompared hbegins⟩

end ValueAssertions.Template
