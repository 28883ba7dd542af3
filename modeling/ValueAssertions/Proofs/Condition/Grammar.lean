import ValueAssertions.Condition.Reader
import ValueAssertions.Proofs.Condition.Kind
import ValueAssertions.Proofs.Document.Reading

/-!
# The grammar of conditions in documents

Which documents are conditions (`Document.Valid`), what the condition of one looks
like (`Mirrors`), and what is wrong with one that is none (`Fault`), by rules that do
not mention the reader.  A fault is that of the first place in the order of the
document at which something does not fit: everything before that place is valid, an
unknown key is a fault whatever stands under it, and what stands under a key comes
before the question whether it suits the operator.

The main statement is `ofDocument_reads_grammar`: the reader succeeds on exactly the
valid documents, with the condition that mirrors the document, and its error on any
other is the fault.

## Strategy

Each reader is shown to be right in the sense of `ReadsAs`, from the inside out: an
expression (`readsAs_ofSource?`), a pattern (`readsAs_pattern`), the patterns under a
key (`readsAs_patterns`), the clause of a key (`readsAs_clause`), and by induction the
document (`readsAs_ofDocument`).
-/

namespace ValueAssertions

open ReadsAs (FirstOf)

/-! ## Patterns -/

/-- A source is a regular expression under flags. -/
def Compiles (source flags : String) : Prop :=
  ∃ expression, readExpression? source flags = some expression

/-- The flags among the members of an object: the text under `flags`, and none if there
is no text under it. -/
inductive HasFlags (members : List (String × Document)) : String → Prop
  | given {flags : String} (h : lookup? "flags" members = some (.string flags)) :
      HasFlags members flags
  | missing (h : ∀ flags, lookup? "flags" members ≠ some (.string flags)) :
      HasFlags members ""

/-- A document is a source, or an object with a source and flags. -/
inductive HasSource : Document → String → Option String → Prop
  | text (source : String) : HasSource (.string source) source none
  | object {members : List (String × Document)} {source flags : String}
      (hsource : lookup? "pattern" members = some (.string source))
      (hflags : HasFlags members flags) : HasSource (.object members) source (some flags)

/-- A flag that patterns may have. -/
def KnownFlag (flag : Char) : Prop :=
  flag ∈ "dgimsuy".toList

/-- A document is a pattern: a text that compiles, or an object whose source compiles
under its flags, which are all known. -/
def IsPattern (d : Document) : Prop :=
  ∃ source flags, HasSource d source flags ∧ (∀ flag ∈ (flags.getD "").toList, KnownFlag flag) ∧
    Compiles source (flags.getD "")

/-- What is wrong with a document that is no pattern. -/
inductive PatternFault : Document → ConditionError → Prop
  /-- The first flag that is not known counts. -/
  | unknownFlag {d : Document} {source flags : String} {before after : List Char} {flag : Char}
      (hsource : HasSource d source (some flags)) (hflags : flags.toList = before ++ flag :: after)
      (hbefore : ∀ c ∈ before, KnownFlag c) (hflag : ¬ KnownFlag flag) :
      PatternFault d (.unsupportedFlag ("/" ++ source ++ "/" ++ flags) flag)
  | malformed {d : Document} {source : String} {flags : Option String}
      (hsource : HasSource d source flags)
      (hflags : ∀ flag ∈ (flags.getD "").toList, KnownFlag flag)
      (hmalformed : ¬ Compiles source (flags.getD "")) :
      PatternFault d (.malformedPattern source)
  | withoutSource {members : List (String × Document)}
      (h : ∀ source, lookup? "pattern" members ≠ some (.string source)) :
      PatternFault (.object members) .patternWithoutSource
  /-- A document of another kind is reported under `matches`. -/
  | notPattern {d : Document} (htext : ∀ source, d ≠ .string source)
      (hobject : ∀ members, d ≠ .object members) :
      PatternFault d (.invalidReference .matches (.notPatternDocument d.print))

/-! ## Conditions -/

/-- One document of a kind, or an array of them. -/
inductive OneOrMore (kind : Document → Prop) : Document → Prop
  | one {d : Document} (h : kind d) : OneOrMore kind d
  | several {items : List Document} (h : ∀ item ∈ items, kind item) :
      OneOrMore kind (.array items)

/-- A document is a text. -/
def IsText (d : Document) : Prop :=
  ∃ text, d = .string text

/-- A document is a truth value. -/
def IsTruth (d : Document) : Prop :=
  ∃ value, d = .bool value

mutual

/-- A document is a condition. -/
inductive Document.Valid : Document → Prop
  | scalar {d : Document} (h : d.IsScalar) : Document.Valid d
  | array {items : List Document} (h : ∀ item ∈ items, Document.Valid item) :
      Document.Valid (.array items)
  | object {members : List (String × Document)} (h : ∀ member ∈ members, Fits member) :
      Document.Valid (.object members)

/-- A document fits under its key. -/
inductive Fits : String × Document → Prop
  | nested {key : String} {d : Document} (hkey : key ∈ ["length", "each"])
      (h : Document.Valid d) : Fits (key, d)
  | pattern {key : String} {d : Document} (hkey : key ∈ ["matches", "matchesNot"])
      (h : OneOrMore IsPattern d) : Fits (key, d)
  | type {key : String} {d : Document} (hkey : key = "type") (h : OneOrMore IsText d) :
      Fits (key, d)
  | integer {key : String} {d : Document} (hkey : key = "integer") (h : OneOrMore IsTruth d) :
      Fits (key, d)
  | other {key : String} {d : Document}
      (hkey : key ∈ ["eq", "neq", "lt", "lte", "gt", "gte", "divides", "multiple", "contains",
        "begins", "ends", "containsNot", "beginsNot", "endsNot"]) : Fits (key, d)

end

/-! ## What a condition looks like -/

/-- The pattern of a document, or the patterns of an array. -/
inductive MirrorsPatterns : Document → Reference → Prop
  | one {d : Document} {p : Pattern} (h : HasSource d p.source p.flags) :
      MirrorsPatterns d (.pattern p)
  | several {items : List Document} {ps : List Pattern}
      (h : List.Forall₂ (fun d p => HasSource d p.source p.flags) items ps) :
      MirrorsPatterns (.array items) (.patterns ps)

/-- The value of a document, or the values of an array. -/
inductive MirrorsValues : Document → Reference → Prop
  | one {d : Document} (harray : ∀ items, d ≠ .array items) :
      MirrorsValues d (.value (Value.ofDocument d))
  | several (items : List Document) :
      MirrorsValues (.array items) (.values (items.map Value.ofDocument))

mutual

/-- A condition has the shape of a document: alternatives for the items of an array,
clauses for the keys of an object, and a literal for a scalar. -/
inductive Mirrors : Document → Condition → Prop
  | scalar {d : Document} (h : d.IsScalar) : Mirrors d (.literal (Value.ofDocument d))
  | array {items : List Document} {alternatives : List Condition}
      (h : List.Forall₂ Mirrors items alternatives) : Mirrors (.array items) (.any alternatives)
  | object {members : List (String × Document)} {clauses : List Clause}
      (h : List.Forall₂ MirrorsClause members clauses) : Mirrors (.object members) (.all clauses)

/-- A clause has the operator of a key and the reference that stands under it. -/
inductive MirrorsClause : String × Document → Clause → Prop
  | nested {key : String} {d : Document} {operator : Operator} {c : Condition}
      (hkey : operator.key = key) (hnested : operator.isNested = true) (h : Mirrors d c) :
      MirrorsClause (key, d) (.mk operator (.condition c))
  | pattern {key : String} {d : Document} {operator : Operator} {reference : Reference}
      (hkey : operator.key = key) (hpattern : operator.isPattern = true)
      (h : MirrorsPatterns d reference) : MirrorsClause (key, d) (.mk operator reference)
  | value {key : String} {d : Document} {operator : Operator} {reference : Reference}
      (hkey : operator.key = key) (hnested : operator.isNested = false)
      (hpattern : operator.isPattern = false) (h : MirrorsValues d reference) :
      MirrorsClause (key, d) (.mk operator reference)

end

/-! ## What is wrong with other documents -/

/-- What is wrong with what stands under a pattern operator. -/
inductive PatternsFault : Document → ConditionError → Prop
  | one {d : Document} {e : ConditionError} (harray : ∀ items, d ≠ .array items)
      (h : PatternFault d e) : PatternsFault d e
  | item {before after : List Document} {d : Document} {e : ConditionError}
      (hbefore : ∀ item ∈ before, IsPattern item) (h : PatternFault d e) :
      PatternsFault (.array (before ++ d :: after)) e

mutual

/-- What is wrong at the first place of a document at which something is. -/
inductive Fault : Document → ConditionError → Prop
  | item {before after : List Document} {d : Document} {e : ConditionError}
      (hbefore : ∀ item ∈ before, item.Valid) (h : Fault d e) :
      Fault (.array (before ++ d :: after)) e
  | member {before after : List (String × Document)} {member : String × Document}
      {e : ConditionError} (hbefore : ∀ member ∈ before, Fits member)
      (h : FaultUnder member e) : Fault (.object (before ++ member :: after)) e

/-- What is wrong with a key and the document under it. -/
inductive FaultUnder : String × Document → ConditionError → Prop
  /-- An unknown key is wrong whatever stands under it. -/
  | unknown {key : String} {d : Document} (hkey : ∀ operator : Operator, operator.key ≠ key) :
      FaultUnder (key, d) (.unknownOperator key)
  | nested {key : String} {d : Document} {e : ConditionError}
      (hkey : key ∈ ["length", "each"]) (h : Fault d e) : FaultUnder (key, d) e
  | pattern {key : String} {d : Document} {e : ConditionError}
      (hkey : key ∈ ["matches", "matchesNot"]) (h : PatternsFault d e) : FaultUnder (key, d) e
  | type {key : String} {d : Document} (hkey : key = "type") (h : ¬ OneOrMore IsText d) :
      FaultUnder (key, d) (.invalidReference .type .notTypeName)
  | integer {key : String} {d : Document} (hkey : key = "integer")
      (h : ¬ OneOrMore IsTruth d) : FaultUnder (key, d) (.invalidReference .integer .notBool)

end

/-! ## Reading a pattern -/

theorem HasFlags.unique {members : List (String × Document)} {flags flags' : String}
    (h : HasFlags members flags) (h' : HasFlags members flags') : flags = flags' := by
  cases h with
  | given h =>
      cases h' with
      | given h' => simpa using h.symm.trans h'
      | missing h' => exact absurd h (h' flags)
  | missing h =>
      cases h' with
      | given h' => exact absurd h' (h flags')
      | missing _ => rfl

theorem HasSource.unique {d : Document} {source source' : String} {flags flags' : Option String}
    (h : HasSource d source flags) (h' : HasSource d source' flags') :
    source = source' ∧ flags = flags' := by
  cases h with
  | text =>
      cases h'
      exact ⟨rfl, rfl⟩
  | object hsource hflags =>
      cases h' with
      | object hsource' hflags' =>
          refine ⟨by simpa using hsource.symm.trans hsource', ?_⟩
          rw [hflags.unique hflags']

/-- A pattern is determined by its source and its flags. -/
theorem Pattern.eq_of_source_eq {p q : Pattern} (hsource : p.source = q.source)
    (hflags : p.flags = q.flags) : p = q := by
  obtain ⟨source, flags, expression, hreads⟩ := p
  obtain ⟨source', flags', expression', hreads'⟩ := q
  obtain rfl : source = source' := hsource
  obtain rfl : flags = flags' := hflags
  obtain rfl : expression = expression' := Option.some.inj (hreads.symm.trans hreads')
  rfl

theorem readsAs_ofSource? (source : String) (flags : Option String) :
    ReadsAs (Compiles source (flags.getD "")) (fun p => p.source = source ∧ p.flags = flags)
      (fun e => ¬ Compiles source (flags.getD "") ∧ e = .malformedPattern source)
      (Pattern.ofSource? source flags) := by
  unfold Pattern.ofSource?
  split
  · next expression hread =>
      have hcompiles : Compiles source (flags.getD "") := ⟨expression, hread⟩
      refine .ok hcompiles (fun p => ?_) fun e he => he.1 hcompiles
      constructor
      · rintro ⟨hsource, hflags⟩
        exact Pattern.eq_of_source_eq hsource hflags
      · rintro rfl
        exact ⟨rfl, rfl⟩
  · next hread =>
      have hmalformed : ¬ Compiles source (flags.getD "") := by
        rintro ⟨expression, h⟩
        rw [hread] at h
        cases h
      exact .error hmalformed (by simp [hmalformed])

theorem contains_patternFlags_iff {flag : Char} :
    patternFlags.contains flag = true ↔ KnownFlag flag := by
  rw [KnownFlag, List.contains_iff_mem]
  rfl

/-- The first flag that is not known, if there is one. -/
theorem find?_patternFlags_eq_some_iff {flags : List Char} {flag : Char} :
    flags.find? (fun c => !patternFlags.contains c) = some flag ↔
      ¬ KnownFlag flag ∧
        ∃ before after, flags = before ++ flag :: after ∧ ∀ c ∈ before, KnownFlag c := by
  rw [List.find?_eq_some_iff_append]
  simp only [Bool.not_eq_true', ← Bool.not_eq_true, contains_patternFlags_iff, Bool.not_not]

theorem find?_patternFlags_eq_none_iff {flags : List Char} :
    flags.find? (fun c => !patternFlags.contains c) = none ↔ ∀ c ∈ flags, KnownFlag c := by
  rw [List.find?_eq_none]
  simp only [Bool.not_eq_true', Bool.not_eq_false, contains_patternFlags_iff]

theorem ofDocument_of_hasSource {d : Document} {source : String} {flags : Option String}
    (h : HasSource d source flags) :
    Pattern.ofDocument d =
      match flags with
      | none => Pattern.literal source
      | some flags => Pattern.compiled source flags := by
  cases h with
  | text => rfl
  | @object members _ flags hsource hflags =>
      have htext : ((lookup? "flags" members).bind Document.asString?).getD "" = flags := by
        cases hflags with
        | given h => simp [h, Document.asString?]
        | missing h =>
            cases hlookup : lookup? "flags" members with
            | none => rfl
            | some value =>
                cases value with
                | string flags => exact absurd hlookup (h flags)
                | _ => rfl
      simp [Pattern.ofDocument, hsource, Document.asString?, htext]

theorem isPattern_iff {d : Document} {source : String} {flags : Option String}
    (h : HasSource d source flags) :
    IsPattern d ↔
      (∀ flag ∈ (flags.getD "").toList, KnownFlag flag) ∧ Compiles source (flags.getD "") := by
  constructor
  · rintro ⟨source', flags', h', hknown, hcompiles⟩
    obtain ⟨rfl, rfl⟩ := h.unique h'
    exact ⟨hknown, hcompiles⟩
  · rintro ⟨hknown, hcompiles⟩
    exact ⟨source, flags, h, hknown, hcompiles⟩

theorem hasSource_iff {d : Document} {source : String} {flags : Option String}
    (h : HasSource d source flags) (p : Pattern) :
    HasSource d p.source p.flags ↔ p.source = source ∧ p.flags = flags := by
  constructor
  · intro hp
    exact hp.unique h
  · rintro ⟨rfl, rfl⟩
    exact h

/-- What can be wrong with a document that has a source. -/
theorem patternFault_iff {d : Document} {source : String} {flags : Option String}
    (h : HasSource d source flags) (e : ConditionError) :
    PatternFault d e ↔
      (∃ before flag after, (flags.getD "").toList = before ++ flag :: after ∧
        (∀ c ∈ before, KnownFlag c) ∧ ¬ KnownFlag flag ∧
          e = .unsupportedFlag ("/" ++ source ++ "/" ++ flags.getD "") flag) ∨
      (∀ flag ∈ (flags.getD "").toList, KnownFlag flag) ∧
        ¬ Compiles source (flags.getD "") ∧ e = .malformedPattern source := by
  constructor
  · intro hfault
    cases hfault with
    | unknownFlag hsource hflags hbefore hflag =>
        obtain ⟨rfl, rfl⟩ := h.unique hsource
        exact .inl ⟨_, _, _, hflags, hbefore, hflag, rfl⟩
    | malformed hsource hflags hmalformed =>
        obtain ⟨rfl, rfl⟩ := h.unique hsource
        exact .inr ⟨hflags, hmalformed, rfl⟩
    | withoutSource hnone =>
        cases h with
        | object hsource => exact absurd hsource (hnone _)
    | notPattern htext hobject =>
        cases h with
        | text => exact absurd rfl (htext _)
        | object => exact absurd rfl (hobject _)
  · rintro (⟨before, flag, after, hflags, hbefore, hflag, rfl⟩ | ⟨hknown, hmalformed, rfl⟩)
    · cases flags with
      | none => simp at hflags
      | some flags => exact .unknownFlag h hflags hbefore hflag
    · exact .malformed h hknown hmalformed

theorem readsAs_of_hasSource {d : Document} {source : String} {flags : Option String}
    (h : HasSource d source flags) :
    ReadsAs (IsPattern d) (fun p => HasSource d p.source p.flags) (PatternFault d)
      (Pattern.ofDocument d) := by
  by_cases hknown : ∀ flag ∈ (flags.getD "").toList, KnownFlag flag
  · -- The flags are fine, so all depends on the expression.
    have hread : Pattern.ofDocument d = Pattern.ofSource? source flags := by
      rw [ofDocument_of_hasSource h]
      cases flags with
      | none => rfl
      | some flags =>
          have hfind : flags.toList.find? (fun c => !patternFlags.contains c) = none :=
            find?_patternFlags_eq_none_iff.mpr hknown
          change Pattern.compiled source flags = _
          rw [Pattern.compiled, hfind]
    rw [hread]
    refine (readsAs_ofSource? source flags).congr ?_ (fun p => (hasSource_iff h p).symm) fun e => ?_
    · rw [isPattern_iff h, and_iff_right hknown]
    · rw [patternFault_iff h, and_iff_right hknown, or_iff_right]
      rintro ⟨before, flag, after, hflags, -, hflag, -⟩
      exact hflag (hknown flag (by simp [hflags]))
  · -- The first unknown flag is reported before the expression is looked at.
    cases flags with
    | none => simp at hknown
    | some flags =>
        obtain ⟨flag, hfind⟩ : ∃ flag,
            flags.toList.find? (fun c => !patternFlags.contains c) = some flag := by
          rw [← Option.ne_none_iff_exists', Ne, find?_patternFlags_eq_none_iff]
          exact hknown
        have hread : Pattern.ofDocument d =
            .error (.unsupportedFlag ("/" ++ source ++ "/" ++ flags) flag) := by
          rw [ofDocument_of_hasSource h]
          change Pattern.compiled source flags = _
          rw [Pattern.compiled, hfind, Pattern.slashed]
        rw [hread]
        refine .error (fun hpattern => hknown ((isPattern_iff h).mp hpattern).1) fun e => ?_
        rw [patternFault_iff h]
        constructor
        · rintro (⟨before, flag', after, hflags, hbefore, hflag, rfl⟩ | ⟨hall, -⟩)
          · have hfind' :=
              find?_patternFlags_eq_some_iff.mpr ⟨hflag, before, after, hflags, hbefore⟩
            cases hfind.symm.trans hfind'
            rfl
          · exact absurd hall hknown
        · rintro rfl
          obtain ⟨hflag, before, after, hflags, hbefore⟩ := find?_patternFlags_eq_some_iff.mp hfind
          exact .inl ⟨before, flag, after, hflags, hbefore, hflag, rfl⟩

theorem exists_hasFlags (members : List (String × Document)) :
    ∃ flags, HasFlags members flags := by
  by_cases h : ∃ flags, lookup? "flags" members = some (.string flags)
  · obtain ⟨flags, hflags⟩ := h
    exact ⟨flags, .given hflags⟩
  · exact ⟨"", .missing fun flags hflags => h ⟨flags, hflags⟩⟩

/-- A document without a source is no pattern, and the reader says why. -/
theorem readsAs_of_not_hasSource {d : Document} (h : ∀ source flags, ¬ HasSource d source flags) :
    ReadsAs (IsPattern d) (fun p => HasSource d p.source p.flags) (PatternFault d)
      (Pattern.ofDocument d) := by
  have hinvalid : ¬ IsPattern d := fun ⟨source, flags, hsource, _⟩ => h source flags hsource
  by_cases hobject : ∃ members, d = .object members
  · obtain ⟨members, rfl⟩ := hobject
    obtain ⟨flags, hflags⟩ := exists_hasFlags members
    have hnone : ∀ source, lookup? "pattern" members ≠ some (.string source) :=
      fun source hsource => h source (some flags) (.object hsource hflags)
    have hread : Pattern.ofDocument (.object members) = .error .patternWithoutSource := by
      rw [Pattern.ofDocument]
      cases hlookup : lookup? "pattern" members with
      | none => rfl
      | some value =>
          cases value with
          | string source => exact absurd hlookup (hnone source)
          | _ => rfl
    rw [hread]
    refine .error hinvalid fun e => ⟨fun hfault => ?_, fun he => he ▸ .withoutSource hnone⟩
    cases hfault with
    | unknownFlag hsource => exact absurd hsource (h _ _)
    | malformed hsource => exact absurd hsource (h _ _)
    | withoutSource => rfl
    | notPattern _ hobject => exact absurd rfl (hobject members)
  · have htext : ∀ source, d ≠ .string source := by
      rintro source rfl
      exact h source none (.text source)
    have hobject : ∀ members, d ≠ .object members := fun members heq => hobject ⟨members, heq⟩
    have hread : Pattern.ofDocument d =
        .error (.invalidReference .matches (.notPatternDocument d.print)) := by
      cases d with
      | string source => exact absurd rfl (htext source)
      | object members => exact absurd rfl (hobject members)
      | _ => rfl
    rw [hread]
    refine .error hinvalid fun e => ⟨fun hfault => ?_, fun he => he ▸ .notPattern htext hobject⟩
    cases hfault with
    | unknownFlag hsource => exact absurd hsource (h _ _)
    | malformed hsource => exact absurd hsource (h _ _)
    | withoutSource => exact absurd rfl (hobject _)
    | notPattern => rfl

/-- **Reading a pattern.** -/
theorem readsAs_pattern (d : Document) :
    ReadsAs (IsPattern d) (fun p => HasSource d p.source p.flags) (PatternFault d)
      (Pattern.ofDocument d) := by
  by_cases h : ∃ source flags, HasSource d source flags
  · obtain ⟨source, flags, hsource⟩ := h
    exact readsAs_of_hasSource hsource
  · exact readsAs_of_not_hasSource fun source flags hsource => h ⟨source, flags, hsource⟩

/-! ## Reading what stands under a key -/

theorem oneOrMore_array_iff {kind : Document → Prop} {items : List Document}
    (h : ¬ kind (.array items)) : OneOrMore kind (.array items) ↔ ∀ item ∈ items, kind item := by
  constructor
  · intro hkind
    cases hkind with
    | one hone => exact absurd hone h
    | several hitems => exact hitems
  · exact .several

theorem oneOrMore_iff {kind : Document → Prop} {d : Document}
    (harray : ∀ items, d ≠ .array items) : OneOrMore kind d ↔ kind d := by
  constructor
  · intro hkind
    cases hkind with
    | one h => exact h
    | several => exact absurd rfl (harray _)
  · exact .one

theorem patternsOfDocuments_eq_mapM (items : List Document) :
    patternsOfDocuments items = items.mapM Pattern.ofDocument := by
  induction items with
  | nil => rfl
  | cons d items ih =>
      rw [patternsOfDocuments, List.mapM_cons, ih]

theorem readsAs_patterns (d : Document) :
    ReadsAs (OneOrMore IsPattern d) (MirrorsPatterns d) (PatternsFault d)
      (Reference.patternsOfDocument d) := by
  rcases d.eq_array_or_ne with ⟨items, rfl⟩ | harray
  · have hread : Reference.patternsOfDocument (.array items) =
        (items.mapM Pattern.ofDocument).map Reference.patterns := by
      rw [Reference.patternsOfDocument, patternsOfDocuments_eq_mapM]
      cases items.mapM Pattern.ofDocument <;> rfl
    rw [hread]
    refine ((ReadsAs.mapM fun item _ => readsAs_pattern item).map Reference.patterns).congr
      ?_ (fun r => ?_) fun e => ?_
    · refine (oneOrMore_array_iff ?_).symm
      rintro ⟨source, flags, hsource, -⟩
      cases hsource
    · constructor
      · rintro ⟨ps, hps, rfl⟩
        exact .several hps
      · intro hr
        cases hr with
        | one hone => cases hone
        | several hps => exact ⟨_, hps, rfl⟩
    · constructor
      · rintro ⟨before, item, after, rfl, hbefore, hfault⟩
        exact .item hbefore hfault
      · intro hfault
        cases hfault with
        | one harray => exact absurd rfl (harray items)
        | item hbefore hfault => exact ⟨_, _, _, rfl, hbefore, hfault⟩
  · have hread : Reference.patternsOfDocument d =
        (Pattern.ofDocument d).map Reference.pattern := by
      rw [Reference.patternsOfDocument]
      · cases Pattern.ofDocument d <;> rfl
      · exact harray
    rw [hread]
    refine ((readsAs_pattern d).map Reference.pattern).congr (oneOrMore_iff harray).symm
      (fun r => ?_) fun e => ?_
    · constructor
      · rintro ⟨p, hp, rfl⟩
        exact .one hp
      · intro hr
        cases hr with
        | one hp => exact ⟨_, hp, rfl⟩
        | several => exact absurd rfl (harray _)
    · constructor
      · exact .one harray
      · intro hfault
        cases hfault with
        | one _ hfault => exact hfault
        | item => exact absurd rfl (harray _)

theorem mirrorsValues_iff {d : Document} {reference : Reference} :
    MirrorsValues d reference ↔ reference = Reference.valuesOfDocument d := by
  constructor
  · intro h
    cases h with
    | one harray =>
        cases d with
        | array items => exact absurd rfl (harray items)
        | _ => rfl
    | several items => rw [Reference.valuesOfDocument, Value.ofItems_eq_map]
  · rintro rfl
    cases d with
    | array items =>
        rw [Reference.valuesOfDocument, Value.ofItems_eq_map]
        exact .several items
    | _ => exact .one nofun

/-- All values of a document are of a kind when it is one of that kind, or an array of
them. -/
theorem all_valuesOfDocument_iff {kind : Document → Prop} {test : Value → Bool}
    (h : ∀ d, test (Value.ofDocument d) = true ↔ kind d) (hkind : ∀ items, ¬ kind (.array items))
    (d : Document) :
    (Reference.valuesOfDocument d).valueList.all test = true ↔ OneOrMore kind d := by
  rcases d.eq_array_or_ne with ⟨items, rfl⟩ | harray
  · rw [oneOrMore_array_iff (hkind items), Reference.valuesOfDocument, Value.ofItems_eq_map]
    simp [Reference.valueList, h]
  · rw [oneOrMore_iff harray, ← h, Reference.valuesOfDocument]
    · simp [Reference.valueList]
    · exact harray

theorem isSome_asString?_iff (d : Document) :
    (Value.ofDocument d).asString?.isSome = true ↔ IsText d := by
  cases d <;> simp [Value.ofDocument, Value.asString?, IsText]

theorem isSome_asBool?_iff (d : Document) :
    (Value.ofDocument d).asBool?.isSome = true ↔ IsTruth d := by
  cases d <;> simp [Value.ofDocument, Value.asBool?, IsTruth]

/-! ## Reading a clause -/

theorem fits_key_iff (operator : Operator) (d : Document) :
    Fits (operator.key, d) ↔
      operator.isNested = true ∧ d.Valid ∨
      operator.isPattern = true ∧ OneOrMore IsPattern d ∨
      operator = .type ∧ OneOrMore IsText d ∨
      operator = .integer ∧ OneOrMore IsTruth d ∨
      operator.isNested = false ∧ operator.isPattern = false ∧ operator ≠ .type ∧
        operator ≠ .integer := by
  constructor
  · intro h
    cases h with
    | nested hkey h => exact .inl ⟨(Operator.key_mem_nested_iff operator).mp hkey, h⟩
    | pattern hkey h => exact .inr (.inl ⟨(Operator.key_mem_pattern_iff operator).mp hkey, h⟩)
    | type hkey h => exact .inr (.inr (.inl ⟨(Operator.key_eq_type_iff operator).mp hkey, h⟩))
    | integer hkey h =>
        exact .inr (.inr (.inr (.inl ⟨(Operator.key_eq_integer_iff operator).mp hkey, h⟩)))
    | other hkey => exact .inr (.inr (.inr (.inr ((Operator.key_mem_other_iff operator).mp hkey))))
  · rintro (⟨hnested, h⟩ | ⟨hpattern, h⟩ | ⟨rfl, h⟩ | ⟨rfl, h⟩ | hother)
    · exact .nested ((Operator.key_mem_nested_iff operator).mpr hnested) h
    · exact .pattern ((Operator.key_mem_pattern_iff operator).mpr hpattern) h
    · exact .type rfl h
    · exact .integer rfl h
    · exact .other ((Operator.key_mem_other_iff operator).mpr hother)

theorem faultUnder_key_iff (operator : Operator) (d : Document) (e : ConditionError) :
    FaultUnder (operator.key, d) e ↔
      operator.isNested = true ∧ Fault d e ∨
      operator.isPattern = true ∧ PatternsFault d e ∨
      operator = .type ∧ ¬ OneOrMore IsText d ∧ e = .invalidReference .type .notTypeName ∨
      operator = .integer ∧ ¬ OneOrMore IsTruth d ∧ e = .invalidReference .integer .notBool := by
  constructor
  · intro h
    cases h with
    | unknown hkey => exact absurd rfl (hkey operator)
    | nested hkey h => exact .inl ⟨(Operator.key_mem_nested_iff operator).mp hkey, h⟩
    | pattern hkey h => exact .inr (.inl ⟨(Operator.key_mem_pattern_iff operator).mp hkey, h⟩)
    | type hkey h => exact .inr (.inr (.inl ⟨(Operator.key_eq_type_iff operator).mp hkey, h, rfl⟩))
    | integer hkey h =>
        exact .inr (.inr (.inr ⟨(Operator.key_eq_integer_iff operator).mp hkey, h, rfl⟩))
  · rintro (⟨hnested, h⟩ | ⟨hpattern, h⟩ | ⟨rfl, h, rfl⟩ | ⟨rfl, h, rfl⟩)
    · exact .nested ((Operator.key_mem_nested_iff operator).mpr hnested) h
    · exact .pattern ((Operator.key_mem_pattern_iff operator).mpr hpattern) h
    · exact .type rfl h
    · exact .integer rfl h

section Kinds

variable {operator : Operator} {d : Document}

theorem fits_nested_iff (hnested : operator.isNested = true) :
    Fits (operator.key, d) ↔ d.Valid := by
  simp [fits_key_iff, hnested, Operator.isPattern_of_isNested hnested,
    Operator.ne_type_and_ne_integer_of_isNested hnested]

theorem fits_pattern_iff (hpattern : operator.isPattern = true) :
    Fits (operator.key, d) ↔ OneOrMore IsPattern d := by
  simp [fits_key_iff, hpattern, Operator.isNested_of_isPattern hpattern,
    Operator.ne_type_and_ne_integer_of_isPattern hpattern]

theorem faultUnder_nested_iff (hnested : operator.isNested = true) (e : ConditionError) :
    FaultUnder (operator.key, d) e ↔ Fault d e := by
  simp [faultUnder_key_iff, hnested, Operator.isPattern_of_isNested hnested,
    Operator.ne_type_and_ne_integer_of_isNested hnested]

theorem faultUnder_pattern_iff (hpattern : operator.isPattern = true) (e : ConditionError) :
    FaultUnder (operator.key, d) e ↔ PatternsFault d e := by
  simp [faultUnder_key_iff, hpattern, Operator.isNested_of_isPattern hpattern,
    Operator.ne_type_and_ne_integer_of_isPattern hpattern]

end Kinds

theorem mirrorsClause_key_iff (operator : Operator) (d : Document) (clause : Clause) :
    MirrorsClause (operator.key, d) clause ↔
      operator.isNested = true ∧ (∃ c, Mirrors d c ∧ clause = .mk operator (.condition c)) ∨
      operator.isPattern = true ∧
        (∃ reference, MirrorsPatterns d reference ∧ clause = .mk operator reference) ∨
      operator.isNested = false ∧ operator.isPattern = false ∧
        clause = .mk operator (Reference.valuesOfDocument d) := by
  constructor
  · intro h
    cases h with
    | nested hkey hnested h =>
        obtain rfl := Operator.key_injective hkey
        exact .inl ⟨hnested, _, h, rfl⟩
    | pattern hkey hpattern h =>
        obtain rfl := Operator.key_injective hkey
        exact .inr (.inl ⟨hpattern, _, h, rfl⟩)
    | value hkey hnested hpattern h =>
        obtain rfl := Operator.key_injective hkey
        exact .inr (.inr ⟨hnested, hpattern, mirrorsValues_iff.mp h ▸ rfl⟩)
  · rintro (⟨hnested, c, h, rfl⟩ | ⟨hpattern, reference, h, rfl⟩ | ⟨hnested, hpattern, rfl⟩)
    · exact .nested rfl hnested h
    · exact .pattern rfl hpattern h
    · exact .value rfl hnested hpattern (mirrorsValues_iff.mpr rfl)

/-- The clause of a key and what stands under it. -/
def clauseOfMember : String × Document → Except ConditionError Clause
  | (key, d) =>
    match Operator.ofKey? key with
    | none => .error (.unknownOperator key)
    | some operator => do
      let reference ←
        if operator.isNested then (Condition.ofDocument d).map Reference.condition
        else if operator.isPattern then Reference.patternsOfDocument d
        else .ok (Reference.valuesOfDocument d)
      Clause.build operator reference

theorem clausesOfMembers_eq_mapM (members : List (String × Document)) :
    clausesOfMembers members = members.mapM clauseOfMember := by
  induction members with
  | nil => rw [clausesOfMembers]; rfl
  | cons member members ih =>
      obtain ⟨key, d⟩ := member
      rw [clausesOfMembers, List.mapM_cons, clauseOfMember, ih]
      cases Operator.ofKey? key with
      | none => rfl
      | some operator =>
          by_cases hnested : operator.isNested <;> by_cases hpattern : operator.isPattern <;>
            simp [hnested, hpattern, bind_assoc]

theorem conditionsOfItems_eq_mapM (items : List Document) :
    conditionsOfItems items = items.mapM Condition.ofDocument := by
  induction items with
  | nil => rw [conditionsOfItems]; rfl
  | cons d items ih => rw [conditionsOfItems, List.mapM_cons, ih]

section Member

variable {operator : Operator} {d : Document}

theorem clauseOfMember_nested (hnested : operator.isNested = true) :
    clauseOfMember (operator.key, d) =
      (Condition.ofDocument d).map fun c => .mk operator (.condition c) := by
  rw [clauseOfMember, Operator.ofKey?_key]
  simp only [hnested, if_true]
  cases Condition.ofDocument d with
  | error e => rfl
  | ok c =>
      change Clause.build operator (.condition c) = _
      rw [Clause.build, Reference.normalize, if_pos hnested]
      rfl

theorem clauseOfMember_pattern (hpattern : operator.isPattern = true) :
    clauseOfMember (operator.key, d) =
      (Reference.patternsOfDocument d).map fun reference => .mk operator reference := by
  have hnested := Operator.isNested_of_isPattern hpattern
  rw [clauseOfMember, Operator.ofKey?_key]
  simp only [hnested, hpattern, if_true]
  cases hread : Reference.patternsOfDocument d with
  | error e => rfl
  | ok reference =>
      -- Patterns that were read have the form that the operator expects.
      have hform : reference.toPatterns operator = .ok reference := by
        cases (((readsAs_patterns d).ok_iff reference).mp hread).2 <;> rfl
      change Clause.build operator reference = _
      rw [Clause.build, Reference.normalize, if_neg (by simp [hnested]), if_pos hpattern, hform]
      rfl

theorem clauseOfMember_value (hnested : operator.isNested = false)
    (hpattern : operator.isPattern = false) :
    clauseOfMember (operator.key, d) =
      ((Reference.valuesOfDocument d).toValues operator).map
        fun reference => .mk operator reference := by
  rw [clauseOfMember, Operator.ofKey?_key]
  simp only [hnested, hpattern]
  change Clause.build operator _ = _
  rw [Clause.build, Reference.normalize, if_neg (by simp [hnested]), if_neg (by simp [hpattern])]
  cases (Reference.valuesOfDocument d).toValues operator <;> rfl

theorem kind_valuesOfDocument (d : Document) : (Reference.valuesOfDocument d).kind = .value := by
  cases d <;> rfl

/-- The values under a key are read as they are, and checked for `type` and `integer`. -/
theorem readsAs_values (hnested : operator.isNested = false)
    (hpattern : operator.isPattern = false) :
    ReadsAs (Fits (operator.key, d)) (fun r => r = Reference.valuesOfDocument d)
      (FaultUnder (operator.key, d)) ((Reference.valuesOfDocument d).toValues operator) := by
  by_cases htype : operator = .type
  · subst htype
    have hall : (Reference.valuesOfDocument d).valueList.all (·.asString?.isSome) = true ↔
        OneOrMore IsText d := all_valuesOfDocument_iff isSome_asString?_iff (by simp [IsText]) d
    have hread : (Reference.valuesOfDocument d).toValues .type =
        if (Reference.valuesOfDocument d).valueList.all (·.asString?.isSome) then
          .ok (Reference.valuesOfDocument d)
        else .error (.invalidReference .type .notTypeName) := by
      rw [Reference.toValues_of_kind (kind_valuesOfDocument d)]
      cases (Reference.valuesOfDocument d).valueList.all (·.asString?.isSome) <;> simp
    rw [hread]
    refine (ReadsAs.check hall _ _).congr ?_ (fun _ => Iff.rfl) fun e => ?_
    · simp [fits_key_iff, hnested, hpattern]
    · simp [faultUnder_key_iff, hnested, hpattern]
  by_cases hinteger : operator = .integer
  · subst hinteger
    have hall : (Reference.valuesOfDocument d).valueList.all (·.asBool?.isSome) = true ↔
        OneOrMore IsTruth d := all_valuesOfDocument_iff isSome_asBool?_iff (by simp [IsTruth]) d
    have hread : (Reference.valuesOfDocument d).toValues .integer =
        if (Reference.valuesOfDocument d).valueList.all (·.asBool?.isSome) then
          .ok (Reference.valuesOfDocument d)
        else .error (.invalidReference .integer .notBool) := by
      rw [Reference.toValues_of_kind (kind_valuesOfDocument d)]
      cases (Reference.valuesOfDocument d).valueList.all (·.asBool?.isSome) <;> simp
    rw [hread]
    refine (ReadsAs.check hall _ _).congr ?_ (fun _ => Iff.rfl) fun e => ?_
    · simp [fits_key_iff, hnested, hpattern]
    · simp [faultUnder_key_iff, hnested, hpattern]
  · -- Any other operator takes whatever values there are.
    rw [Reference.toValues_of_kind (kind_valuesOfDocument d), if_neg (by simp [htype]),
      if_neg (by simp [hinteger])]
    refine .ok ?_ (fun _ => Iff.rfl) fun e => ?_
    · simp [fits_key_iff, hnested, hpattern, htype, hinteger]
    · simp [faultUnder_key_iff, hnested, hpattern, htype, hinteger]

theorem readsAs_clause (hd : ReadsAs d.Valid (Mirrors d) (Fault d) (Condition.ofDocument d)) :
    ReadsAs (Fits (operator.key, d)) (MirrorsClause (operator.key, d))
      (FaultUnder (operator.key, d)) (clauseOfMember (operator.key, d)) := by
  cases hnested : operator.isNested with
  | true =>
      have hpattern := Operator.isPattern_of_isNested hnested
      rw [clauseOfMember_nested hnested]
      refine (hd.map _).congr (fits_nested_iff hnested).symm (fun clause => ?_)
        fun e => (faultUnder_nested_iff hnested e).symm
      simp [mirrorsClause_key_iff, hnested, hpattern]
  | false =>
      cases hpattern : operator.isPattern with
      | true =>
          rw [clauseOfMember_pattern hpattern]
          refine ((readsAs_patterns d).map _).congr (fits_pattern_iff hpattern).symm
            (fun clause => ?_) fun e => (faultUnder_pattern_iff hpattern e).symm
          simp [mirrorsClause_key_iff, hnested, hpattern]
      | false =>
          rw [clauseOfMember_value hnested hpattern]
          refine ((readsAs_values hnested hpattern).map _).congr Iff.rfl (fun clause => ?_)
            fun e => Iff.rfl
          simp [mirrorsClause_key_iff, hnested, hpattern]

end Member

theorem exists_operator_of_fits {key : String} {d : Document} (h : Fits (key, d)) :
    ∃ operator : Operator, operator.key = key := by
  cases h with
  | nested hkey => exact Operator.exists_of_mem_keys (by decide) hkey
  | pattern hkey => exact Operator.exists_of_mem_keys (by decide) hkey
  | type hkey => exact ⟨.type, hkey.symm⟩
  | integer hkey => exact ⟨.integer, hkey.symm⟩
  | other hkey => exact Operator.exists_of_mem_keys (by decide) hkey

/-- Under an unknown key nothing but the key is wrong. -/
theorem faultUnder_unknown_iff {key : String} (hkey : ∀ operator : Operator, operator.key ≠ key)
    (d : Document) (e : ConditionError) :
    FaultUnder (key, d) e ↔ e = .unknownOperator key := by
  have hnone : ¬ ∃ operator : Operator, operator.key = key :=
    fun ⟨operator, heq⟩ => hkey operator heq
  constructor
  · intro h
    cases h with
    | unknown => rfl
    | nested hmem => exact absurd (Operator.exists_of_mem_keys (by decide) hmem) hnone
    | pattern hmem => exact absurd (Operator.exists_of_mem_keys (by decide) hmem) hnone
    | type heq => exact absurd heq.symm (hkey .type)
    | integer heq => exact absurd heq.symm (hkey .integer)
  · rintro rfl
    exact .unknown hkey

/-- **Reading a member of an object.** -/
theorem readsAs_member (key : String) {d : Document}
    (hd : ReadsAs d.Valid (Mirrors d) (Fault d) (Condition.ofDocument d)) :
    ReadsAs (Fits (key, d)) (MirrorsClause (key, d)) (FaultUnder (key, d))
      (clauseOfMember (key, d)) := by
  by_cases hkey : ∃ operator : Operator, operator.key = key
  · obtain ⟨operator, rfl⟩ := hkey
    exact readsAs_clause hd
  · have hunknown : ∀ operator : Operator, operator.key ≠ key :=
      fun operator heq => hkey ⟨operator, heq⟩
    rw [clauseOfMember, Operator.ofKey?_eq_none_iff.mpr hunknown]
    exact .error (fun hfits => hkey (exists_operator_of_fits hfits))
      (faultUnder_unknown_iff hunknown d)

/-! ## Reading a document -/

theorem ofDocument_of_isScalar {d : Document} (h : d.IsScalar) :
    Condition.ofDocument d = .ok (.literal (Value.ofDocument d)) := by
  cases h <;> rw [Condition.ofDocument, Value.ofDocument]

theorem ofDocument_array (items : List Document) :
    Condition.ofDocument (.array items) =
      (items.mapM Condition.ofDocument).map Condition.any := by
  rw [Condition.ofDocument, conditionsOfItems_eq_mapM]
  cases items.mapM Condition.ofDocument <;> rfl

theorem ofDocument_object (members : List (String × Document)) :
    Condition.ofDocument (.object members) =
      (members.mapM clauseOfMember).map Condition.all := by
  rw [Condition.ofDocument, clausesOfMembers_eq_mapM]
  cases members.mapM clauseOfMember <;> rfl

theorem readsAs_scalar {d : Document} (h : d.IsScalar) :
    ReadsAs d.Valid (Mirrors d) (Fault d) (Condition.ofDocument d) := by
  rw [ofDocument_of_isScalar h]
  refine .ok (.scalar h) (fun c => ⟨fun hmirrors => ?_, ?_⟩) fun e hfault => ?_
  · cases hmirrors with
    | scalar => rfl
    | array => cases h
    | object => cases h
  · rintro rfl
    exact .scalar h
  · cases hfault <;> cases h

theorem readsAs_array {items : List Document}
    (h : ∀ d ∈ items, ReadsAs d.Valid (Mirrors d) (Fault d) (Condition.ofDocument d)) :
    ReadsAs (Document.array items).Valid (Mirrors (.array items)) (Fault (.array items))
      (Condition.ofDocument (.array items)) := by
  rw [ofDocument_array]
  refine ((ReadsAs.mapM h).map Condition.any).congr ?_ (fun c => ?_) fun e => ?_
  · refine ⟨.array, fun hvalid => ?_⟩
    cases hvalid with
    | scalar hscalar => cases hscalar
    | array hitems => exact hitems
  · constructor
    · rintro ⟨alternatives, hmirrors, rfl⟩
      exact .array hmirrors
    · intro hmirrors
      cases hmirrors with
      | scalar hscalar => cases hscalar
      | array halternatives => exact ⟨_, halternatives, rfl⟩
  · constructor
    · rintro ⟨before, d, after, rfl, hbefore, hfault⟩
      exact .item hbefore hfault
    · intro hfault
      cases hfault with
      | item hbefore hfault => exact ⟨_, _, _, rfl, hbefore, hfault⟩

theorem readsAs_object {members : List (String × Document)}
    (h : ∀ key d, (key, d) ∈ members →
      ReadsAs d.Valid (Mirrors d) (Fault d) (Condition.ofDocument d)) :
    ReadsAs (Document.object members).Valid (Mirrors (.object members)) (Fault (.object members))
      (Condition.ofDocument (.object members)) := by
  have hmembers : ∀ member ∈ members, ReadsAs (Fits member) (MirrorsClause member)
      (FaultUnder member) (clauseOfMember member) :=
    fun (key, d) hmem => readsAs_member key (h key d hmem)
  rw [ofDocument_object]
  refine ((ReadsAs.mapM hmembers).map Condition.all).congr ?_ (fun c => ?_) fun e => ?_
  · refine ⟨.object, fun hvalid => ?_⟩
    cases hvalid with
    | scalar hscalar => cases hscalar
    | object hfits => exact hfits
  · constructor
    · rintro ⟨clauses, hmirrors, rfl⟩
      exact .object hmirrors
    · intro hmirrors
      cases hmirrors with
      | scalar hscalar => cases hscalar
      | object hclauses => exact ⟨_, hclauses, rfl⟩
  · constructor
    · rintro ⟨before, member, after, rfl, hbefore, hfault⟩
      exact .member hbefore hfault
    · intro hfault
      cases hfault with
      | member hbefore hfault => exact ⟨_, _, _, rfl, hbefore, hfault⟩

theorem readsAs_ofDocument (d : Document) :
    ReadsAs d.Valid (Mirrors d) (Fault d) (Condition.ofDocument d) := by
  induction d using Document.induction with
  | scalar d h => exact readsAs_scalar h
  | array items ih => exact readsAs_array ih
  | object members ih => exact readsAs_object ih

/-- **Reading conditions.**  A document is read exactly when it is valid, as the
condition that mirrors it, and otherwise the error is its fault. -/
theorem ofDocument_reads_grammar (d : Document) :
    ((∃ c, Condition.ofDocument d = .ok c) ↔ d.Valid) ∧
      (∀ c, Condition.ofDocument d = .ok c ↔ d.Valid ∧ Mirrors d c) ∧
      ∀ e, Condition.ofDocument d = .error e ↔ Fault d e := by
  have h := readsAs_ofDocument d
  exact ⟨h.exists_iff, h.ok_iff, h.error_iff⟩

/-- The unknown key comes before the wrong type name, although it is nested deeper. -/
example : Condition.ofDocument (.object [
      ("length", .array [.bool true, .object [("sizes", .null)]]),
      ("type", .bool true)]) = .error (.unknownOperator "sizes") := by
  rfl

end ValueAssertions
