import ValueAssertions.Proofs.Template.Literal
import Mathlib.Data.List.Find

/-!
# Symbols of comparisons

A comparison is written with one of eight symbols, some of which begin with another one.
Where several of them begin a text, the longest is taken (`startOf?_eq_some_iff`): the
symbols are tried in an order in which none comes after one that it continues.
-/

namespace ValueAssertions.Template

/-- A text begins with one of the eight comparisons. -/
def BeginsComparison (s : List Char) : Prop :=
  ∃ test ∈ Test.comparisons, test.symbol.toList <+: s

/-- The longest comparison that a text begins with. -/
structure LongestComparison (s : List Char) (test : Test) : Prop where
  mem : test ∈ Test.comparisons
  begins : test.symbol.toList <+: s
  longest : ∀ other ∈ Test.comparisons, other.symbol.toList <+: s →
    other.symbol.toList.length ≤ test.symbol.toList.length

namespace Test

variable {test : Test} {s t : List Char}

/-- A comparison is written with characters that begin one. -/
theorem startsTest_of_mem_symbol (htest : test ∈ comparisons) :
    test.symbol.toList ≠ [] ∧ ∀ c ∈ test.symbol.toList, startsTest c = true := by
  rw [← List.all_eq_true]
  cases test with
  | truthy => exact absurd htest (by decide)
  | _ => decide

/-- A comparison begins like one, whatever follows. -/
theorem startsTest_of_mem_head? (htest : test ∈ comparisons) (s : List Char) :
    ∀ c ∈ (test.symbol.toList ++ s).head?, startsTest c = true := by
  obtain ⟨hne, hstarts⟩ := startsTest_of_mem_symbol htest
  rw [List.head?_append_of_ne_nil _ hne]
  exact fun c hc => hstarts c (List.mem_of_mem_head? hc)

/-! ## The longest symbol -/

theorem symbol_injective {other : Test} (h : test.symbol = other.symbol) : test = other := by
  have hofSymbol : ∀ test : Test, ofSymbol? test.symbol = some test := by
    rintro (_ | _) <;> rfl
  have heq := hofSymbol test
  rw [h, hofSymbol other] at heq
  exact (Option.some.inj heq).symm

/-- No comparison is tried after one that it continues. -/
theorem pairwise_comparisons :
    comparisons.Pairwise fun a b => ¬ a.symbol.toList <+: b.symbol.toList := by
  decide

theorem startOf?_eq_none_iff : startOf? s = none ↔ ¬ BeginsComparison s := by
  simp [startOf?, BeginsComparison]

/-- The comparison that is found is the longest one. -/
theorem longestComparison_of_startOf? (h : startOf? s = some test) : LongestComparison s test := by
  obtain ⟨hbegins, before, after, hsplit, hbefore⟩ := List.find?_eq_some_iff_append.mp h
  rw [List.isPrefixOf_iff_prefix] at hbegins
  refine ⟨by simp [hsplit], hbegins, fun other hother hprefix => ?_⟩
  rw [hsplit, List.mem_append, List.mem_cons] at hother
  rcases hother with hother | rfl | hother
  · -- What is tried before does not begin the text.
    have hnot := hbefore other hother
    rw [List.isPrefixOf_iff_prefix.mpr hprefix] at hnot
    cases hnot
  · exact Nat.le_refl _
  · -- What is tried after does not continue the comparison, so it is a part of it.
    have hpairwise := pairwise_comparisons
    rw [hsplit, List.pairwise_append, List.pairwise_cons] at hpairwise
    have hnot := hpairwise.2.1.1 other hother
    exact ((List.prefix_or_prefix_of_prefix hbegins hprefix).resolve_left hnot).length_le

theorem startOf?_eq_some_iff : startOf? s = some test ↔ LongestComparison s test := by
  refine ⟨longestComparison_of_startOf?, fun h => ?_⟩
  cases hfound : startOf? s with
  | none => exact absurd ⟨test, h.mem, h.begins⟩ (startOf?_eq_none_iff.mp hfound)
  | some found =>
      -- Two that are longest have one length, and begin the same text.
      have hlongest := longestComparison_of_startOf? hfound
      have hprefix := List.prefix_of_prefix_length_le hlongest.begins h.begins
        (h.longest found hlongest.mem hlongest.begins)
      have heq := hprefix.eq_of_length_le (hlongest.longest test h.mem h.begins)
      rw [symbol_injective (String.toList_inj.mp heq)]

/-! ## What follows a symbol -/

/-- A comparison does not go on into what begins with another character. -/
theorem symbol_isPrefix_append_iff (htest : test ∈ comparisons)
    (ht : ∀ c ∈ t.head?, startsTest c = false) :
    test.symbol.toList <+: s ++ t ↔ test.symbol.toList <+: s := by
  refine ⟨fun h => ?_, fun h => h.trans (List.prefix_append s t)⟩
  rcases List.prefix_or_prefix_of_prefix h (List.prefix_append s t) with h' | ⟨more, hmore⟩
  · exact h'
  cases more with
  | nil =>
      rw [List.append_nil] at hmore
      exact hmore ▸ List.prefix_rfl
  | cons c more =>
      rw [← hmore, List.prefix_append_right_inj] at h
      obtain ⟨rest, rfl⟩ := h
      have hstarts := (startsTest_of_mem_symbol htest).2 c (by simp [← hmore])
      rw [ht c rfl] at hstarts
      cases hstarts

theorem startOf?_append (ht : ∀ c ∈ t.head?, startsTest c = false) :
    startOf? (s ++ t) = startOf? s := by
  refine List.find?_congr fun test htest => ?_
  rw [Bool.eq_iff_iff, List.isPrefixOf_iff_prefix, List.isPrefixOf_iff_prefix,
    symbol_isPrefix_append_iff htest ht]

theorem startOf?_eq_none (hs : ∀ c ∈ s.head?, startsTest c = false) : startOf? s = none :=
  startOf?_append (s := []) hs

/-- A comparison that is not followed by an equals sign is the longest one there. -/
theorem startOf?_symbol_append (htest : test ∈ comparisons)
    (hs : ∀ c ∈ s.head?, startsTest c = false) :
    startOf? (test.symbol.toList ++ s) = some test := by
  rw [startOf?_append hs]
  cases test with
  | truthy => exact absurd htest (by decide)
  | _ => rfl

end Test

/-- Where a comparison begins, there is a longest one. -/
theorem BeginsComparison.exists_longest {s : List Char} (h : BeginsComparison s) :
    ∃ test, LongestComparison s test := by
  obtain ⟨test, hfound⟩ := Option.ne_none_iff_exists'.mp
    (mt Test.startOf?_eq_none_iff.mp (not_not.mpr h))
  exact ⟨test, Test.startOf?_eq_some_iff.mp hfound⟩

theorem isBlank_of_startsTest {c : Char} (h : startsTest c = true) : isBlank c = false := by
  simp only [startsTest, Bool.or_eq_true, beq_iff_eq] at h
  rcases h with ((rfl | rfl) | rfl) | rfl <;> decide

end ValueAssertions.Template
