import ValueAssertions.Template.Block
import Mathlib.Data.List.Chain
import Mathlib.Data.List.Infix

/-!
# Passing over text

The scan for the marker that closes a block looks at two characters at a time, so
what it does with a text depends on the character that follows the text.  A text
is passed over before another one (`Passes`) when the scan leaves it as it is, at
every depth, and goes on with the other.

* Text without markers is passed over when no marker stands across its end
  (`passes_of_unmarked`), and texts that are passed over may be put one after the
  other (`Passes.append`).
* A block is passed over when what stands between its markers is
  (`Passes.block`).
* A text between markers that is passed over is one block of the segments
  (`segments_block`), and unmarked text before a block, or at the end, is one
  text of them (`segments_text`).

How many blocks are open after a text can be said without the scan, by counting its markers
(`openBlocks`).  When none is, the scan has found the marker that closes the block around the
text (`exists_splitAtClose?_of_openBlocks`).
-/

namespace ValueAssertions.Template

/-! ## Markers -/

/-- The marker that opens a block. -/
def opening : List Char := ['(', '?']

/-- The marker that closes a block. -/
def closing : List Char := ['?', ')']

/-- A text has no markers in it. -/
def Unmarked (s : List Char) : Prop :=
  ¬ opening <:+: s ∧ ¬ closing <:+: s

instance (s : List Char) : Decidable (Unmarked s) :=
  inferInstanceAs (Decidable (_ ∧ _))

/-- Two neighbouring characters are no marker. -/
def NoMarker (a b : Char) : Prop :=
  ¬ (a = '(' ∧ b = '?') ∧ ¬ (a = '?' ∧ b = ')')

/-- No marker stands across the end of a text and the start of another. -/
def NoMarkerAcross (s t : List Char) : Prop :=
  ∀ a ∈ s.getLast?, ∀ b ∈ t.head?, NoMarker a b

/-- An opening marker stands across the end of a text and the start of another. -/
def OpensAcross (s t : List Char) : Prop :=
  s.getLast? = some '(' ∧ t.head? = some '?'

/-- A text begins with an opening marker only if its first part does, or the marker stands
across the end of that part. -/
theorem not_opening_isPrefix {c : Char} {s t : List Char} (hs : ¬ opening <+: c :: s)
    (hseam : ¬ OpensAcross (c :: s) t) : ¬ opening <+: c :: (s ++ t) := by
  rintro ⟨rest, heq⟩
  obtain ⟨rfl, htail⟩ := List.cons_eq_cons.mp heq
  cases s with
  | nil => exact hseam ⟨rfl, by rw [← List.nil_append t, ← htail]; rfl⟩
  | cons d s =>
      obtain ⟨rfl, -⟩ := List.cons_eq_cons.mp htail
      exact hs ⟨s, rfl⟩

theorem unmarked_iff_isChain {s : List Char} : Unmarked s ↔ s.IsChain NoMarker := by
  rw [List.isChain_iff_forall_rel_of_append_cons_cons]
  constructor
  · rintro ⟨hopening, hclosing⟩ a b before after rfl
    constructor
    · rintro ⟨rfl, rfl⟩
      exact hopening ⟨before, after, by simp [opening]⟩
    · rintro ⟨rfl, rfl⟩
      exact hclosing ⟨before, after, by simp [closing]⟩
  · intro h
    constructor
    · rintro ⟨before, after, heq⟩
      exact (@h '(' '?' before after (by simp [← heq, opening])).1 ⟨rfl, rfl⟩
    · rintro ⟨before, after, heq⟩
      exact (@h '?' ')' before after (by simp [← heq, closing])).2 ⟨rfl, rfl⟩

/-! ## Passing over text -/

/-- The scan for a closing marker goes on with `t` after `s`, at every depth. -/
def Passes (s t : List Char) : Prop :=
  ∀ depth, splitAtClose? depth (s ++ t) =
    (splitAtClose? depth t).map fun parts => (s ++ parts.1, parts.2)

theorem splitAtClose?_cons {c : Char} {t : List Char} (h : ∀ b ∈ t.head?, NoMarker c b)
    (depth : Nat) :
    splitAtClose? depth (c :: t) =
      (splitAtClose? depth t).map fun parts => (c :: parts.1, parts.2) := by
  rw [splitAtClose?]
  · rintro rest rfl rfl
    exact (h '?' rfl).1 ⟨rfl, rfl⟩
  · rintro rest - rfl rfl
    exact (h ')' rfl).2 ⟨rfl, rfl⟩
  · rintro _ rest - rfl rfl
    exact (h ')' rfl).2 ⟨rfl, rfl⟩

/-- Induction on a text as the scan for a closing marker reads it. -/
@[elab_as_elim]
theorem scan_induction {motive : Nat → List Char → Prop} (nil : ∀ depth, motive depth [])
    (opens : ∀ depth rest, motive (depth + 1) rest → motive depth ('(' :: '?' :: rest))
    (closes : ∀ rest, motive 0 ('?' :: ')' :: rest))
    (closesInner : ∀ depth rest, motive depth rest → motive (depth + 1) ('?' :: ')' :: rest))
    (character : ∀ depth c rest, (∀ b ∈ rest.head?, NoMarker c b) → motive depth rest →
      motive depth (c :: rest))
    (depth : Nat) (s : List Char) : motive depth s := by
  induction depth, s using splitAtClose?.induct with
  | case1 depth => exact nil depth
  | case2 depth rest ih => exact opens depth rest ih
  | case3 rest => exact closes rest
  | case4 depth rest ih => exact closesInner depth rest ih
  | case5 depth c rest hopens hcloses hclosesInner ih =>
      refine character depth c rest (fun b hb => ?_) ih
      obtain ⟨tail, rfl⟩ := List.head?_eq_some_iff.mp hb
      constructor
      · rintro ⟨rfl, rfl⟩
        exact hopens tail rfl rfl
      · rintro ⟨rfl, rfl⟩
        cases depth with
        | zero => exact hcloses tail rfl rfl rfl
        | succ depth => exact hclosesInner depth tail rfl rfl rfl

theorem passes_nil (t : List Char) : Passes [] t := by
  intro depth
  simp

theorem passes_of_unmarked {s t : List Char} (hs : Unmarked s) (hacross : NoMarkerAcross s t) :
    Passes s t := by
  rw [unmarked_iff_isChain] at hs
  intro depth
  induction s with
  | nil => exact passes_nil t depth
  | cons c s ih =>
      obtain ⟨hhead, htail⟩ := List.isChain_cons.mp hs
      -- The character after `c` is the next of `s`, or the first of `t` where `s` ends.
      have hnext : ∀ b ∈ (s ++ t).head?, NoMarker c b := by
        cases s with
        | nil => exact hacross c rfl
        | cons d s => exact hhead
      have hrest : NoMarkerAcross s t := by
        cases s with
        | nil => nofun
        | cons d s => exact fun a ha => hacross a (by simpa using ha)
      rw [List.cons_append, splitAtClose?_cons hnext, ih htail hrest, Option.map_map]
      rfl

/-- Characters that begin no marker are passed over whatever follows. -/
theorem passes_of_forall_ne {s : List Char} (h : ∀ c ∈ s, c ≠ '(' ∧ c ≠ '?') (t : List Char) :
    Passes s t := by
  have hmarker : ∀ a ∈ s, ∀ b, NoMarker a b := fun a ha b =>
    ⟨fun heq => (h a ha).1 heq.1, fun heq => (h a ha).2 heq.1⟩
  have hs : Unmarked s := by
    rw [unmarked_iff_isChain, List.isChain_iff_forall_rel_of_append_cons_cons]
    rintro a b before after rfl
    exact hmarker a (by simp) b
  exact passes_of_unmarked hs fun a ha b _ => hmarker a (List.mem_of_mem_getLast? ha) b

theorem Passes.append {s t u : List Char} (hs : Passes s (t ++ u)) (ht : Passes t u) :
    Passes (s ++ t) u := by
  intro depth
  rw [List.append_assoc, hs, ht, Option.map_map]
  simp [Function.comp_def]

/-- What is passed over before its closing marker is found by the scan. -/
theorem Passes.splitAtClose? {body after : List Char} (h : Passes body (closing ++ after)) :
    Template.splitAtClose? 0 (body ++ closing ++ after) = some (body, after) := by
  rw [List.append_assoc, h]
  simp [closing, Template.splitAtClose?]

theorem Passes.block {body after : List Char} (h : Passes body (closing ++ after)) :
    Passes (opening ++ body ++ closing) after := by
  intro depth
  have hopen : opening ++ body ++ closing ++ after =
      '(' :: '?' :: (body ++ (closing ++ after)) := by
    simp [opening]
  -- The marker that closes this block takes the scan back to the depth before it.
  have hclose : Template.splitAtClose? (depth + 1) (closing ++ after) =
      (Template.splitAtClose? depth after).map fun parts => (closing ++ parts.1, parts.2) := by
    simp [closing, Template.splitAtClose?]
  rw [hopen, Template.splitAtClose?, h, hclose, Option.map_map, Option.map_map]
  simp [opening, Function.comp_def]

/-! ## Open blocks -/

/-- How many blocks are open after a text, given how many are open before it.  A closing
marker is text where no block is open. -/
def openBlocks : Nat → List Char → Nat
  | opened, [] => opened
  | opened, '(' :: '?' :: rest => openBlocks (opened + 1) rest
  | opened + 1, '?' :: ')' :: rest => openBlocks opened rest
  | opened, _ :: rest => openBlocks opened rest

theorem openBlocks_cons {c : Char} {rest : List Char} (h : ∀ b ∈ rest.head?, NoMarker c b)
    (opened : Nat) : openBlocks opened (c :: rest) = openBlocks opened rest := by
  rw [openBlocks]
  · rintro tail rfl rfl
    exact (h '?' rfl).1 ⟨rfl, rfl⟩
  · rintro _ tail - rfl rfl
    exact (h ')' rfl).2 ⟨rfl, rfl⟩

/-- Where no block is open only an opening marker counts. -/
theorem openBlocks_zero_cons {c : Char} {rest : List Char} (h : ¬ opening <+: c :: rest) :
    openBlocks 0 (c :: rest) = openBlocks 0 rest := by
  rw [openBlocks]
  · rintro tail rfl rfl
    exact h ⟨tail, rfl⟩
  · rintro _ tail ⟨⟩

/-- The first opening marker opens the first block. -/
theorem openBlocks_append_opening {before : List Char} (hbefore : ¬ opening <:+: before)
    (rest : List Char) : openBlocks 0 (before ++ opening ++ rest) = openBlocks 1 rest := by
  rw [List.append_assoc]
  induction before with
  | nil => rfl
  | cons c before ih =>
      have hopens : ¬ opening <+: c :: (before ++ (opening ++ rest)) :=
        not_opening_isPrefix (fun h => hbefore h.isInfix) (by simp [OpensAcross, opening])
      rw [List.cons_append, openBlocks_zero_cons hopens]
      exact ih fun h => hbefore (List.infix_cons h)

/-- Where all blocks are closed after a text, the scan finds the marker that closes the
block around it, and all are closed after what comes then. -/
theorem exists_splitAtClose?_of_openBlocks {depth : Nat} {s : List Char}
    (h : openBlocks (depth + 1) s = 0) :
    ∃ body after, splitAtClose? depth s = some (body, after) ∧ openBlocks 0 after = 0 := by
  induction depth, s using scan_induction with
  | nil depth => exact absurd h (Nat.succ_ne_zero depth)
  | opens depth rest ih =>
      obtain ⟨body, after, hsplit, hafter⟩ := ih h
      exact ⟨'(' :: '?' :: body, after, by simp [splitAtClose?, hsplit], hafter⟩
  | closes rest => exact ⟨[], rest, rfl, h⟩
  | closesInner depth rest ih =>
      obtain ⟨body, after, hsplit, hafter⟩ := ih h
      exact ⟨'?' :: ')' :: body, after, by simp [splitAtClose?, hsplit], hafter⟩
  | character depth c rest hmarker ih =>
      rw [openBlocks_cons hmarker] at h
      obtain ⟨body, after, hsplit, hafter⟩ := ih h
      exact ⟨c :: body, after, by simp [splitAtClose?_cons hmarker, hsplit], hafter⟩

/-! ## Segments -/

theorem opening_append_eq_raw_append (body after : List Char) :
    opening ++ (body ++ closing ++ after) = (Segment.block body).raw ++ after := by
  simp [Segment.raw, opening, closing]

/-- Segments begin with a text. -/
def StartsWithText (segments : List Segment) : Prop :=
  ∃ s rest, segments = .text s :: rest

theorem consText_of_not_startsWithText {segments : List Segment}
    (h : ¬ StartsWithText segments) (c : Char) :
    consText c segments = .text [c] :: segments := by
  cases segments with
  | nil => rfl
  | cons segment rest =>
      cases segment with
      | text s => exact absurd ⟨s, rest, rfl⟩ h
      | block body => rfl

theorem segments_cons {c : Char} {t : List Char} (h : ∀ b ∈ t.head?, NoMarker c b) :
    segments (c :: t) = consText c (segments t) := by
  rw [segments]
  rintro rest rfl rfl
  exact (h '?' rfl).1 ⟨rfl, rfl⟩

theorem segments_cons_of_not_opening {c : Char} {rest : List Char}
    (h : ¬ opening <+: c :: rest) : segments (c :: rest) = consText c (segments rest) := by
  rw [segments]
  rintro tail rfl rfl
  exact h ⟨tail, rfl⟩

/-- Unmarked text is one segment when the text after it does not go on with more. -/
theorem segments_text {s t : List Char} (hne : s ≠ []) (hs : Unmarked s)
    (hacross : NoMarkerAcross s t) (ht : ¬ StartsWithText (segments t)) :
    segments (s ++ t) = .text s :: segments t := by
  rw [unmarked_iff_isChain] at hs
  induction s with
  | nil => exact absurd rfl hne
  | cons c s ih =>
      obtain ⟨hhead, htail⟩ := List.isChain_cons.mp hs
      cases s with
      | nil =>
          rw [List.singleton_append, segments_cons (hacross c rfl),
            consText_of_not_startsWithText ht]
      | cons d s =>
          have hnext : ∀ b ∈ (d :: s ++ t).head?, NoMarker c b := hhead
          have hrest : NoMarkerAcross (d :: s) t :=
            fun a ha => hacross a (by simpa using ha)
          rw [List.cons_append, segments_cons hnext, ih (by simp) htail hrest]
          rfl

/-- What is passed over between two markers is one block. -/
theorem segments_block {body after : List Char} (h : Passes body (closing ++ after)) :
    segments (opening ++ body ++ closing ++ after) = .block body :: segments after := by
  have hsplit : splitAtClose? 0 (body ++ (closing ++ after)) = some (body, after) := by
    rw [← List.append_assoc]
    exact h.splitAtClose?
  have hopen : opening ++ body ++ closing ++ after =
      '(' :: '?' :: (body ++ (closing ++ after)) := by
    simp [opening]
  rw [hopen, segments, hsplit]

end ValueAssertions.Template
