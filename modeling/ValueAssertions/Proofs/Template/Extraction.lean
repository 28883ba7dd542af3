import ValueAssertions.Proofs.Template.Marker
import Mathlib.Data.String.Basic

/-!
# Extraction of blocks

The blocks of a template are given with the bytes between which they stand.  This
file says what they are for every text at all, whether its markers match or not:

* each is what stands in the template between its two bytes, begins and ends with
  markers, and is a group of its own: taken alone it is one block with the same
  expression and message (`Block.IsGroup`);
* they follow one another without overlap;
* nothing is missed: no opening marker stands before the first block or between
  two, and what comes after the last one has no block in it, since the first marker that
  opens one there is never closed (`ClosesNone`).

## Strategy

From left to right, a text is one without an opening marker, then a block, then a
text that is taken apart in the same way, until no marker opens a block or one does
that is never closed.  Three equations say which blocks there are in each case
(`blocksFrom_of_not_opening`, `blocksFrom_append_opening`, `blocksFrom_append_raw`),
and facts about all blocks are proved by the induction that follows this description
(`blocks_induction`), with the blocks of the rest further to the right.

A block is a group of its own because the scan that closes it reads nothing after
the closing marker (`splitAtClose?_append`).
-/

namespace ValueAssertions.Template

/-! ## Bytes of a text -/

/-- The part of a text between two bytes. -/
def slice (s : String) (start stop : Nat) : String :=
  String.Pos.Raw.extract s ⟨start⟩ ⟨stop⟩

theorem byteSize_append (s t : List Char) : byteSize (s ++ t) = byteSize s + byteSize t := by
  induction s with
  | nil => simp [byteSize]
  | cons c s ih =>
      rw [List.cons_append, byteSize, byteSize, ih]
      omega

theorem utf8Len_eq_byteSize (s : List Char) : String.utf8Len s = byteSize s := by
  induction s with
  | nil => rfl
  | cons c s ih =>
      rw [String.utf8Len_cons, byteSize, ih]
      omega

theorem utf8ByteSize_ofList (s : List Char) : (String.ofList s).utf8ByteSize = byteSize s := by
  rw [String.utf8ByteSize_ofList, utf8Len_eq_byteSize]

/-- The slice between the bytes at which a part begins and ends is that part. -/
theorem slice_append (s t u : List Char) :
    slice (String.ofList (s ++ t ++ u)) (byteSize s) (byteSize (s ++ t)) = String.ofList t := by
  have h := String.extract_of_valid s t u
  rwa [utf8Len_eq_byteSize, utf8Len_eq_byteSize, ← byteSize_append] at h

/-- The end of a part is the start of a character, or the end of the text. -/
theorem isValid_append (s t : List Char) :
    String.Pos.Raw.IsValid (String.ofList (s ++ t)) ⟨byteSize s⟩ := by
  rw [String.Pos.Raw.isValid_iff_exists_append]
  refine ⟨String.ofList s, String.ofList t, String.ofList_append, ?_⟩
  rw [String.rawEndPos_ofList, utf8Len_eq_byteSize]

/-! ## The scan for a closing marker -/

/-- The scan reads nothing after the closing marker that it finds. -/
theorem splitAtClose?_append {depth : Nat} {s body after : List Char}
    (h : splitAtClose? depth s = some (body, after)) (t : List Char) :
    splitAtClose? depth (body ++ closing ++ t) = some (body, t) := by
  induction depth, s using scan_induction generalizing body after with
  | nil depth => simp [splitAtClose?] at h
  | opens depth rest ih =>
      simp only [splitAtClose?, Option.map_eq_some_iff, Prod.mk.injEq] at h
      obtain ⟨⟨inner, _⟩, hinner, rfl, rfl⟩ := h
      have hrest := ih hinner
      simp only [List.cons_append, splitAtClose?] at hrest ⊢
      rw [hrest]
      rfl
  | closes rest =>
      simp only [splitAtClose?, Option.some.injEq, Prod.mk.injEq] at h
      obtain ⟨rfl, rfl⟩ := h
      rfl
  | closesInner depth rest ih =>
      simp only [splitAtClose?, Option.map_eq_some_iff, Prod.mk.injEq] at h
      obtain ⟨⟨inner, _⟩, hinner, rfl, rfl⟩ := h
      have hrest := ih hinner
      simp only [List.cons_append, splitAtClose?] at hrest ⊢
      rw [hrest]
      rfl
  | character depth c rest hmarker ih =>
      rw [splitAtClose?_cons hmarker, Option.map_eq_some_iff] at h
      obtain ⟨⟨inner, _⟩, hinner, heq⟩ := h
      obtain ⟨rfl, rfl⟩ := Prod.mk.injEq .. ▸ heq
      -- What follows `c` begins as before, since a closing marker comes at the latest.
      have hhead : (inner ++ closing ++ t).head? = rest.head? := by
        rw [splitAtClose?_eq_some hinner]
        cases inner <;> rfl
      rw [List.cons_append, List.cons_append, splitAtClose?_cons (hhead ▸ hmarker), ih hinner]
      rfl

/-! ## The first block -/

theorem blocksFrom_consText (start : Nat) (c : Char) (rest : List Segment) :
    blocksFrom start (consText c rest) = blocksFrom (start + c.utf8Size) rest := by
  unfold consText
  split
  · simp [blocksFrom, byteSize, Nat.add_assoc]
  · simp [blocksFrom, byteSize]

/-- Text without an opening marker only moves the blocks after it. -/
theorem blocksFrom_append {s t : List Char} (hs : ¬ opening <:+: s) (ht : '?' ∉ t.head?)
    (start : Nat) :
    blocksFrom start (segments (s ++ t)) = blocksFrom (start + byteSize s) (segments t) := by
  induction s generalizing start with
  | nil => rfl
  | cons c s ih =>
      have hopens : ¬ opening <+: c :: (s ++ t) :=
        not_opening_isPrefix (fun h => hs h.isInfix) fun h => ht h.2
      have hrest : ¬ opening <:+: s := fun h => hs (List.infix_cons h)
      rw [List.cons_append, segments_cons_of_not_opening hopens, blocksFrom_consText, ih hrest,
        byteSize, Nat.add_assoc]

/-- The block with a body, when it begins at a byte. -/
def blockAt (start : Nat) (body : List Char) : Block where
  raw := String.ofList (Segment.block body).raw
  start
  stop := start + byteSize (Segment.block body).raw
  condition := bodyExpression body
  message := String.ofList (bodyMessage body)

/-- A block that the scan finds closed is a segment, whatever follows it. -/
theorem segments_raw_append {body after : List Char}
    (hclose : splitAtClose? 0 (body ++ closing ++ after) = some (body, after)) (t : List Char) :
    segments ((Segment.block body).raw ++ t) = .block body :: segments t := by
  have hraw : (Segment.block body).raw ++ t = '(' :: '?' :: (body ++ closing ++ t) := by
    simp [Segment.raw, closing]
  rw [hraw, segments, splitAtClose?_append hclose]

/-- After text without an opening marker, a block that the scan finds closed is the
first one. -/
theorem blocksFrom_append_raw {before body after : List Char} (hbefore : ¬ opening <:+: before)
    (hclose : splitAtClose? 0 (body ++ closing ++ after) = some (body, after)) (start : Nat) :
    blocksFrom start (segments (before ++ (Segment.block body).raw ++ after)) =
      blockAt (start + byteSize before) body ::
        blocksFrom (start + byteSize (before ++ (Segment.block body).raw)) (segments after) := by
  rw [List.append_assoc, blocksFrom_append hbefore (by simp [Segment.raw]),
    segments_raw_append hclose, byteSize_append, ← Nat.add_assoc]
  rfl

/-- A marker that opens a block and is never closed is text, with all that follows. -/
theorem blocksFrom_append_opening {before rest : List Char} (hbefore : ¬ opening <:+: before)
    (hrest : splitAtClose? 0 rest = none) (start : Nat) :
    blocksFrom start (segments (before ++ opening ++ rest)) = [] := by
  have hopening : opening ++ rest = '(' :: '?' :: rest := rfl
  rw [List.append_assoc, blocksFrom_append hbefore (by simp [hopening]), hopening, segments,
    hrest]
  rfl

theorem blocksFrom_of_not_opening {s : List Char} (hs : ¬ opening <:+: s) (start : Nat) :
    blocksFrom start (segments s) = [] := by
  have h := blocksFrom_append hs (t := []) (by simp) start
  rw [List.append_nil] at h
  rw [h, segments]
  rfl

/-! ## From one block to the next -/

theorem exists_first_opening {s : List Char} (hs : opening <:+: s) :
    ∃ before rest, s = before ++ opening ++ rest ∧ ¬ opening <:+: before := by
  induction s with
  | nil => simp [opening] at hs
  | cons c s ih =>
      by_cases hprefix : opening <+: c :: s
      · obtain ⟨rest, hrest⟩ := hprefix
        exact ⟨[], rest, hrest.symm, by simp [opening]⟩
      · have hinfix : opening <:+: s := (List.infix_cons_iff.mp hs).resolve_left hprefix
        obtain ⟨before, rest, rfl, hbefore⟩ := ih hinfix
        refine ⟨c :: before, rest, rfl, ?_⟩
        rw [List.infix_cons_iff]
        rintro (hstart | hinner)
        · apply hprefix
          rw [List.append_assoc]
          exact hstart.trans (List.prefix_append (c :: before) _)
        · exact hbefore hinner

/-- Induction on a text from one block to the next.  It has no block, because no
marker opens one or the first that does is never closed, or it is text without an
opening marker, a block that the scan finds closed, and the rest. -/
@[elab_as_elim]
theorem blocks_induction {motive : List Char → Prop}
    (none : ∀ s, (∀ start, blocksFrom start (segments s) = []) → motive s)
    (block : ∀ before body after, ¬ opening <:+: before →
      splitAtClose? 0 (body ++ closing ++ after) = some (body, after) → motive after →
        motive (before ++ (Segment.block body).raw ++ after))
    (s : List Char) : motive s := by
  induction hlength : s.length using Nat.strong_induction_on generalizing s with
  | _ n ih =>
      by_cases hs : opening <:+: s
      · obtain ⟨before, rest, rfl, hbefore⟩ := exists_first_opening hs
        cases hsplit : splitAtClose? 0 rest with
        | none => exact none _ (blocksFrom_append_opening hbefore hsplit)
        | some parts =>
            obtain ⟨body, after⟩ := parts
            have hrest : rest = body ++ closing ++ after := by
              simpa [closing] using splitAtClose?_eq_some hsplit
            have hraw : before ++ opening ++ rest =
                before ++ (Segment.block body).raw ++ after := by
              rw [hrest, List.append_assoc, opening_append_eq_raw_append, List.append_assoc]
            have hlt : after.length < n := by
              simp only [hraw, Segment.raw, List.length_append, List.length_cons] at hlength
              omega
            rw [hraw]
            exact block before body after hbefore (hrest ▸ hsplit) (ih _ hlt after rfl)
      · exact none s (blocksFrom_of_not_opening hs)

/-! ## Each block -/

/-- A block is a whole group between markers, at its place in a template. -/
structure Block.IsGroup (template : String) (block : Block) : Prop where
  /-- It begins at a character of the template. -/
  start_isValid : String.Pos.Raw.IsValid template ⟨block.start⟩
  /-- It ends before a character of the template, or where the template does. -/
  stop_isValid : String.Pos.Raw.IsValid template ⟨block.stop⟩
  /-- It is what stands between its bytes. -/
  slice_eq_raw : slice template block.start block.stop = block.raw
  /-- There are as many bytes between them as it has. -/
  stop_eq : block.stop = block.start + block.raw.utf8ByteSize
  /-- It begins with an opening marker. -/
  opens : opening <+: block.raw.toList
  /-- It ends with a closing marker. -/
  closes : closing <:+ block.raw.toList
  /-- The two markers are apart. -/
  four_le : 4 ≤ block.raw.utf8ByteSize
  /-- Taken alone it is one block, and nothing else. -/
  alone : blocks block.raw = [{ block with start := 0, stop := block.raw.utf8ByteSize }]

/-- A block that the scan finds closed has nothing but itself between its markers. -/
theorem segments_raw {body after : List Char}
    (hclose : splitAtClose? 0 (body ++ closing ++ after) = some (body, after)) :
    segments (Segment.block body).raw = [.block body] := by
  simpa [segments] using segments_raw_append hclose []

theorem four_le_byteSize_raw (body : List Char) : 4 ≤ byteSize (Segment.block body).raw := by
  have hopening : byteSize ['(', '?'] = 2 := rfl
  have hclosing : byteSize ['?', ')'] = 2 := rfl
  have hraw : (Segment.block body).raw = ['(', '?'] ++ body ++ ['?', ')'] := rfl
  rw [hraw, byteSize_append, byteSize_append]
  omega

theorem blockAt_stop (before body : List Char) :
    (blockAt (byteSize before) body).stop = byteSize (before ++ (Segment.block body).raw) :=
  (byteSize_append _ _).symm

/-- A block that the scan finds closed is a group wherever it stands. -/
theorem isGroup_blockAt {body after : List Char}
    (hclose : splitAtClose? 0 (body ++ closing ++ after) = some (body, after))
    (before : List Char) :
    (blockAt (byteSize before) body).IsGroup
      (String.ofList (before ++ (Segment.block body).raw ++ after)) where
  start_isValid := by
    rw [List.append_assoc]
    exact isValid_append before _
  stop_isValid := by
    rw [blockAt_stop]
    exact isValid_append _ after
  slice_eq_raw := by
    rw [blockAt_stop]
    exact slice_append before _ after
  stop_eq := congrArg (byteSize before + ·) (utf8ByteSize_ofList _).symm
  opens := ⟨body ++ closing, by simp [blockAt, Segment.raw, opening, closing]⟩
  closes := ⟨opening ++ body, by simp [blockAt, Segment.raw, opening, closing]⟩
  four_le := by
    rw [blockAt, utf8ByteSize_ofList]
    exact four_le_byteSize_raw body
  alone := by
    rw [blocks, blockAt, String.toList_ofList, segments_raw hclose, utf8ByteSize_ofList]
    simp [blocksFrom]

theorem isGroup_of_mem_blocksFrom (s before : List Char) :
    ∀ block ∈ blocksFrom (byteSize before) (segments s),
      block.IsGroup (String.ofList (before ++ s)) := by
  induction s using blocks_induction generalizing before with
  | none s hnone => simp [hnone]
  | block text body after htext hclose ih =>
      intro block hblock
      rw [blocksFrom_append_raw htext hclose, ← byteSize_append, ← byteSize_append] at hblock
      rcases List.mem_cons.mp hblock with rfl | hrest
      · have hgroup := isGroup_blockAt hclose (before ++ text)
        rwa [List.append_assoc before, List.append_assoc before] at hgroup
      · have hgroup := ih _ block hrest
        rwa [List.append_assoc before] at hgroup

/-! ## The order of blocks -/

theorem pairwise_blocksFrom (s : List Char) (start : Nat) :
    (∀ block ∈ blocksFrom start (segments s), start ≤ block.start) ∧
      (blocksFrom start (segments s)).Pairwise fun a b =>
        a.start < b.start ∧ a.stop ≤ b.start := by
  induction s using blocks_induction generalizing start with
  | none s hnone => simp [hnone]
  | block text body after htext hclose ih =>
      obtain ⟨hle, hpairwise⟩ := ih (start + byteSize (text ++ (Segment.block body).raw))
      have hsize := four_le_byteSize_raw body
      rw [byteSize_append] at hle hpairwise
      rw [blocksFrom_append_raw htext hclose, byteSize_append]
      constructor
      · intro block hblock
        rcases List.mem_cons.mp hblock with rfl | hrest
        · exact Nat.le_add_right start _
        · have := hle block hrest
          omega
      · refine List.pairwise_cons.mpr ⟨?_, hpairwise⟩
        intro block hblock
        have := hle block hblock
        simp only [blockAt]
        omega

/-! ## The text outside of blocks -/

/-- The text before each block, from the end of the block before it. -/
def textsBefore (template : String) (start : Nat) : List Block → List String
  | [] => []
  | block :: rest => slice template start block.start :: textsBefore template block.stop rest

/-- The byte at which the text after the last block begins. -/
def stopOfLast (start : Nat) : List Block → Nat
  | [] => start
  | block :: rest => stopOfLast block.stop rest

/-- The text after the last block. -/
def textAfter (template : String) : String :=
  slice template (stopOfLast 0 (blocks template)) template.utf8ByteSize

/-- A text closes no block: from the first marker that opens one, a block is open wherever the
text is cut. -/
def ClosesNone (s : List Char) : Prop :=
  ∀ front, front <+: s → opening <:+: front → openBlocks 0 front ≠ 0

/-- Where a block is closed, the scan finds one. -/
theorem closesNone_of_blocksFrom_eq_nil {s : List Char} (h : blocksFrom 0 (segments s) = []) :
    ClosesNone s := by
  rintro front ⟨back, rfl⟩ hopening hclosed
  obtain ⟨before, inner, rfl, hbefore⟩ := exists_first_opening hopening
  rw [openBlocks_append_opening hbefore] at hclosed
  obtain ⟨body, after, hsplit, -⟩ := exists_splitAtClose?_of_openBlocks hclosed
  have hinner : inner = body ++ closing ++ after := by
    simpa [closing] using splitAtClose?_eq_some hsplit
  have hclose : splitAtClose? 0 (body ++ closing ++ (after ++ back)) = some (body, after ++ back) :=
    splitAtClose?_append hsplit (after ++ back)
  have hraw : before ++ opening ++ inner ++ back =
      before ++ (Segment.block body).raw ++ (after ++ back) := by
    rw [hinner, List.append_assoc before, opening_append_eq_raw_append]
    simp only [List.append_assoc]
  rw [hraw, blocksFrom_append_raw hbefore hclose] at h
  cases h

theorem not_opening_of_mem_textsBefore (s before : List Char) :
    ∀ text ∈ textsBefore (String.ofList (before ++ s)) (byteSize before)
      (blocksFrom (byteSize before) (segments s)), ¬ opening <:+: text.toList := by
  induction s using blocks_induction generalizing before with
  | none s hnone => simp [hnone, textsBefore]
  | block text body after htext hclose ih =>
      have hslice : slice (String.ofList (before ++ (text ++ (Segment.block body).raw ++ after)))
          (byteSize before) (byteSize (before ++ text)) = String.ofList text := by
        have := slice_append before text ((Segment.block body).raw ++ after)
        rwa [List.append_assoc before, ← List.append_assoc text] at this
      have hrest := ih (before ++ (text ++ (Segment.block body).raw))
      rw [List.append_assoc before] at hrest
      rw [blocksFrom_append_raw htext hclose, ← byteSize_append, ← byteSize_append, textsBefore,
        blockAt_stop, List.append_assoc before text, List.forall_mem_cons]
      refine ⟨?_, hrest⟩
      change ¬ opening <:+: (slice _ _ (byteSize (before ++ text))).toList
      rwa [hslice, String.toList_ofList]

/-- The text after the last block is the end of the template, and has no block. -/
theorem exists_textAfter (s before : List Char) :
    ∃ front back, before ++ s = front ++ back ∧
      stopOfLast (byteSize before) (blocksFrom (byteSize before) (segments s)) = byteSize front ∧
      blocksFrom 0 (segments back) = [] := by
  induction s using blocks_induction generalizing before with
  | none s hnone => exact ⟨before, s, rfl, by rw [hnone, stopOfLast], hnone 0⟩
  | block text body after htext hclose ih =>
      obtain ⟨front, back, heq, hstop, hback⟩ := ih (before ++ (text ++ (Segment.block body).raw))
      refine ⟨front, back, by rw [← heq, List.append_assoc before], ?_, hback⟩
      rw [blocksFrom_append_raw htext hclose, ← byteSize_append, ← byteSize_append, stopOfLast,
        blockAt_stop, ← hstop, List.append_assoc]

theorem blocks_textAfter (template : String) : blocks (textAfter template) = [] := by
  obtain ⟨front, back, heq, hstop, hback⟩ := exists_textAfter template.toList []
  have htemplate : template = String.ofList (front ++ back ++ []) := by
    rw [List.append_nil, ← heq, List.nil_append, String.ofList_toList]
  have hsize : template.utf8ByteSize = byteSize (front ++ back) := by
    rw [htemplate, utf8ByteSize_ofList, List.append_nil]
  have htext : textAfter template = String.ofList back := by
    have hfrom : stopOfLast 0 (blocks template) = byteSize front := hstop
    rw [textAfter, hfrom, hsize, htemplate, slice_append]
  rw [htext, blocks, String.toList_ofList, hback]

/-- **Extraction of blocks.**  The blocks of any text are groups of their own that
follow one another, with no opening marker before the first or between two of them,
and no block in what comes after the last, where none that is opened is closed. -/
theorem blocks_isGroup (template : String) :
    (∀ block ∈ blocks template, block.IsGroup template) ∧
      (blocks template).Pairwise (fun a b => a.start < b.start ∧ a.stop ≤ b.start) ∧
      (∀ text ∈ textsBefore template 0 (blocks template), ¬ opening <:+: text.toList) ∧
      blocks (textAfter template) = [] ∧ ClosesNone (textAfter template).toList := by
  have hgroup := isGroup_of_mem_blocksFrom template.toList []
  have hbefore := not_opening_of_mem_textsBefore template.toList []
  rw [List.nil_append, String.ofList_toList] at hgroup hbefore
  have hafter := blocks_textAfter template
  exact ⟨hgroup, (pairwise_blocksFrom _ 0).2, hbefore, hafter,
    closesNone_of_blocksFrom_eq_nil hafter⟩

/-- Markers do not share characters: the first question mark opens the block, and the
one after it closes it. -/
example : (blocks "é(?)?)(?").map (fun block => (block.raw, block.start, block.stop)) =
    [("(?)?)", 2, 7)] := by cbv

end ValueAssertions.Template
