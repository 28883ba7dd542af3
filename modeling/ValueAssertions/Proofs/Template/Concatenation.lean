import ValueAssertions.Proofs.Template.Extraction
import ValueAssertions.Proofs.Template.Structure

/-!
# Templates one after another

When a text leaves no block open, what follows it is read as if it stood alone: the blocks
of both together are those of the first text and, further to the right, those of the second,
and both together are resolved one after the other (`blocks_append`).  The only other
condition is that the two texts do not make an opening marker where they meet.

`openBlocks` counts the blocks that are open as the markers of a text are read from left to
right.

## Strategy

A text that leaves no block open is made of closed blocks and of characters that open none
(`Closed`), so that its segments are found one by one without a look at what comes after.
Hence the segments of both texts are those of the first and those of the second, where text
that ends the first and text that begins the second are one (`Closed.segments_append`).
Blocks and what is left of them do not depend on how text is cut.
-/

namespace ValueAssertions.Template

/-! ## Closed texts -/

/-- A text is made of blocks that the scan finds closed and of characters at which no block
is opened. -/
inductive Closed : List Char → Prop
  | nil : Closed []
  | block {body after : List Char}
      (hclose : splitAtClose? 0 (body ++ closing ++ after) = some (body, after))
      (hafter : Closed after) : Closed ((Segment.block body).raw ++ after)
  | character {c : Char} {rest : List Char} (hopens : ¬ opening <+: c :: rest)
      (hrest : Closed rest) : Closed (c :: rest)

theorem closed_of_openBlocks {s : List Char} (h : openBlocks 0 s = 0) : Closed s := by
  induction hlength : s.length using Nat.strong_induction_on generalizing s with
  | _ n ih =>
      cases s with
      | nil => exact .nil
      | cons c rest =>
          by_cases hopens : opening <+: c :: rest
          · obtain ⟨inner, heq⟩ := hopens
            rw [← heq] at h hlength ⊢
            obtain ⟨body, after, hsplit, hafter⟩ := exists_splitAtClose?_of_openBlocks h
            have hinner : inner = body ++ closing ++ after := by
              simpa [closing] using splitAtClose?_eq_some hsplit
            have hraw : opening ++ inner = (Segment.block body).raw ++ after := by
              rw [hinner, opening_append_eq_raw_append]
            have hlt : after.length < n := by
              simp only [hraw, Segment.raw, List.length_append, List.length_cons] at hlength
              omega
            rw [hraw]
            exact .block (hinner ▸ hsplit) (ih _ hlt hafter rfl)
          · rw [openBlocks_zero_cons hopens] at h
            refine .character hopens (ih _ ?_ h rfl)
            simp only [List.length_cons] at hlength
            omega

/-! ## Segments of both texts -/

theorem OpensAcross.append {s t : List Char} (h : OpensAcross s t) (before : List Char) :
    OpensAcross (before ++ s) t := by
  refine ⟨?_, h.2⟩
  rw [List.getLast?_append, h.1]
  rfl

/-- Segments one after another, with the text that ends the first and the text that begins
the second in one. -/
def joinSegments : List Segment → List Segment → List Segment
  | [], after => after
  | [.text s], .text t :: after => .text (s ++ t) :: after
  | segment :: before, after => segment :: joinSegments before after

theorem joinSegments_block (body : List Char) (before after : List Segment) :
    joinSegments (.block body :: before) after = .block body :: joinSegments before after := by
  rw [joinSegments]
  simp

theorem joinSegments_consText (c : Char) (before after : List Segment) :
    joinSegments (consText c before) after = consText c (joinSegments before after) := by
  rcases before with _ | ⟨_ | _, _ | _⟩ <;> rcases after with _ | ⟨_ | _, _⟩ <;>
    simp [consText, joinSegments]

/-- The segments of a text that leaves no block open do not depend on what follows it. -/
theorem Closed.segments_append {s t : List Char} (hs : Closed s) (hseam : ¬ OpensAcross s t) :
    segments (s ++ t) = joinSegments (segments s) (segments t) := by
  induction hs with
  | nil => simp [segments, joinSegments]
  | @block body after hclose _ ih =>
      have hafter : ¬ OpensAcross after t := fun h => hseam (h.append _)
      rw [List.append_assoc, segments_raw_append hclose, segments_raw_append hclose, ih hafter,
        joinSegments_block]
  | @character c rest hopens _ ih =>
      have hrest : ¬ OpensAcross rest t := fun h => hseam (h.append [c])
      have hopens' : ¬ opening <+: c :: (rest ++ t) := not_opening_isPrefix hopens hseam
      rw [List.cons_append, segments_cons_of_not_opening hopens,
        segments_cons_of_not_opening hopens', ih hrest, joinSegments_consText]

/-! ## Blocks and what is left of them -/

/-- The block when as many bytes more stand before it. -/
def Block.shift (bytes : Nat) (block : Block) : Block :=
  { block with start := bytes + block.start, stop := bytes + block.stop }

theorem blocksFrom_add (bytes start : Nat) (segments : List Segment) :
    blocksFrom (bytes + start) segments = (blocksFrom start segments).map (Block.shift bytes) := by
  induction segments generalizing start with
  | nil => rfl
  | cons segment rest ih =>
      cases segment with
      | text s => rw [blocksFrom, blocksFrom, Nat.add_assoc, ih]
      | block body =>
          simp only [blocksFrom, List.map_cons, Nat.add_assoc, ih]
          rfl

/-- The blocks of joined segments are those of the first and, after as many bytes as these
take, those of the second. -/
theorem blocksFrom_joinSegments (start : Nat) (before after : List Segment) :
    blocksFrom start (joinSegments before after) = blocksFrom start before ++
      blocksFrom (start + byteSize (before.flatMap Segment.raw)) after := by
  induction before, after using joinSegments.induct generalizing start with
  | case1 after => rfl
  | case2 s t after =>
      simp [joinSegments, blocksFrom, Segment.raw, byteSize_append, Nat.add_assoc]
  | case3 segment before after hjoin ih =>
      rw [joinSegments]
      · cases segment with
        | text s =>
            rw [blocksFrom, blocksFrom, ih, List.flatMap_cons, byteSize_append, Segment.raw,
              Nat.add_assoc]
        | block body =>
            rw [blocksFrom, blocksFrom, ih, List.flatMap_cons, byteSize_append,
              List.cons_append, Nat.add_assoc]
      · exact hjoin

theorem flatMap_resolve_joinSegments (context : Context) (before after : List Segment) :
    (joinSegments before after).flatMap (Segment.resolve context) =
      before.flatMap (Segment.resolve context) ++ after.flatMap (Segment.resolve context) := by
  induction before, after using joinSegments.induct with
  | case1 after => rfl
  | case2 s t after => simp [joinSegments, Segment.resolve]
  | case3 segment before after hjoin ih =>
      rw [joinSegments]
      · rw [List.flatMap_cons, List.flatMap_cons, ih, List.append_assoc]
      · exact hjoin

/-- **Templates one after another.**  When every block that is opened in a text is closed in
it, and no marker is made where another text follows, the blocks of both are those of the
first and those of the second, which have moved by the bytes of the first, and both are
resolved one after the other. -/
theorem blocks_append {a b : String} (hclosed : openBlocks 0 a.toList = 0)
    (hseam : ¬ OpensAcross a.toList b.toList) :
    blocks (a ++ b) = blocks a ++ (blocks b).map (Block.shift a.utf8ByteSize) ∧
      ∀ context, resolve context (a ++ b).toList =
        resolve context a.toList ++ resolve context b.toList := by
  have hsegments := (closed_of_openBlocks hclosed).segments_append hseam
  have hsize : a.utf8ByteSize = byteSize a.toList := by
    rw [← utf8ByteSize_ofList, String.ofList_toList]
  constructor
  · rw [blocks, String.toList_append, hsegments, blocksFrom_joinSegments, flatMap_raw_segments,
      Nat.zero_add, hsize, blocks, blocks, ← blocksFrom_add, Nat.add_zero]
  · intro context
    rw [String.toList_append, resolve_eq_flatMap, hsegments, flatMap_resolve_joinSegments,
      ← resolve_eq_flatMap, ← resolve_eq_flatMap]

/-- A closing marker without a block, half a marker and a block in a block stand before a
text that begins with the other half of a marker. -/
theorem strayMarkers_append :
    openBlocks 0 "é?)(?a (?b x?)?)?".toList = 0 ∧
      ¬ OpensAcross "é?)(?a (?b x?)?)?".toList ")(?c y?) (?".toList ∧
      blocks ("é?)(?a (?b x?)?)?" ++ ")(?c y?) (?") = blocks "é?)(?a (?b x?)?)?" ++
        (blocks ")(?c y?) (?").map (Block.shift "é?)(?a (?b x?)?)?".utf8ByteSize) ∧
      ∀ context, resolve context ("é?)(?a (?b x?)?)?" ++ ")(?c y?) (?").toList =
        resolve context "é?)(?a (?b x?)?)?".toList ++ resolve context ")(?c y?) (?".toList := by
  have hclosed : openBlocks 0 "é?)(?a (?b x?)?)?".toList = 0 := by decide
  have hseam : ¬ OpensAcross "é?)(?a (?b x?)?)?".toList ")(?c y?) (?".toList := by
    rintro ⟨hlast, -⟩
    exact absurd hlast (by decide)
  exact ⟨hclosed, hseam, blocks_append hclosed hseam⟩

/-- A marker that is made where the texts meet opens a block that is in neither. -/
example : openBlocks 0 "(".toList = 0 ∧ blocks "(" = [] ∧ blocks "?a?)" = [] ∧
    (blocks ("(" ++ "?a?)")).map Block.raw = ["(?a?)"] := by
  decide +kernel

end ValueAssertions.Template
