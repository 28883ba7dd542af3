import ValueAssertions.Proofs.Template.Extraction
import ValueAssertions.Proofs.Template.Structure

/-!
# Resolving only deletes text

What a template leaves in a context is the template with some of its characters left out
(`resolve_onlyDeletes`).  It can be made by a cursor that goes over the template from block to
block: the text up to a block is copied, the block is replaced, and the cursor is set to the
end of the block; after the last block the rest is copied (`splice`).  With every block
replaced by itself this gives the template, and with every block replaced by what it leaves
the resolved one, so the two differ in the outermost blocks only, and what a block leaves is
found in it.

That the cursor copies neither more nor less than the text between blocks goes by induction
on the segments, with the text that is before the cursor and the text that is to be copied at
the next block (`splice_blocksFrom`).

To resolve a block is to resolve its message, which takes four bytes less than the block at
least (`byteSize_message_add_four_le`).  So messages in messages come to an end, and with a
bound on their depth that the size of the template gives, the bound is never reached
(`resolveWithin?_eq_some`).
-/

namespace ValueAssertions.Template

/-! ## Copying with a cursor -/

/-- The text from a byte on, with a text in the place of each block. -/
def splice (template : String) (start : Nat) : List (Block × List Char) → List Char
  | [] => (slice template start template.utf8ByteSize).toList
  | (block, text) :: rest =>
    (slice template start block.start).toList ++ text ++ splice template block.stop rest

/-- The text with every block replaced. -/
def replaceBlocks (replace : Block → List Char) (template : String) : List Char :=
  splice template 0 ((blocks template).map fun block => (block, replace block))

theorem blockAt_start (start : Nat) (body : List Char) : (blockAt start body).start = start :=
  rfl

theorem blocksFrom_block (before body : List Char) (parts : List Segment) :
    blocksFrom (byteSize before) (.block body :: parts) =
      blockAt (byteSize before) body ::
        blocksFrom (byteSize (before ++ (Segment.block body).raw)) parts := by
  rw [byteSize_append]
  rfl

/-- The cursor copies the text between blocks, and nothing else.  The text before it has been
copied, and `pending` is what stands between it and the segments that are left. -/
theorem splice_blocksFrom {replace : Block → List Char} {write : Segment → List Char}
    (htext : ∀ s, write (.text s) = s)
    (hblock : ∀ start body, write (.block body) = replace (blockAt start body))
    (parts : List Segment) (before pending : List Char) :
    splice (String.ofList (before ++ pending ++ parts.flatMap Segment.raw)) (byteSize before)
        ((blocksFrom (byteSize (before ++ pending)) parts).map
          fun block => (block, replace block)) =
      pending ++ parts.flatMap write := by
  induction parts generalizing before pending with
  | nil =>
      have hslice := slice_append before pending []
      rw [List.append_nil] at hslice
      rw [blocksFrom, List.map_nil, splice, List.flatMap_nil, List.flatMap_nil, List.append_nil,
        List.append_nil, utf8ByteSize_ofList, hslice, String.toList_ofList]
  | cons part parts ih =>
      cases part with
      | text s =>
          have hmore := ih before (pending ++ s)
          rw [← List.append_assoc before] at hmore
          rw [List.flatMap_cons, List.flatMap_cons, htext, ← List.append_assoc pending, ← hmore,
            blocksFrom, byteSize_append (before ++ pending), Segment.raw, List.append_assoc _ s]
      | block body =>
          have htemplate : before ++ pending ++ (Segment.block body :: parts).flatMap Segment.raw =
              before ++ pending ++ (Segment.block body).raw ++ parts.flatMap Segment.raw := by
            rw [List.flatMap_cons, List.append_assoc _ (Segment.block body).raw]
          have hgap := slice_append before pending
            ((Segment.block body).raw ++ parts.flatMap Segment.raw)
          rw [← List.append_assoc] at hgap
          have hafter := ih (before ++ pending ++ (Segment.block body).raw) []
          rw [List.append_nil, List.nil_append] at hafter
          rw [htemplate, blocksFrom_block, List.map_cons, splice, blockAt_start, blockAt_stop, hgap,
            hafter, ← hblock, String.toList_ofList, List.append_assoc, List.flatMap_cons]

/-- Segments that are written one by one are the text with its blocks replaced. -/
theorem replaceBlocks_eq_flatMap {replace : Block → List Char} {write : Segment → List Char}
    (htext : ∀ s, write (.text s) = s)
    (hblock : ∀ start body, write (.block body) = replace (blockAt start body))
    (template : String) :
    replaceBlocks replace template = (segments template.toList).flatMap write := by
  have h := splice_blocksFrom htext hblock (segments template.toList) [] []
  rwa [List.nil_append, List.nil_append, List.nil_append, flatMap_raw_segments,
    String.ofList_toList] at h

/-- With every block replaced by itself, the text stays as it is. -/
theorem replaceBlocks_raw (template : String) :
    replaceBlocks (fun block => block.raw.toList) template = template.toList := by
  have hblock : ∀ start body, (Segment.block body).raw = (blockAt start body).raw.toList :=
    fun start body => String.toList_ofList.symm
  rw [replaceBlocks_eq_flatMap (fun s => rfl) hblock, flatMap_raw_segments]

/-- What a block leaves. -/
def Block.kept (context : Context) (block : Block) : List Char :=
  if block.condition.holds context then resolve context block.message.toList else []

/-- To resolve a text is to replace its blocks by what they leave. -/
theorem replaceBlocks_kept (context : Context) (template : String) :
    replaceBlocks (Block.kept context) template = resolve context template.toList := by
  have hblock : ∀ start body,
      (Segment.block body).resolve context = (blockAt start body).kept context := by
    intro start body
    rw [Segment.resolve, Block.kept, blockAt, String.toList_ofList]
  rw [replaceBlocks_eq_flatMap (fun s => rfl) hblock, resolve_eq_flatMap]

/-! ## Sizes of messages -/

/-- A block of a text is what stands between markers in it. -/
theorem exists_body_of_mem_blocksFrom {start : Nat} {parts : List Segment} {block : Block}
    (h : block ∈ blocksFrom start parts) :
    ∃ place body, .block body ∈ parts ∧ block = blockAt place body := by
  induction parts generalizing start with
  | nil => cases h
  | cons part parts ih =>
      cases part with
      | text s =>
          obtain ⟨place, body, hbody, rfl⟩ := ih h
          exact ⟨place, body, List.mem_cons_of_mem _ hbody, rfl⟩
      | block body =>
          rcases List.mem_cons.mp h with rfl | hrest
          · exact ⟨start, body, List.mem_cons_self, rfl⟩
          · obtain ⟨place, other, hother, rfl⟩ := ih hrest
            exact ⟨place, other, List.mem_cons_of_mem _ hother, rfl⟩

theorem byteSize_le_of_isInfix {s t : List Char} (h : s <:+: t) : byteSize s ≤ byteSize t := by
  obtain ⟨before, after, rfl⟩ := h
  rw [byteSize_append, byteSize_append]
  omega

/-- The message of a block takes at least four bytes less than the block, which takes no more
than the text around it. -/
theorem byteSize_message_add_four_le {template : String} {block : Block}
    (h : block ∈ blocks template) :
    block.message.utf8ByteSize + 4 ≤ block.raw.utf8ByteSize ∧
      block.raw.utf8ByteSize ≤ template.utf8ByteSize := by
  obtain ⟨place, body, hbody, rfl⟩ := exists_body_of_mem_blocksFrom h
  have hmessage := byteSize_le_of_isInfix (bodyMessage_isInfix body)
  have hraw := byteSize_le_of_isInfix (raw_isInfix_of_mem_segments hbody)
  have hmarkers : byteSize (Segment.block body).raw = 2 + (byteSize body + 2) := by
    have hwritten : (Segment.block body).raw = opening ++ (body ++ closing) := rfl
    rw [hwritten, byteSize_append, byteSize_append]
    rfl
  have htemplate : byteSize template.toList = template.utf8ByteSize := by
    rw [← utf8ByteSize_ofList, String.ofList_toList]
  simp only [blockAt, utf8ByteSize_ofList]
  omega

/-! ## A bound on the depth -/

/-- The text with its blocks resolved, if messages are in messages no deeper than a bound. -/
def resolveWithin? (context : Context) : Nat → String → Option (List Char)
  | 0, _ => none
  | depth + 1, template =>
    ((blocks template).mapM fun block : Block =>
      if block.condition.holds context then
        (resolveWithin? context depth block.message).map (Prod.mk block)
      else some (block, [])).map (splice template 0)

theorem mapM_eq_some_map {α β : Type} {f : α → Option β} {g : α → β} {xs : List α}
    (h : ∀ x ∈ xs, f x = some (g x)) : xs.mapM f = some (xs.map g) := by
  induction xs with
  | nil => rfl
  | cons x xs ih =>
      obtain ⟨hx, hxs⟩ := List.forall_mem_cons.mp h
      rw [List.mapM_cons, hx, ih hxs]
      rfl

/-- Every message in a message takes four bytes less, so that a quarter of the bytes of the
template is more than their depth. -/
theorem resolveWithin?_eq_some (context : Context) {depth : Nat} {template : String}
    (h : template.utf8ByteSize / 4 < depth) :
    resolveWithin? context depth template = some (resolve context template.toList) := by
  induction depth generalizing template with
  | zero => omega
  | succ depth ih =>
      rw [resolveWithin?, mapM_eq_some_map (g := fun block => (block, block.kept context)),
        Option.map_some, ← replaceBlocks_kept, replaceBlocks]
      intro block hblock
      rw [Block.kept]
      split
      · obtain ⟨hmessage, hraw⟩ := byteSize_message_add_four_le hblock
        have hquarter : block.message.utf8ByteSize / 4 < depth := by omega
        rw [ih hquarter, Option.map_some]
      · rfl

/-! ## The result -/

theorem kept_sublist_raw (context : Context) {template : String} {block : Block}
    (h : block ∈ blocks template) : (block.kept context).Sublist block.raw.toList := by
  obtain ⟨place, body, -, rfl⟩ := exists_body_of_mem_blocksFrom h
  rw [Block.kept]
  split
  · have hmessage := (bodyMessage_isInfix_raw body).sublist
    simp only [blockAt, String.toList_ofList]
    exact (resolve_sublist context _).trans hmessage
  · exact List.nil_sublist _

/-- **Resolving only deletes text, and comes to an end.**  Each message that is resolved takes
at least four bytes less than the text that it was found in, so that a quarter of the bytes of
the template bounds the depth of messages in messages.  What is left is found in the template
in the same order; outside of the outermost blocks it is the template, and what stands in the
place of a block is found in the block. -/
theorem resolve_onlyDeletes (context : Context) (template : String) :
    (∀ block ∈ blocks template,
        block.message.utf8ByteSize + 4 ≤ block.raw.utf8ByteSize ∧
          block.raw.utf8ByteSize ≤ template.utf8ByteSize) ∧
      (∀ depth, template.utf8ByteSize / 4 < depth →
        resolveWithin? context depth template = some (resolve context template.toList)) ∧
      (resolve context template.toList).Sublist template.toList ∧
      replaceBlocks (fun block => block.raw.toList) template = template.toList ∧
      replaceBlocks (Block.kept context) template = resolve context template.toList ∧
      ∀ block ∈ blocks template, (block.kept context).Sublist block.raw.toList :=
  ⟨fun _ hblock => byteSize_message_add_four_le hblock,
    fun _ hdepth => resolveWithin?_eq_some context hdepth,
    resolve_sublist context template.toList,
    replaceBlocks_raw template,
    replaceBlocks_kept context template,
    fun _ hblock => kept_sublist_raw context hblock⟩

/-- A marker in a literal counts when the block is closed, but is no part of the message, where
the marker that closes it is left over as text. -/
example :
    resolve ⟨[("x", .string "(?")]⟩ "a (?x=='(?' b?) ?) c (?".toList = "a  b?) c (?".toList := by
  cbv

end ValueAssertions.Template
