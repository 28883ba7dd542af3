import ValueAssertions.Proofs.Template.Piece
import ValueAssertions.Proofs.Template.Tree
import Mathlib.Data.List.Flatten

/-!
# The structure of messages

What a message is made of is settled by its template and by which blocks are kept.  The
values of tokens are filled in at the end and are not looked into: in two contexts with
the same names of tokens, in which the same blocks are kept, one list of pieces gives
both messages (`exists_pieces_render`).

## Strategy

Resolving looks at a context through the expressions of the blocks that it meets (`Met`),
so that two contexts that agree on these leave one text (`resolve_congr`).  In a template
that is written from trees these are the expressions of the trees
(`exists_expression_of_met`), so that there the agreement can be checked.  What is left
is put together from parts of the template (`madeOf_resolve`), in their order there
(`resolve_sublist`).  The text is cut at the placeholders, which depend on the names of
tokens only, and once more where its parts meet (`exists_parts_of_madeOf`).

The facts about resolving go by induction on a text from its blocks to their messages
(`message_induction`).
-/

namespace ValueAssertions.Template

/-! ## Blocks and their messages -/

theorem flatMap_raw_consText (c : Char) (rest : List Segment) :
    (consText c rest).flatMap Segment.raw = c :: rest.flatMap Segment.raw := by
  unfold consText
  split <;> simp [Segment.raw]

/-- The segments of a text make up the text. -/
theorem flatMap_raw_segments (s : List Char) : (segments s).flatMap Segment.raw = s := by
  induction s using segments.induct with
  | case1 => simp [segments]
  | case2 rest body after hsplit ih =>
      rw [segments, hsplit]
      simp [Segment.raw, ih, splitAtClose?_eq_some hsplit]
  | case3 rest hsplit =>
      rw [segments, hsplit]
      simp [Segment.raw]
  | case4 c rest hopens ih =>
      rw [segments, flatMap_raw_consText, ih]
      exact hopens

theorem raw_isInfix_of_mem_segments {segment : Segment} {s : List Char}
    (h : segment ∈ segments s) : segment.raw <:+: s := by
  have hraw := List.infix_of_mem_flatten (List.mem_map_of_mem (f := Segment.raw) h)
  rwa [← List.flatMap_def, flatMap_raw_segments] at hraw

theorem trimEnd_isPrefix (s : List Char) : trimEnd s <+: s := by
  induction s with
  | nil => exact List.nil_prefix
  | cons c rest ih =>
      rw [trimEnd]
      split
      · split
        · exact List.nil_prefix
        · exact ⟨rest, rfl⟩
      · exact List.prefix_cons_inj c |>.mpr ih

theorem splitBody_message_isSuffix (body : List Char) : (splitBody body).2 <:+ body := by
  have htrim : trimStart body <:+ body := List.dropWhile_suffix isBlank
  unfold splitBody
  dsimp only
  split <;> exact (List.drop_suffix _ _).trans htrim

theorem bodyMessage_isInfix (body : List Char) : bodyMessage body <:+: body :=
  (trimEnd_isPrefix _).isInfix.trans (splitBody_message_isSuffix body).isInfix

/-- The message of a block is a part of what the block is written as. -/
theorem bodyMessage_isInfix_raw (body : List Char) :
    bodyMessage body <:+: (Segment.block body).raw :=
  (bodyMessage_isInfix body).trans ⟨['(', '?'], ['?', ')'], by simp [Segment.raw]⟩

/-- Induction on a text, in which one may assume the property for the messages of its
blocks. -/
@[elab_as_elim]
theorem message_induction {motive : List Char → Prop}
    (step : ∀ s, (∀ body, .block body ∈ segments s → motive (bodyMessage body)) → motive s)
    (s : List Char) : motive s := by
  induction hlength : s.length using Nat.strong_induction_on generalizing s with
  | _ n ih =>
      refine step s fun body hbody => ih _ ?_ _ rfl
      have := bodyMessage_length_add_four_le hbody
      omega

/-! ## Resolving -/

/-- The blocks that are met when a text is resolved: its own, and those that are met in
the messages that are kept. -/
inductive Met (context : Context) : List Char → List Char → Prop
  | own {s body : List Char} (h : .block body ∈ segments s) : Met context s body
  | kept {s body inner : List Char} (h : .block body ∈ segments s)
      (hholds : (bodyExpression body).holds context = true)
      (hinner : Met context (bodyMessage body) inner) : Met context s inner

/-- Contexts that agree on the blocks that are met leave one text. -/
theorem resolve_congr {c d : Context} {s : List Char}
    (h : ∀ body, Met c s body → (bodyExpression body).holds c = (bodyExpression body).holds d) :
    resolve c s = resolve d s := by
  induction s using message_induction with
  | step s ih =>
      rw [resolve_eq_flatMap, resolve_eq_flatMap]
      refine List.flatMap_congr fun segment hmem => ?_
      cases segment with
      | text t => rfl
      | block body =>
          rw [Segment.resolve, Segment.resolve, ← h body (.own hmem)]
          split
          · next hholds => exact ih body hmem fun inner hinner => h inner (.kept hmem hholds hinner)
          · rfl

mutual

/-- The expressions of a tree, at every depth. -/
def Node.expressions : Node → List WrittenExpression
  | .text _ => []
  | .block expression inner => expression :: expressionsAll inner

/-- The expressions of trees, at every depth. -/
def expressionsAll : List Node → List WrittenExpression
  | [] => []
  | node :: rest => node.expressions ++ expressionsAll rest

end

/-- The blocks that are met in printed trees have the expressions of the trees. -/
theorem exists_expression_of_met {trees : List Node} (h : WellFormed trees) {context : Context}
    {body : List Char} (hmet : Met context (printAll trees) body) :
    ∃ expression ∈ expressionsAll trees, bodyExpression body = expression.denote := by
  induction h generalizing body with
  | nil =>
      cases hmet <;> simp_all [printAll, segments]
  | @text s rest hne hs hfirst hrest ih =>
      have hblock : ∀ {inner : List Char}, .block inner ∈ segments (printAll (.text s :: rest)) →
          .block inner ∈ segments (printAll rest) := by
        intro inner hinner
        rw [segments_printAll (.text hne hs hfirst hrest), List.map_cons, Node.segment] at hinner
        rw [segments_printAll hrest]
        simpa using hinner
      have hmet : Met context (printAll rest) body := by
        cases hmet with
        | own hbody => exact .own (hblock hbody)
        | kept hbody hholds hinner => exact .kept (hblock hbody) hholds hinner
      exact ih hmet
  | @block expression inner rest hexpression hencloses hinner hrest ihinner ihrest =>
      have hblock : ∀ {other : List Char},
          .block other ∈ segments (printAll (.block expression inner :: rest)) →
          other = expression.print ++ printAll inner ∨ .block other ∈ segments (printAll rest) := by
        intro other hother
        rw [segments_printAll (.block hexpression hencloses hinner hrest), List.map_cons] at hother
        rw [segments_printAll hrest]
        rcases List.mem_cons.mp hother with heq | hother
        · exact .inl (Segment.block.inj heq)
        · exact .inr hother
      rw [expressionsAll, Node.expressions]
      cases hmet with
      | own hbody =>
          rcases hblock hbody with rfl | hbody
          · exact ⟨expression, by simp, bodyExpression_append hexpression hencloses⟩
          · obtain ⟨other, hother, heq⟩ := ihrest (.own hbody)
            exact ⟨other, by simp [hother], heq⟩
      | kept hbody hholds hmet =>
          rcases hblock hbody with rfl | hbody
          · rw [bodyMessage_append hexpression hencloses] at hmet
            obtain ⟨other, hother, heq⟩ := ihinner hmet
            exact ⟨other, by simp [hother], heq⟩
          · obtain ⟨other, hother, heq⟩ := ihrest (.kept hbody hholds hmet)
            exact ⟨other, by simp [hother], heq⟩

/-- What is left is found in the template, in the same order. -/
theorem resolve_sublist (context : Context) (s : List Char) :
    (resolve context s).Sublist s := by
  induction s using message_induction with
  | step s ih =>
      rw [resolve_eq_flatMap]
      conv => rhs; rw [← flatMap_raw_segments s]
      refine List.Sublist.flatMap_right _ fun segment hmem => ?_
      cases segment with
      | text t => exact List.Sublist.refl t
      | block body =>
          rw [Segment.resolve]
          split
          · exact (ih body hmem).trans (bodyMessage_isInfix_raw body).sublist
          · exact List.nil_sublist _

/-! ## Parts of a text -/

/-- A text is put together from parts of another one. -/
def MadeOf (whole s : List Char) : Prop :=
  ∃ parts : List (List Char), parts.flatten = s ∧ ∀ part ∈ parts, part <:+: whole

namespace MadeOf

variable {whole s t : List Char}

theorem nil : MadeOf whole [] :=
  ⟨[], rfl, nofun⟩

theorem of_isInfix (h : s <:+: whole) : MadeOf whole s :=
  ⟨[s], by simp, by simpa using h⟩

theorem append (hs : MadeOf whole s) (ht : MadeOf whole t) : MadeOf whole (s ++ t) := by
  obtain ⟨parts, rfl, hparts⟩ := hs
  obtain ⟨others, rfl, hothers⟩ := ht
  exact ⟨parts ++ others, List.flatten_append, List.forall_mem_append.mpr ⟨hparts, hothers⟩⟩

theorem mono {larger : List Char} (hs : MadeOf whole s) (h : whole <:+: larger) :
    MadeOf larger s := by
  obtain ⟨parts, hflatten, hparts⟩ := hs
  exact ⟨parts, hflatten, fun part hpart => (hparts part hpart).trans h⟩

theorem flatMap {α : Type} {l : List α} {f : α → List Char} (h : ∀ a ∈ l, MadeOf whole (f a)) :
    MadeOf whole (l.flatMap f) := by
  induction l with
  | nil => exact nil
  | cons a l ih =>
      obtain ⟨ha, hl⟩ := List.forall_mem_cons.mp h
      exact ha.append (ih hl)

/-- Where a text is cut, so is the part that the cut goes through. -/
theorem of_append (h : MadeOf whole (s ++ t)) : MadeOf whole s ∧ MadeOf whole t := by
  obtain ⟨parts, hflatten, hparts⟩ := h
  -- The cut falls between two parts, or goes through one and leaves two smaller ones.
  rcases List.flatten_eq_append_iff.mp hflatten with
    ⟨before, after, rfl, rfl, rfl⟩ | ⟨before, first, c, last, after, rfl, rfl, rfl⟩
  · obtain ⟨hbefore, hafter⟩ := List.forall_mem_append.mp hparts
    exact ⟨⟨before, rfl, hbefore⟩, ⟨after, rfl, hafter⟩⟩
  · obtain ⟨hbefore, hcut⟩ := List.forall_mem_append.mp hparts
    obtain ⟨hpart, hafter⟩ := List.forall_mem_cons.mp hcut
    have hfirst : MadeOf whole first := of_isInfix ((List.infix_append' [] _ _).trans hpart)
    have hlast : MadeOf whole (c :: last) :=
      of_isInfix ((List.suffix_append first (c :: last)).isInfix.trans hpart)
    exact ⟨append ⟨before, rfl, hbefore⟩ hfirst, hlast.append ⟨after, rfl, hafter⟩⟩

theorem part (h : MadeOf whole s) (ht : t <:+: s) : MadeOf whole t := by
  obtain ⟨before, after, rfl⟩ := ht
  exact h.of_append.1.of_append.2

end MadeOf

/-- What is left is put together from parts of the template. -/
theorem madeOf_resolve (context : Context) (s : List Char) : MadeOf s (resolve context s) := by
  induction s using message_induction with
  | step s ih =>
      rw [resolve_eq_flatMap]
      refine MadeOf.flatMap fun segment hmem => ?_
      have hraw := raw_isInfix_of_mem_segments hmem
      cases segment with
      | text t => exact .of_isInfix hraw
      | block body =>
          rw [Segment.resolve]
          split
          · exact (ih body hmem).mono ((bodyMessage_isInfix_raw body).trans hraw)
          · exact .nil

/-! ## Finer pieces -/

theorem fills_texts (context : Context) (parts : List (List Char)) :
    Fills context (parts.map Piece.text) parts.flatten := by
  induction parts with
  | nil => exact .nil
  | cons part parts ih => exact .text ih

/-- Pieces whose texts are put together from parts can be cut into these parts. -/
theorem exists_parts_of_madeOf {whole : List Char} {ps : List Piece}
    (h : ∀ s, .text s ∈ ps → MadeOf whole s) :
    ∃ qs : List Piece, (∀ s, .text s ∈ qs → s <:+: whole) ∧
      qs.flatMap Piece.print = ps.flatMap Piece.print ∧
      ∀ context t, Fills context ps t → Fills context qs t := by
  induction ps with
  | nil => exact ⟨[], nofun, rfl, fun _ _ ht => ht⟩
  | cons p rest ih =>
      obtain ⟨qs, hinfix, hprint, hfills⟩ := ih fun s hs => h s (List.mem_cons_of_mem p hs)
      cases p with
      | text s =>
          obtain ⟨parts, rfl, hparts⟩ := h s List.mem_cons_self
          refine ⟨parts.map Piece.text ++ qs, fun s hs => ?_, ?_, fun context t ht => ?_⟩
          · rcases List.mem_append.mp hs with hs | hs
            · obtain ⟨part, hpart, heq⟩ := List.mem_map.mp hs
              cases heq
              exact hparts s hpart
            · exact hinfix s hs
          · have htexts : (parts.map Piece.text).flatMap Piece.print = parts.flatten := by
              rw [List.flatMap_map, List.flatMap_def]
              exact congrArg List.flatten (List.map_id parts)
            rw [List.flatMap_append, htexts, hprint, List.flatMap_cons]
            rfl
          · cases ht with
            | text hrest => exact (fills_texts context parts).append (hfills context _ hrest)
      | placeholder name =>
          refine ⟨.placeholder name :: qs, fun s hs => ?_, ?_, fun context t ht => ?_⟩
          · rcases List.mem_cons.mp hs with heq | hs
            · cases heq
            · exact hinfix s hs
          · rw [List.flatMap_cons, List.flatMap_cons, hprint]
          · cases ht with
            | placeholder hname hrest => exact .placeholder hname (hfills context _ hrest)

/-- **Values do not change the structure of a message.**  In contexts with the same names
of tokens that agree on the blocks that are met, one list of pieces gives both messages.
Its texts are parts of the template, and written one after another the pieces are found
in it in this order. -/
theorem exists_pieces_render {template : String} {c d : Context}
    (hnames : ∀ name, c.contains name = d.contains name)
    (hblocks : ∀ body, Met c template.toList body →
      (bodyExpression body).holds c = (bodyExpression body).holds d) :
    ∃ ps : List Piece, (∀ s, .text s ∈ ps → s <:+: template.toList) ∧
      (ps.flatMap Piece.print).Sublist template.toList ∧
      Fills c ps (render template c).toList ∧ Fills d ps (render template d).toList := by
  have hresolves : (fun name => (expansion? c name).isSome) =
      fun name => (expansion? d name).isSome := by
    funext name
    rw [isSome_expansion?, isSome_expansion?, hnames]
  have hrenderC := fills_substitute c (resolve c template.toList)
  have hrenderD := fills_substitute d (resolve d template.toList)
  rw [← resolve_congr hblocks, ← hresolves] at hrenderD
  have hprint := flatMap_print_pieces (fun name => (expansion? c name).isSome)
    (resolve c template.toList)
  -- A piece of text may run over several parts of the template, where a block was left out
  -- or lost its signs.
  generalize pieces _ (resolve c template.toList) = cut at hrenderC hrenderD hprint
  have hmade : ∀ s, .text s ∈ cut → MadeOf template.toList s := by
    intro s hs
    have hinfix : s <:+: cut.flatMap Piece.print := by
      rw [List.flatMap_def]
      exact List.infix_of_mem_flatten (List.mem_map_of_mem (f := Piece.print) hs)
    rw [hprint] at hinfix
    exact (madeOf_resolve c template.toList).part hinfix
  obtain ⟨ps, hinfix, hwritten, hfills⟩ := exists_parts_of_madeOf hmade
  refine ⟨ps, hinfix, ?_, ?_, ?_⟩
  · rw [hwritten, hprint]
    exact resolve_sublist c template.toList
  · rw [render, String.toList_ofList]
    exact hfills c _ hrenderC
  · rw [render, String.toList_ofList, ← resolve_congr hblocks]
    exact hfills d _ hrenderD

/-- What follows `got` in a greeting. -/
def gift : List Node :=
  [.text " got %value%".toList, .block (.bare "loud".toList) [.text " loudly".toList]]

/-- A greeting with a block in a block. -/
def greeting : List Node :=
  [.text "%who%:".toList, .block (.bare "kept".toList) gift]

/-- Tokens that look like templates. -/
def hostileTokens : Context :=
  ⟨[("who", .string "%value% (?kept %who%?)"), ("value", .string "?)%who%"),
    ("kept", .bool true), ("loud", .string "")]⟩

/-- Tokens that do not. -/
def plainTokens : Context :=
  ⟨[("who", .string "you"), ("value", .array [.null]), ("kept", .string "yes"),
    ("loud", .undefined)]⟩

theorem greeting_pieces :
    (∀ name, hostileTokens.contains name = plainTokens.contains name) ∧
      (∀ body, Met hostileTokens "%who%:(?kept got %value%(?loud loudly?)?)".toList body →
        (bodyExpression body).holds hostileTokens = (bodyExpression body).holds plainTokens) ∧
      ∃ ps : List Piece,
        (∀ s, .text s ∈ ps → s <:+: "%who%:(?kept got %value%(?loud loudly?)?)".toList) ∧
        (ps.flatMap Piece.print).Sublist "%who%:(?kept got %value%(?loud loudly?)?)".toList ∧
        Fills hostileTokens ps
          (render "%who%:(?kept got %value%(?loud loudly?)?)" hostileTokens).toList ∧
        Fills plainTokens ps
          (render "%who%:(?kept got %value%(?loud loudly?)?)" plainTokens).toList := by
  have hnames : ∀ name, hostileTokens.contains name = plainTokens.contains name := by
    intro name
    simp only [Context.contains, Context.get?, hostileTokens, plainTokens, lookup?]
    split_ifs <;> rfl
  have hloudly : Encloses (.bare "loud".toList) [.text " loudly".toList] := by
    refine ⟨.inr ⟨_, _, _, rfl, rfl⟩, ?_, ?_, by decide⟩
    · rintro _ ⟨⟩
      decide
    · rintro _ ⟨⟩
      decide
  have hgot : Encloses (.bare "kept".toList) gift := by
    refine ⟨.inr ⟨_, _, _, rfl, rfl⟩, ?_, nofun, by decide⟩
    rintro _ ⟨⟩
    decide
  have hkept : (WrittenExpression.bare "kept".toList).Valid :=
    ⟨by decide, List.all_eq_true.mp (by decide)⟩
  have hloud : (WrittenExpression.bare "loud".toList).Valid :=
    ⟨by decide, List.all_eq_true.mp (by decide)⟩
  have htext : WellFormed [.text " loudly".toList] :=
    .text (by decide) (by decide) nofun .nil
  have hgift : WellFormed gift :=
    .text (by decide) (by decide) nofun (.block hloud hloudly htext .nil)
  have hgreeting : WellFormed greeting :=
    .text (by decide) (by decide) nofun (.block hkept hgot hgift .nil)
  have hprint : "%who%:(?kept got %value%(?loud loudly?)?)".toList = printAll greeting := by
    decide
  have hblocks : ∀ body,
      Met hostileTokens "%who%:(?kept got %value%(?loud loudly?)?)".toList body →
        (bodyExpression body).holds hostileTokens = (bodyExpression body).holds plainTokens := by
    intro body hmet
    rw [hprint] at hmet
    obtain ⟨expression, hmem, heq⟩ := exists_expression_of_met hgreeting hmet
    have hexpression : expression = .bare "kept".toList ∨ expression = .bare "loud".toList := by
      simpa [greeting, gift, expressionsAll, Node.expressions] using hmem
    rcases hexpression with rfl | rfl
    · rw [heq]
      rfl
    · rw [heq]
      rfl
  exact ⟨hnames, hblocks, exists_pieces_render hnames hblocks⟩

end ValueAssertions.Template
