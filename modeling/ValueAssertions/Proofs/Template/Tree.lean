import ValueAssertions.Proofs.Template.Written
import ValueAssertions.Template.Rendering

/-!
# Template trees

A template is written as a list of trees: text, and blocks of an expression and of
more trees.  `printAll` is the text that is written, and `denoteAll` what is meant by
it in a context: text stands for itself, a block for what its trees mean if its
expression holds, and for nothing otherwise.

The text says where blocks begin and end, and inside a block where the expression
ends, only if no two texts stand next to each other and what surrounds the trees of
a block does not run into them.  `WellFormed` asks for that, at every depth.

* `segments_printAll`: the segments of a printed list are its trees, one by one.
* `bodyExpression_append` and `bodyMessage_append`: what stands between the markers
  of a printed block is its expression and its printed trees.
* `reads_printAll`: the blocks of a printed list are its topmost blocks, and to
  resolve it is to take what is meant.

The first goes by the recursion on well-formed lists, for which the scan has to pass
over a whole printed list (`passes_printAll`).
-/

namespace ValueAssertions.Template

/-! ## Trees -/

/-- A tree of a template. -/
inductive Node where
  /-- Text outside of markers. -/
  | text (s : List Char)
  /-- A block with an expression and the trees after it. -/
  | block (expression : WrittenExpression) (inner : List Node)

mutual

/-- The text of a tree. -/
def Node.print : Node → List Char
  | .text s => s
  | .block expression inner => opening ++ (expression.print ++ printAll inner) ++ closing

/-- The text of trees. -/
def printAll : List Node → List Char
  | [] => []
  | node :: rest => node.print ++ printAll rest

end

mutual

/-- What a tree means in a context. -/
def Node.denote (context : Context) : Node → List Char
  | .text s => s
  | .block expression inner =>
    if expression.denote.holds context then denoteAll context inner else []

/-- What trees mean in a context. -/
def denoteAll (context : Context) : List Node → List Char
  | [] => []
  | node :: rest => node.denote context ++ denoteAll context rest

end

/-- The topmost blocks of trees that are printed from a byte on. -/
def topBlocks (start : Nat) : List Node → List Block
  | [] => []
  | .text s :: rest => topBlocks (start + byteSize s) rest
  | .block expression inner :: rest =>
    let raw := (Node.block expression inner).print
    let stop := start + byteSize raw
    { raw := String.ofList raw
      start
      stop
      condition := expression.denote
      message := String.ofList (printAll inner) } :: topBlocks stop rest

/-- Trees do not begin with a text. -/
def NoTextFirst (trees : List Node) : Prop :=
  ∀ s rest, trees ≠ .text s :: rest

/-- What stands around the trees of a block does not run into them. -/
structure Encloses (expression : WrittenExpression) (inner : List Node) : Prop where
  /-- Trees begin with a text whose first character is a blank. -/
  blank_first : inner = [] ∨ ∃ c s rest, inner = .text (c :: s) :: rest ∧ isBlank c = true
  /-- The last character is no blank. -/
  not_blank_last : ∀ c ∈ (printAll inner).getLast?, isBlank c = false
  /-- A text that comes last makes no marker with the one that closes the block. -/
  not_opening_last : ∀ s, inner.getLast? = some (.text s) → s.getLast? ≠ some '('
  /-- A bare name is not followed by a comparison. -/
  ends : expression.Ends (printAll inner)

/-- Trees that can be told apart when they are printed. -/
inductive WellFormed : List Node → Prop
  | nil : WellFormed []
  | text {s : List Char} {rest : List Node} (hne : s ≠ []) (hs : Unmarked s)
      (hfirst : NoTextFirst rest) (hrest : WellFormed rest) : WellFormed (.text s :: rest)
  | block {expression : WrittenExpression} {inner rest : List Node}
      (hexpression : expression.Valid) (hencloses : Encloses expression inner)
      (hinner : WellFormed inner) (hrest : WellFormed rest) :
      WellFormed (.block expression inner :: rest)

/-! ## Scanning -/

/-- A text at the end of trees makes no marker with what follows them. -/
def NoMarkerAfter (trees : List Node) (t : List Char) : Prop :=
  ∀ s, trees.getLast? = some (.text s) → NoMarkerAcross s t

theorem NoMarkerAfter.tail {node : Node} {rest : List Node} {t : List Char}
    (h : NoMarkerAfter (node :: rest) t) : NoMarkerAfter rest t := by
  intro s hs
  refine h s ?_
  cases rest with
  | nil => cases hs
  | cons next rest => rwa [List.getLast?_cons_cons]

/-- A text makes no marker with the trees after it. -/
theorem noMarkerAcross_printAll {s t : List Char} {rest : List Node} (hfirst : NoTextFirst rest)
    (hafter : NoMarkerAfter (.text s :: rest) t) : NoMarkerAcross s (printAll rest ++ t) := by
  cases rest with
  | nil => exact hafter s rfl
  | cons node rest =>
      cases node with
      | text s' => exact absurd rfl (hfirst s' rest)
      | block expression inner =>
          -- A block begins with a parenthesis, with which no marker ends.
          intro a _ b hb
          rw [printAll, Node.print, opening] at hb
          cases hb
          exact ⟨by simp, by simp⟩

/-- The trees of a block make no marker with the one that closes it. -/
theorem Encloses.noMarkerAfter {expression : WrittenExpression} {inner : List Node}
    (h : Encloses expression inner) (after : List Char) :
    NoMarkerAfter inner (closing ++ after) := by
  intro s hs a ha b hb
  cases hb
  refine ⟨?_, by simp⟩
  rintro ⟨rfl, -⟩
  exact h.not_opening_last s hs ha

/-- The scan for markers passes over printed trees. -/
theorem passes_printAll {trees : List Node} (h : WellFormed trees) {t : List Char}
    (hafter : NoMarkerAfter trees t) : Passes (printAll trees) t := by
  induction h generalizing t with
  | nil => exact passes_nil t
  | @text s rest _ hs hfirst _ ih =>
      rw [printAll, Node.print]
      exact (passes_of_unmarked hs (noMarkerAcross_printAll hfirst hafter)).append
        (ih hafter.tail)
  | @block expression inner rest hexpression hencloses _ _ ihinner ihrest =>
      rw [printAll, Node.print]
      have hbody : Passes (expression.print ++ printAll inner)
          (closing ++ (printAll rest ++ t)) :=
        (WrittenExpression.passes_print hexpression _).append
          (ihinner (hencloses.noMarkerAfter _))
      exact hbody.block.append (ihrest hafter.tail)

/-- The segment of a printed tree. -/
def Node.segment : Node → Segment
  | .text s => .text s
  | .block expression inner => .block (expression.print ++ printAll inner)

theorem Node.raw_segment (node : Node) : node.segment.raw = node.print := by
  cases node with
  | text s => rfl
  | block expression inner =>
      rw [Node.segment, Segment.raw, Node.print]
      simp [opening, closing]

/-- The segments of printed trees are the trees. -/
theorem segments_printAll {trees : List Node} (h : WellFormed trees) :
    segments (printAll trees) = trees.map Node.segment := by
  induction h with
  | nil =>
      rw [printAll, segments]
      rfl
  | @text s rest hne hs hfirst _ ih =>
      have hacross : NoMarkerAcross s (printAll rest) := by
        have := noMarkerAcross_printAll (t := []) (s := s) hfirst fun _ _ _ _ _ hb => by cases hb
        rwa [List.append_nil] at this
      -- Two texts in a row would be one segment, but no text comes next.
      have hstart : ¬ StartsWithText (segments (printAll rest)) := by
        rw [ih]
        rintro ⟨s', others, heq⟩
        cases rest with
        | nil => cases heq
        | cons node rest =>
            cases node with
            | text t => exact hfirst t rest rfl
            | block expression inner => cases heq
      rw [printAll, Node.print, segments_text hne hs hacross hstart, ih]
      rfl
  | @block expression inner rest hexpression hencloses hinner _ _ ih =>
      have hbody : Passes (expression.print ++ printAll inner) (closing ++ printAll rest) :=
        (WrittenExpression.passes_print hexpression _).append
          (passes_printAll hinner (hencloses.noMarkerAfter _))
      rw [printAll, Node.print, segments_block hbody, ih]
      rfl

/-! ## Bodies -/

theorem Encloses.isBlank_head? {expression : WrittenExpression} {inner : List Node}
    (h : Encloses expression inner) : ∀ c ∈ (printAll inner).head?, isBlank c = true := by
  rcases h.blank_first with rfl | ⟨c, s, rest, rfl, hc⟩
  · nofun
  · rintro d hd
    cases hd
    exact hc

/-- The expression of a printed block is the one that is denoted. -/
theorem bodyExpression_append {expression : WrittenExpression} {inner : List Node}
    (hexpression : expression.Valid) (hencloses : Encloses expression inner) :
    bodyExpression (expression.print ++ printAll inner) = expression.denote := by
  rw [bodyExpression, WrittenExpression.splitBody_print hexpression hencloses.isBlank_head?
    hencloses.ends]
  exact WrittenExpression.read_print hexpression

/-- The message of a printed block is made of its trees. -/
theorem bodyMessage_append {expression : WrittenExpression} {inner : List Node}
    (hexpression : expression.Valid) (hencloses : Encloses expression inner) :
    bodyMessage (expression.print ++ printAll inner) = printAll inner := by
  rw [bodyMessage, WrittenExpression.splitBody_print hexpression hencloses.isBlank_head?
    hencloses.ends]
  exact trimEnd_eq_self hencloses.not_blank_last

/-- The blocks among the segments of trees are the topmost blocks. -/
theorem blocksFrom_map_segment {trees : List Node} (h : WellFormed trees) (start : Nat) :
    blocksFrom start (trees.map Node.segment) = topBlocks start trees := by
  induction h generalizing start with
  | nil => rfl
  | text _ _ _ _ ih => exact ih _
  | @block expression inner rest hexpression hencloses _ _ _ ih =>
      have hraw := Node.raw_segment (.block expression inner)
      rw [Node.segment] at hraw
      rw [List.map_cons, Node.segment, blocksFrom, topBlocks, hraw, ih,
        bodyExpression_append hexpression hencloses, bodyMessage_append hexpression hencloses]

/-! ## Resolving -/

/-- What a segment leaves when it is resolved. -/
def Segment.resolve (context : Context) : Segment → List Char
  | .text t => t
  | .block body =>
    if (bodyExpression body).holds context then Template.resolve context (bodyMessage body)
    else []

theorem resolve_eq_flatMap (context : Context) (s : List Char) :
    Template.resolve context s = (segments s).flatMap (Segment.resolve context) := by
  rw [Template.resolve, List.flatMap_subtype (g := Segment.resolve context),
    List.unattach_attach]
  rintro (t | body) _ <;> rfl

/-- Resolving printed trees gives what is meant by them. -/
theorem resolve_printAll {trees : List Node} (h : WellFormed trees) (context : Context) :
    Template.resolve context (printAll trees) = denoteAll context trees := by
  rw [resolve_eq_flatMap, segments_printAll h]
  induction h with
  | nil => rfl
  | text _ _ _ _ ih =>
      rw [List.map_cons, List.flatMap_cons, ih]
      rfl
  | @block expression inner rest hexpression hencloses hinner _ ihinner ihrest =>
      rw [← segments_printAll hinner, ← resolve_eq_flatMap] at ihinner
      rw [List.map_cons, List.flatMap_cons, ihrest, Node.segment, Segment.resolve,
        bodyExpression_append hexpression hencloses, bodyMessage_append hexpression hencloses,
        ihinner, denoteAll, Node.denote]

/-- **Printed trees are read back.** -/
theorem reads_printAll {trees : List Node} (h : WellFormed trees) :
    blocks (String.ofList (printAll trees)) = topBlocks 0 trees ∧
      ∀ context, Template.resolve context (printAll trees) = denoteAll context trees := by
  constructor
  · rw [blocks, String.toList_ofList, segments_printAll h]
    exact blocksFrom_map_segment h 0
  · exact resolve_printAll h

/-- A block in a block, with a comparison that is not spaced evenly. -/
def blockInBlock : List Node :=
  [.text "Length(".toList,
    .block (.bare "value".toList)
      [.text " is short (".toList,
        .block (.comparison "actual.length".toList [] .lte [' ']
          (.decimal (some true) "1".toList (some "50".toList))) [],
        .text ") here".toList],
    .text ")".toList]

/-- `Length((?value is short ((?actual.length<= -1.50?)) here?))` is read back. -/
theorem blockInBlock_reads :
    WellFormed blockInBlock ∧
      String.ofList (printAll blockInBlock) =
        "Length((?value is short ((?actual.length<= -1.50?)) here?))" ∧
      blocks (String.ofList (printAll blockInBlock)) = topBlocks 0 blockInBlock ∧
      ∀ context, Template.resolve context (printAll blockInBlock) =
        denoteAll context blockInBlock := by
  have hwell : WellFormed blockInBlock := by
    have hinner : Encloses (.comparison "actual.length".toList [] .lte [' ']
        (.decimal (some true) "1".toList (some "50".toList))) [] :=
      ⟨.inl rfl, nofun, nofun, trivial⟩
    refine .text (by decide) (by decide) nofun (.block ?_ ?_ ?_ ?_)
    · exact ⟨by decide, List.all_eq_true.mp (by decide)⟩
    · refine ⟨.inr ⟨_, _, _, rfl, rfl⟩, ?_, ?_, by decide⟩
      · rintro _ ⟨⟩
        decide
      · rintro _ ⟨⟩
        decide
    · refine .text (by decide) (by decide) nofun (.block ?_ hinner .nil ?_)
      · refine ⟨⟨by decide, List.all_eq_true.mp (by decide)⟩, nofun, by decide,
          List.all_eq_true.mp (by decide), ⟨by decide, List.all_eq_true.mp (by decide)⟩, ?_⟩
        rintro _ ⟨⟩
        exact ⟨by decide, List.all_eq_true.mp (by decide)⟩
      · exact .text (by decide) (by decide) nofun .nil
    · exact .text (by decide) (by decide) nofun .nil
  exact ⟨hwell, by decide, reads_printAll hwell⟩

end ValueAssertions.Template
