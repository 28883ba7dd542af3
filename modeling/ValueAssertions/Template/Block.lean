import ValueAssertions.Template.Expression

/-!
# Blocks of a template

A block is `(?`, an expression, a message, and `?)`.  Blocks nest, and a template
is a row of segments: outermost blocks, and the text between them.  A marker that
has no partner is text, and so is everything after an opening marker that is never
closed.

The expression of a block ends after a name, or after the literal if a comparison
follows the name.  The rest is the message, without the blanks at its end; blocks
inside it stay as they are written.
-/

namespace ValueAssertions.Template

/-- A part of a template. -/
inductive Segment where
  /-- Text outside of blocks. -/
  | text (s : List Char)
  /-- An outermost block, given by what stands between its markers. -/
  | block (body : List Char)
deriving DecidableEq

/-- The text that a segment was made from. -/
def Segment.raw : Segment → List Char
  | .text s => s
  | .block body => '(' :: '?' :: (body ++ ['?', ')'])

/-- The texts before and after the marker that closes a block, given how many
blocks have been opened inside it. -/
def splitAtClose? : Nat → List Char → Option (List Char × List Char)
  | _, [] => none
  | depth, '(' :: '?' :: rest =>
    (splitAtClose? (depth + 1) rest).map fun (body, after) => ('(' :: '?' :: body, after)
  | 0, '?' :: ')' :: rest => some ([], rest)
  | depth + 1, '?' :: ')' :: rest =>
    (splitAtClose? depth rest).map fun (body, after) => ('?' :: ')' :: body, after)
  | depth, c :: rest =>
    (splitAtClose? depth rest).map fun (body, after) => (c :: body, after)

/-- What stands before and after the closing marker makes up the text. -/
theorem splitAtClose?_eq_some {depth : Nat} {s body after : List Char}
    (h : splitAtClose? depth s = some (body, after)) : s = body ++ '?' :: ')' :: after := by
  induction depth, s using splitAtClose?.induct generalizing body after with
  | case1 depth => simp [splitAtClose?] at h
  | case2 depth rest ih =>
    simp only [splitAtClose?, Option.map_eq_some_iff, Prod.mk.injEq] at h
    obtain ⟨⟨b, a⟩, hsplit, rfl, rfl⟩ := h
    simp [ih hsplit]
  | case3 rest =>
    simp only [splitAtClose?, Option.some.injEq, Prod.mk.injEq] at h
    obtain ⟨rfl, rfl⟩ := h
    rfl
  | case4 depth rest ih =>
    simp only [splitAtClose?, Option.map_eq_some_iff, Prod.mk.injEq] at h
    obtain ⟨⟨b, a⟩, hsplit, rfl, rfl⟩ := h
    simp [ih hsplit]
  | case5 depth c rest h1 h2 h3 ih =>
    rw [splitAtClose?] at h
    · simp only [Option.map_eq_some_iff, Prod.mk.injEq] at h
      obtain ⟨⟨b, a⟩, hsplit, rfl, rfl⟩ := h
      simp [ih hsplit]
    · exact h1
    · exact h2
    · exact h3

/-- Puts a character in front of segments, as text. -/
def consText (c : Char) : List Segment → List Segment
  | .text s :: rest => .text (c :: s) :: rest
  | segments => .text [c] :: segments

/-- The segments of a template. -/
def segments : List Char → List Segment
  | [] => []
  | '(' :: '?' :: rest =>
    match _h : splitAtClose? 0 rest with
    | some (body, after) => .block body :: segments after
    | none => [.text ('(' :: '?' :: rest)]
  | c :: rest => consText c (segments rest)
termination_by s => s.length
decreasing_by
  · have := congrArg List.length (splitAtClose?_eq_some _h)
    simp only [List.length_append, List.length_cons] at this ⊢
    omega
  · simp

/-- Whether a character ends the name of a token. -/
def endsName (c : Char) : Bool :=
  isBlank c || c == '=' || c == '!' || c == '<' || c == '>'

/-- The text up to the end of the literal at its start, and what comes after: a
literal that begins with a quote ends with the next one, any other before a
blank. -/
def splitLiteral : List Char → List Char × List Char
  | [] => ([], [])
  | c :: rest =>
    if isQuote c then
      match rest.dropWhile (· != c) with
      | [] => (c :: rest, [])
      | closing :: after => (c :: rest.takeWhile (· != c) ++ [closing], after)
    else ((c :: rest).takeWhile (!isBlank ·), (c :: rest).dropWhile (!isBlank ·))

/-- The expression and the message of a block. -/
def splitBody (body : List Char) : List Char × List Char :=
  let body := trimStart body
  let name := body.takeWhile (!endsName ·)
  let afterName := body.drop name.length
  let fromTest := trimStart afterName
  match Test.startOf? fromTest with
  | none => (name, afterName)
  | some test =>
    let literal := trimStart (fromTest.drop test.symbol.length)
    let size := body.length - literal.length + (splitLiteral literal).1.length
    (body.take size, body.drop size)

/-- The expression that opens a block. -/
def bodyExpression (body : List Char) : Expression :=
  .read (splitBody body).1

/-- The message of a block. -/
def bodyMessage (body : List Char) : List Char :=
  trimEnd (splitBody body).2

theorem splitBody_message_length_le (body : List Char) :
    (splitBody body).2.length ≤ body.length := by
  have := trimStart_length_le body
  unfold splitBody
  dsimp only
  split <;> simp only [List.length_drop] <;> omega

theorem bodyMessage_length_le (body : List Char) : (bodyMessage body).length ≤ body.length :=
  Nat.le_trans (trimEnd_length_le _) (splitBody_message_length_le body)

/-- An outermost block and where it stands. -/
structure Block where
  /-- The block with its markers. -/
  raw : String
  /-- The byte at which it starts. -/
  start : Nat
  /-- The byte before which it ends. -/
  stop : Nat
  /-- When its message is kept. -/
  condition : Expression
  /-- What is kept, perhaps with blocks inside. -/
  message : String

/-- How many bytes a text takes. -/
def byteSize : List Char → Nat
  | [] => 0
  | c :: rest => c.utf8Size + byteSize rest

/-- The blocks among segments that begin at a byte. -/
def blocksFrom (start : Nat) : List Segment → List Block
  | [] => []
  | .text s :: rest => blocksFrom (start + byteSize s) rest
  | .block body :: rest =>
    let raw := (Segment.block body).raw
    let stop := start + byteSize raw
    { raw := String.ofList raw
      start
      stop
      condition := bodyExpression body
      message := String.ofList (bodyMessage body) } :: blocksFrom stop rest

/-- The outermost blocks of a template, in order. -/
def blocks (template : String) : List Block :=
  blocksFrom 0 (segments template.toList)

end ValueAssertions.Template
