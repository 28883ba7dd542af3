/-!
# Lines of YAML texts

A text is read with every line break written as a line feed.  Blank lines, and
lines with nothing but a comment, may stand between the parts of a document, but no
tab may stand where indentation is expected.
-/

namespace ValueAssertions.Yaml

/-- Whether a character is a blank inside a line. -/
def isSpace (c : Char) : Bool :=
  c == ' ' || c == '\t'

/-- Whether a character separates words, or ends a line or the text. -/
def isGap (c : Option Char) : Bool :=
  match c with
  | none => true
  | some c => isSpace c || c == '\n'

/-- The text with line breaks of every kind written as line feeds. -/
def normalizeBreaks : List Char → List Char
  | [] => []
  | '\r' :: '\n' :: rest => '\n' :: normalizeBreaks rest
  | c :: rest => (if c = '\r' ∨ c = '\u0085' then '\n' else c) :: normalizeBreaks rest

/-- The blanks at the start of a text, counted, and what comes after them. -/
def readIndent : List Char → Nat × List Char
  | ' ' :: rest =>
    let (count, rest) := readIndent rest
    (count + 1, rest)
  | rest => (0, rest)

/-- The line at the start of a text, and the lines after it. -/
def readLine : List Char → List Char × List Char
  | [] => ([], [])
  | c :: rest =>
    if c = '\n' then ([], rest)
    else
      let (line, rest) := readLine rest
      (c :: line, rest)

theorem readLine_rest_length_le (s : List Char) : (readLine s).2.length ≤ s.length := by
  induction s with
  | nil => simp [readLine]
  | cons c rest ih =>
    unfold readLine
    split
    · simp
    · exact Nat.le_succ_of_le ih

/-- Reading a line takes at least one character of a text that has any. -/
theorem readLine_rest_length_lt (c : Char) (rest : List Char) :
    (readLine (c :: rest)).2.length < (c :: rest).length := by
  have := readLine_rest_length_le rest
  unfold readLine
  split <;> simp only [List.length_cons] <;> omega

/-- The lines of a text. -/
def linesOf (s : List Char) : List (List Char) :=
  match s with
  | [] => []
  | c :: cs => (readLine (c :: cs)).1 :: linesOf (readLine (c :: cs)).2
termination_by s.length
decreasing_by exact readLine_rest_length_lt c cs

/-- The text after a number of lines. -/
def dropLines : Nat → List Char → List Char
  | 0, s => s
  | count + 1, s => dropLines count (readLine s).2

/-- Whether what is left of a line is nothing but blanks and a comment. -/
def isEmptyLine (line : List Char) : Bool :=
  match line.dropWhile isSpace with
  | [] => true
  | c :: _ => c == '#'

/-- The lines after the one at the start of a text, if nothing but blanks and a
comment is left of that line. -/
def endLine? (s : List Char) : Option (List Char) :=
  let (line, below) := readLine s
  if isEmptyLine line then some below else none

/-- What a line holds between the parts of a document. -/
inductive LineShape where
  /-- Nothing, or a comment. -/
  | empty
  /-- A tab where indentation is expected. -/
  | tabbed
  /-- Anything else. -/
  | filled
deriving DecidableEq

/-- The shape of a line. -/
def lineShape (line : List Char) : LineShape :=
  match (readIndent line).2 with
  | [] => .empty
  | c :: _ => if c = '#' then .empty else if c = '\t' then .tabbed else .filled

/-- Passes over empty lines, unless a tab is in the way. -/
def skipEmptyLines? (s : List Char) : Option (List Char) :=
  match s with
  | [] => some []
  | c :: cs =>
    match lineShape (readLine (c :: cs)).1 with
    | .empty => skipEmptyLines? (readLine (c :: cs)).2
    | .tabbed => none
    | .filled => some (c :: cs)
termination_by s.length
decreasing_by exact readLine_rest_length_lt c cs

/-- Whether a line begins with a mark of three characters that stands by itself. -/
def hasMark (mark : List Char) (line : List Char) : Bool :=
  line.take 3 == mark && (line.drop 3).head?.all isSpace

/-- The mark before a document. -/
def startMark : List Char := ['-', '-', '-']

/-- The mark after a document. -/
def endMark : List Char := ['.', '.', '.']

/-- Whether a line begins with one of the two marks that stand between documents. -/
def isDocumentMark (line : List Char) : Bool :=
  hasMark startMark line || hasMark endMark line

/-- Whether nothing follows but empty lines and marks after the document. -/
def isEnd (s : List Char) : Bool :=
  (linesOf s).all fun line =>
    lineShape line = .empty || (hasMark endMark line && isEmptyLine (line.drop 3))

end ValueAssertions.Yaml
