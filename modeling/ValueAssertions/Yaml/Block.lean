import ValueAssertions.Yaml.Plain

/-!
# Block scalars of YAML

A block scalar takes the indented lines below its header, as they are or folded, and
its header says what happens to the line breaks at its end.  Its indentation is
given in the header or is that of its first line that is not blank.
-/

namespace ValueAssertions.Yaml

/-- What happens to the line breaks at the end of a block scalar. -/
inductive Chomping where
  /-- One is kept. -/
  | clip
  /-- None is kept. -/
  | strip
  /-- All are kept. -/
  | keep
deriving DecidableEq

/-- The header of a block scalar. -/
structure BlockHeader where
  /-- What happens to the line breaks at its end. -/
  chomping : Chomping
  /-- The indentation of its lines, beyond that of the mapping, if it is given. -/
  indentation : Option Nat

/-- The chomping that a mark stands for. -/
def Chomping.ofMark? (c : Char) : Option Chomping :=
  if c = '+' then some .keep else if c = '-' then some .strip else none

/-- The indentation that a digit stands for, which is not zero. -/
def indentationOfDigit? (c : Char) : Option Nat :=
  if c.isDigit && c != '0' then some (c.toNat - '0'.toNat) else none

/-- Reads a header: at most one mark and at most one digit, in either order, and
nothing else but a comment. -/
def BlockHeader.read? (line : List Char) : Option BlockHeader :=
  let marks := line.takeWhile fun c => !isSpace c && c != '#'
  if !isEmptyLine (line.drop marks.length) then none
  else match marks with
    | [] => some ⟨.clip, none⟩
    | [c] =>
      match Chomping.ofMark? c with
      | some chomping => some ⟨chomping, none⟩
      | none => (indentationOfDigit? c).map fun n => ⟨.clip, some n⟩
    | [c, d] =>
      match Chomping.ofMark? c with
      | some chomping => (indentationOfDigit? d).map fun n => ⟨chomping, some n⟩
      | none => do
        let n ← indentationOfDigit? c
        let chomping ← Chomping.ofMark? d
        return ⟨chomping, some n⟩
    | _ => none

/-- The indentation of the first line that is not blank, or the longest of the blank
ones.  A tab may not stand there. -/
def detectIndent? : List (List Char) → Option Nat
  | [] => some 0
  | line :: rest =>
    let (count, content) := readIndent line
    match content with
    | [] => (detectIndent? rest).map (Nat.max count)
    | '\t' :: _ => none
    | _ => some count

/-- The lines of a block scalar without their indentation: those that are indented
enough or blank, up to the first that is neither.  Blank lines become empty; one at
the end of the text counts only if a line break follows it, which `ended` tells. -/
def takeBlockLines? (indent : Nat) (ended : Bool) : List (List Char) → Option (List (List Char))
  | [] => some []
  | line :: rest => do
    let (count, content) := readIndent line
    if content.isEmpty && count ≤ indent then
      if rest.isEmpty && !ended then some []
      else return [] :: (← takeBlockLines? indent ended rest)
    else if indent ≤ count then
      return line.drop indent :: (← takeBlockLines? indent ended rest)
    else if content.head? = some '\t' then none
    else some []

/-- Whether a line is folded into its neighbours: not if it begins with a blank. -/
def folds (line : List Char) : Bool :=
  !line.head?.any isSpace

/-- The text of lines after a line that is not empty, given the number of empty lines
in between.  Empty lines at the end are left out. -/
def joinLines (folded : Bool) (before : List Char) (breaks : Nat) :
    List (List Char) → List Char
  | [] => []
  | line :: rest =>
    if line.isEmpty then joinLines folded before (breaks + 1) rest
    else
      let gap :=
        if folded && folds before && folds line then foldBreaks breaks
        else List.replicate (breaks + 1) '\n'
      gap ++ line ++ joinLines folded line 0 rest

/-- The text of lines, of which the empty ones at the end are left out. -/
def joinedText (folded : Bool) (lines : List (List Char)) : List Char :=
  let leading := (lines.takeWhile List.isEmpty).length
  match lines.drop leading with
  | [] => []
  | first :: rest => List.replicate leading '\n' ++ first ++ joinLines folded first 0 rest

/-- The text of a block scalar from its lines; `ended` tells whether a line break
follows the last one. -/
def blockText (chomping : Chomping) (folded : Bool) (lines : List (List Char)) (ended : Bool) :
    List Char :=
  let trailing := (lines.reverse.takeWhile List.isEmpty).length
  let lastBreak := if ended || 0 < trailing then ['\n'] else []
  if trailing = lines.length then
    if chomping = .keep then List.replicate trailing '\n' else []
  else
    joinedText folded lines ++ match chomping with
      | .strip => []
      | .clip => lastBreak
      | .keep => lastBreak ++ List.replicate trailing '\n'

/-- Reads a block scalar of a mapping of an indentation after the character that
begins it, and gives the lines below it. -/
def readBlock? (indent : Nat) (folded : Bool) (s : List Char) :
    Option (List Char × List Char) := do
  let (line, below) := readLine s
  let header ← BlockHeader.read? line
  let lines := linesOf below
  let inner ← match header.indentation with
    | some n => some (indent + n)
    | none => (detectIndent? lines).map (Nat.max (indent + 1))
  let endsWithBreak := below.getLast? == some '\n'
  let taken ← takeBlockLines? inner endsWithBreak lines
  let rest := dropLines taken.length below
  return (blockText header.chomping folded taken (!rest.isEmpty || endsWithBreak), rest)

end ValueAssertions.Yaml
