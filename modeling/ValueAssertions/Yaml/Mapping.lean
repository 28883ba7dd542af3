import ValueAssertions.Yaml.Block
import ValueAssertions.Yaml.Flow

/-!
# Flat YAML mappings

A flat mapping gives texts to keys.  It is written in block form, one key a line
with all keys equally indented, or in flow form between braces.  Scalars are taken
as their text whatever they look like.  A document that is empty, or holds only
comments, is a mapping without keys; documents of any other shape are refused.
-/

namespace ValueAssertions.Yaml

/-- Whether a character may stand in a document at all. -/
def isPrintable (c : Char) : Bool :=
  c == '\t' || c == '\n' || (' ' ≤ c && c ≤ '~') ||
    ('\u00a0' ≤ c && c.toNat ≤ 0xfffd && c.toNat != 0xfeff) || 0x10000 ≤ c.toNat

/-! ## Block form -/

/-- Reads a key, which stands on one line, and the colon after it. -/
def readKey? (s : List Char) : Option (List Char × List Char) := do
  let (line, below) := readLine s
  let (key, rest) ← match line with
    | '\'' :: quoted => readSingleQuoted? .none quoted
    | '"' :: quoted => readDoubleQuoted? .none quoted
    | line =>
      if beginsPlain false line then
        let (key, rest) := readPlainLine false false line
        some (trimSpaces key, rest)
      else none
  match rest.dropWhile isSpace with
  | ':' :: rest =>
    if isGap rest.head? then
      some (key, if line.length < s.length then rest ++ '\n' :: below else rest)
    else none
  | _ => none

/-- Reads a scalar that belongs to a mapping of an indentation, and gives the lines
below it. -/
def readScalar? (indent : Nat) (s : List Char) : Option (List Char × List Char) := do
  match s with
  | '\'' :: quoted =>
    let (text, rest) ← readSingleQuoted? .none quoted
    return (text, ← endLine? rest)
  | '"' :: quoted =>
    let (text, rest) ← readDoubleQuoted? .none quoted
    return (text, ← endLine? rest)
  | '|' :: header => readBlock? indent false header
  | '>' :: header => readBlock? indent true header
  | s =>
    if beginsPlain false s then readPlain? false (indent + 1) (s.length + 1) s else none

/-- Reads the value of a key after its colon, and gives the lines below it.  It may
stand on a line below that is indented more than the key, and without one it is
empty. -/
def readValue? (indent : Nat) (s : List Char) : Option (List Char × List Char) := do
  match endLine? s with
  | some below =>
    let next ← skipEmptyLines? below
    let (count, content) := readIndent next
    if content.isEmpty || count ≤ indent then some ([], next) else readScalar? indent content
  | none => readScalar? indent (s.dropWhile isSpace)

/-- Reads the keys and values of a mapping whose keys have an indentation, if one has
been read, up to the end of the document. -/
def readEntries? (indent : Option Nat) : Nat → List Char → Option (List (String × String))
  | 0, _ => none
  | fuel + 1, s => do
    let s ← skipEmptyLines? s
    if isEnd s then some []
    else
      let (count, content) := readIndent s
      if indent.any (· != count) || isDocumentMark (readLine s).1 then none
      else
        let (key, rest) ← readKey? content
        let (value, below) ← readValue? count rest
        let others ← readEntries? (some count) fuel below
        return (String.ofList key, String.ofList value) :: others

/-! ## Documents -/

/-- Reads a document from its first line that is not empty. -/
def readContent? (s : List Char) : Option (List (String × String)) :=
  match s.dropWhile isSpace with
  | '\x7b' :: rest => readFlow? rest
  | _ => readEntries? none (s.length + 1) s

/-- Reads a document after the mark before it.  Only a flow mapping may begin on the
line of the mark. -/
def readMarked? (s : List Char) : Option (List (String × String)) :=
  match endLine? s with
  | some below => (skipEmptyLines? below).bind readContent?
  | none =>
    match s.dropWhile isSpace with
    | '\x7b' :: rest => readFlow? rest
    | _ => none

/-- The keys and texts of a document that is a flat mapping, repeated keys
included. -/
def readMapping? (text : String) : Option (List (String × String)) := do
  let s := normalizeBreaks text.toList
  let s := if s.head? == some '\ufeff' then s.drop 1 else s
  if !s.all isPrintable then none
  else
    let s ← skipEmptyLines? s
    let line := (readLine s).1
    if hasMark startMark line then readMarked? (s.drop 3)
    else if hasMark endMark line then none
    else readContent? s

end ValueAssertions.Yaml
