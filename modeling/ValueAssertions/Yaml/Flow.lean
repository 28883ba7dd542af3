import ValueAssertions.Yaml.Plain
import ValueAssertions.Yaml.Quoted

/-!
# Flow mappings of YAML

A flow mapping stands between braces, with commas between its entries.  Line breaks
and comments may stand between its parts, but a key and its colon share one line.  A
key without a colon has an empty value.
-/

namespace ValueAssertions.Yaml

/-- Passes over blanks, line breaks and comments; `inComment` tells whether the text
begins inside a comment. -/
def skipFlow (inComment : Bool) : List Char → List Char
  | [] => []
  | c :: rest =>
    if inComment then skipFlow (c != '\n') rest
    else if isSpace c || c == '\n' then skipFlow false rest
    else if c = '#' then skipFlow true rest
    else c :: rest

/-- Reads a scalar of a flow mapping, and gives what follows it. -/
def readFlowScalar? (s : List Char) : Option (List Char × List Char) :=
  match s with
  | '\'' :: rest => readSingleQuoted? .none rest
  | '"' :: rest => readDoubleQuoted? .none rest
  | s => if beginsPlain true s then readPlain? true 0 (s.length + 1) s else none

/-- What follows the colon after a key, if there is one on the line on which the key
begins.  After a key without quotes it must be followed by a gap. -/
def readFlowColon? (key : List Char) (s : List Char) : Option (List Char) :=
  let quoted := key.head?.any fun c => c == '\'' || c == '"'
  match s.dropWhile isSpace with
  | ':' :: rest =>
    if !key.contains '\n' && (quoted || isGap rest.head?) then some rest else none
  | _ => none

/-- Reads the value after a colon, which may be empty. -/
def readFlowValue? (s : List Char) : Option (List Char × List Char) :=
  match s with
  | ',' :: _ => some ([], s)
  | '\x7d' :: _ => some ([], s)
  | s => readFlowScalar? s

/-- Reads a key with its value, and gives what follows them. -/
def readFlowEntry? (s : List Char) : Option ((String × String) × List Char) := do
  let (key, rest) ← readFlowScalar? s
  let (value, rest) ← match readFlowColon? (s.take (s.length - rest.length)) rest with
    | some rest => readFlowValue? (skipFlow false rest)
    | none => some ([], rest)
  return ((String.ofList key, String.ofList value), skipFlow false rest)

/-- Reads the entries of a flow mapping, and gives what follows its closing brace. -/
def readFlowEntries? : Nat → List Char → Option (List (String × String) × List Char)
  | 0, _ => none
  | fuel + 1, s =>
    match skipFlow false s with
    | '\x7d' :: rest => some ([], rest)
    | s => do
      let (entry, rest) ← readFlowEntry? s
      match rest with
      | ',' :: rest =>
        let (others, rest) ← readFlowEntries? fuel rest
        return (entry :: others, rest)
      | '\x7d' :: rest => return ([entry], rest)
      | _ => none

/-- Reads a flow mapping after its opening brace, and nothing after it. -/
def readFlow? (s : List Char) : Option (List (String × String)) := do
  let (entries, rest) ← readFlowEntries? (s.length + 1) s
  let below ← endLine? rest
  if isEnd below then some entries else none

end ValueAssertions.Yaml
