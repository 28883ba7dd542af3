import ValueAssertions.Text.Hexadecimal
import ValueAssertions.Yaml.Line

/-!
# Quoted YAML scalars

A scalar between single quotes knows one escape, the doubled quote.  A scalar
between double quotes knows backslash escapes.  In both, a line break with the
blanks around it is folded: one break becomes a blank, and of several breaks all
but the first remain.  A mark between documents may not stand inside a scalar.
-/

namespace ValueAssertions.Yaml

/-- What has been read after the last character that counts. -/
inductive Gap where
  /-- Blanks on the same line, the last one first. -/
  | spaces (reversed : List Char)
  /-- Line breaks after the first one; `joined` when the first was escaped and so
  leaves no blank. -/
  | broken (breaks : Nat) (joined : Bool)

namespace Gap

/-- Nothing between two characters. -/
def none : Gap := .spaces []

/-- The gap after one more blank. -/
def space (c : Char) : Gap → Gap
  | .spaces reversed => .spaces (c :: reversed)
  | .broken breaks joined => .broken breaks joined

/-- The gap after one more line break. -/
def lineBreak : Gap → Gap
  | .spaces _ => .broken 0 false
  | .broken breaks joined => .broken (breaks + 1) joined

/-- The gap after a line break that a backslash hides. -/
def joinedBreak : Gap := .broken 0 true

/-- What a gap leaves in the text. -/
def fold : Gap → List Char
  | .spaces reversed => reversed.reverse
  | .broken 0 false => [' ']
  | .broken breaks _ => List.replicate breaks '\n'

end Gap

/-- The blanks before a backslash that hides a line break, which stay. -/
def Gap.kept : Gap → List Char
  | .spaces reversed => reversed.reverse
  | gap => gap.fold

/-- Puts a folded gap and a character in front of the scalar that has been read. -/
def withGap (gap : Gap) (c : Char) (read : Option (List Char × List Char)) :
    Option (List Char × List Char) :=
  read.map fun (text, rest) => (gap.fold ++ c :: text, rest)

/-- Reads a scalar after its opening single quote, and gives what follows the
closing one. -/
def readSingleQuoted? (gap : Gap) : List Char → Option (List Char × List Char)
  | [] => none
  | '\'' :: '\'' :: rest => withGap gap '\'' (readSingleQuoted? .none rest)
  | '\'' :: rest => some (gap.fold, rest)
  | c :: rest =>
    if c = '\n' then
      if isDocumentMark (readLine rest).1 then none else readSingleQuoted? gap.lineBreak rest
    else if isSpace c then readSingleQuoted? (gap.space c) rest
    else withGap gap c (readSingleQuoted? .none rest)

/-- What a character after a backslash stands for. -/
def escapedCharacter? : Char → Option Char
  | '0' => some '\x00'
  | 'a' => some '\x07'
  | 'b' => some '\x08'
  | 't' => some '\t'
  | '\t' => some '\t'
  | 'n' => some '\n'
  | 'v' => some '\x0b'
  | 'f' => some '\x0c'
  | 'r' => some '\r'
  | 'e' => some '\x1b'
  | ' ' => some ' '
  | '"' => some '"'
  | '/' => some '/'
  | '\\' => some '\\'
  | 'N' => some '\u0085'
  | '_' => some '\u00a0'
  | 'L' => some '\u2028'
  | 'P' => some '\u2029'
  | _ => none

/-- The character of hexadecimal digits. -/
def characterOfHex? (digits : List Char) : Option Char := do
  let code ← digits.foldlM (fun value c => (hexDigit? c).map (16 * value + ·)) 0
  if h : code.isValidChar then some (Char.ofNatAux code h) else none

/-- Reads a scalar after its opening double quote, and gives what follows the
closing one. -/
def readDoubleQuoted? (gap : Gap) : List Char → Option (List Char × List Char)
  | [] => none
  | '"' :: rest => some (gap.fold, rest)
  | '\\' :: '\n' :: rest =>
    if isDocumentMark (readLine rest).1 then none
    else (readDoubleQuoted? .joinedBreak rest).map fun (text, rest) => (gap.kept ++ text, rest)
  | '\\' :: 'x' :: a :: b :: rest =>
    (characterOfHex? [a, b]).bind fun c => withGap gap c (readDoubleQuoted? .none rest)
  | '\\' :: 'u' :: a :: b :: c :: d :: rest =>
    (characterOfHex? [a, b, c, d]).bind fun c => withGap gap c (readDoubleQuoted? .none rest)
  | '\\' :: 'U' :: a :: b :: c :: d :: e :: f :: g :: h :: rest =>
    (characterOfHex? [a, b, c, d, e, f, g, h]).bind fun c =>
      withGap gap c (readDoubleQuoted? .none rest)
  | '\\' :: c :: rest =>
    (escapedCharacter? c).bind fun c => withGap gap c (readDoubleQuoted? .none rest)
  | c :: rest =>
    if c = '\n' then
      if isDocumentMark (readLine rest).1 then none else readDoubleQuoted? gap.lineBreak rest
    else if isSpace c then readDoubleQuoted? (gap.space c) rest
    else if c = '\\' then none
    else withGap gap c (readDoubleQuoted? .none rest)

end ValueAssertions.Yaml
