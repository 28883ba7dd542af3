import ValueAssertions.Regex.Flags
import ValueAssertions.Text.Hexadecimal

/-!
# Escapes in regular expressions

After a backslash there is a character that would otherwise mean something, a
letter for a control character, a code point in hexadecimal digits, a place, or a
class.  Each function reads its part from the start of a text and gives the rest.
-/

namespace ValueAssertions.Regex

/-- What an escape stands for. -/
inductive Escape where
  /-- A character; `byte` marks one written as exactly two hexadecimal digits. -/
  | character (c : Char) (byte : Bool)
  /-- A place. -/
  | place (assertion : Assertion)
  /-- Any character of a class. -/
  | member (set : CharacterSet)

namespace Escape

/-- Whether a character may be escaped to stand for itself: ASCII, and neither a
letter nor a digit nor an angle bracket. -/
def isEscapable (c : Char) : Bool :=
  c.toNat < 128 && !c.isAlphanum && c != '<' && c != '>'

/-- The character of a code point, unless it is a surrogate or too large. -/
def character? (code : Nat) : Option Char :=
  if h : code.isValidChar then some (Char.ofNatAux code h) else none

/-- Reads a fixed number of hexadecimal digits. -/
def readFixedHex? (flags : Flags) : Nat → Nat → List Char → Option (Nat × List Char)
  | 0, value, rest => some (value, rest)
  | _ + 1, _, [] => none
  | count + 1, value, c :: rest =>
    (hexDigit? c).bind fun digit =>
      readFixedHex? flags count (16 * value + digit) (flags.skip rest)

/-- Reads hexadecimal digits up to a closing brace; `any` tells whether there has
been one. -/
def readBracedHex? (flags : Flags) (any : Bool) (value : Nat) (s : List Char) :
    Option (Nat × List Char) :=
  match _h : flags.skip s with
  | [] => none
  | c :: rest =>
    if c = '\x7d' then if any then some (value, flags.skip rest) else none
    else (hexDigit? c).bind fun digit => readBracedHex? flags true (16 * value + digit) rest
termination_by s.length
decreasing_by
  have := flags.skip_length_le s
  simp only [_h, List.length_cons] at this
  omega

/-- Reads the code point of an escape that has so many digits outside braces. -/
def readHex? (flags : Flags) (count : Nat) (s : List Char) : Option (Escape × List Char) := do
  let s := flags.skip s
  let (code, rest) ← match s with
    | '\x7b' :: rest => readBracedHex? flags false 0 rest
    | s => readFixedHex? flags count 0 s
  let c ← character? code
  return (.character c (count = 2 && s.head? != some '\x7b'), rest)

/-- The name of a property between braces, and what comes after them. -/
def readBracedName? (flags : Flags) (reversed s : List Char) : Option (List Char × List Char) :=
  match _h : flags.skip s with
  | [] => none
  | c :: rest =>
    if c = '\x7d' then some (reversed.reverse, rest)
    else readBracedName? flags (c :: reversed) rest
termination_by s.length
decreasing_by
  have := flags.skip_length_le s
  simp only [_h, List.length_cons] at this
  omega

/-- The texts around the first place where a separator occurs. -/
def splitAt? (separator : List Char) : List Char → Option (List Char × List Char)
  | [] => none
  | c :: rest =>
    if separator.isPrefixOf (c :: rest) then some ([], (c :: rest).drop separator.length)
    else (splitAt? separator rest).map fun (before, after) => (c :: before, after)

/-- The set of a property written between braces; `!=` complements it. -/
def propertySet? (name : List Char) : Option (Bool × CharacterSet) :=
  match splitAt? ['!', '='] name with
  | some (property, value) => (Unicode.byValue? property value).map fun set => (true, set)
  | none =>
    match (splitAt? [':'] name).or (splitAt? ['='] name) with
    | some (property, value) => (Unicode.byValue? property value).map fun set => (false, set)
    | none => (Unicode.byName? name).map fun set => (false, set)

/-- Reads a class by property, given whether the letter complements it. -/
def readProperty? (flags : Flags) (negated : Bool) (s : List Char) :
    Option (Escape × List Char) := do
  let (name, rest) ← match flags.skip s with
    | [] => none
    | '\x7b' :: rest => readBracedName? flags [] rest
    | c :: rest => if c = '\\' then none else some ([c], flags.skip rest)
  let (unequal, set) ← propertySet? name
  if flags.unicode then
    let set ← flags.classSet? (negated != unequal) set
    return (.member set, rest)
  else none

/-- The set of one of the letters `d`, `s` and `w`. -/
def classOfLetter (unicode : Bool) (letter : Char) : CharacterSet :=
  match letter, unicode with
  | 'd', true => Unicode.digits
  | 's', true => Unicode.blanks
  | 'd', false => ⟨[(48, 57)]⟩
  | 's', false => ⟨[(9, 13), (32, 32)]⟩
  | _, true => Unicode.wordCharacters
  | _, false => ⟨[(48, 57), (65, 90), (95, 95), (97, 122)]⟩

/-- The class of a letter; a capital one complements it, which needs the `unicode`
flag. -/
def letterClass? (flags : Flags) (letter : Char) : Option Escape :=
  let set := classOfLetter flags.unicode letter.toLower
  if letter.isLower then some (.member set)
  else if flags.unicode then some (.member set.complement)
  else none

/-- The letters that stand for a control character. -/
def controlCharacter? : Char → Option Char
  | 'a' => some '\x07'
  | 'f' => some '\x0c'
  | 'n' => some '\n'
  | 'r' => some '\r'
  | 't' => some '\t'
  | 'v' => some '\x0b'
  | _ => none

/-- The word assertions that have a name between braces. -/
def namedBoundary? (unicode : Bool) (name : List Char) : Option Assertion :=
  if name = "start".toList then some (.wordStart unicode)
  else if name = "end".toList then some (.wordEnd unicode)
  else if name = "start-half".toList then some (.wordStartHalf unicode)
  else if name = "end-half".toList then some (.wordEndHalf unicode)
  else none

/-- Whether a character can be part of the name of a word assertion. -/
def isBoundaryNameCharacter (c : Char) : Bool :=
  c.isAlpha || c == '-'

/-- Reads the name of a word assertion up to a closing brace. -/
def readBoundaryName? (flags : Flags) (reversed s : List Char) : Option (List Char × List Char) :=
  match _h : flags.skip s with
  | [] => none
  | c :: rest =>
    if c = '\x7d' then some (reversed.reverse, rest)
    else if isBoundaryNameCharacter c then readBoundaryName? flags (c :: reversed) rest
    else none
termination_by s.length
decreasing_by
  have := flags.skip_length_le s
  simp only [_h, List.length_cons] at this
  omega

/-- Reads what follows `\b`: a name in braces, unless the braces hold a count. -/
def readBoundary? (flags : Flags) (s : List Char) : Option (Escape × List Char) :=
  match s with
  | '\x7b' :: rest =>
    match flags.skip rest with
    | [] => none
    | c :: _ =>
      if isBoundaryNameCharacter c then do
        let (name, rest) ← readBoundaryName? flags [] rest
        let assertion ← namedBoundary? flags.unicode name
        return (.place assertion, rest)
      else some (.place (.wordBoundary flags.unicode), s)
  | s => some (.place (.wordBoundary flags.unicode), s)

/-- Reads what comes after a backslash. -/
def read? (flags : Flags) : List Char → Option (Escape × List Char)
  | [] => none
  | 'x' :: rest => readHex? flags 2 rest
  | 'u' :: rest => readHex? flags 4 rest
  | 'U' :: rest => readHex? flags 8 rest
  | 'p' :: rest => readProperty? flags false rest
  | 'P' :: rest => readProperty? flags true rest
  | 'b' :: rest => readBoundary? flags rest
  | 'A' :: rest => some (.place .textStart, rest)
  | 'z' :: rest => some (.place .textEnd, rest)
  | 'B' :: rest => some (.place (.noWordBoundary flags.unicode), rest)
  | '<' :: rest => some (.place (.wordStart flags.unicode), rest)
  | '>' :: rest => some (.place (.wordEnd flags.unicode), rest)
  | c :: rest =>
    if ['d', 's', 'w', 'D', 'S', 'W'].contains c then
      (letterClass? flags c).map fun escape => (escape, rest)
    else if isEscapable c then some (.character c false, rest)
    else (controlCharacter? c).map fun control => (.character control false, rest)

end Escape

end ValueAssertions.Regex
