import ValueAssertions.Yaml.Line

/-!
# Plain YAML scalars

A plain scalar is a text without quotes.  It ends before a comment, a colon that
ends a key, or in a flow collection before a character that structures it.  It goes
on over lines that are indented enough, which are folded: one line break becomes a
blank, and of several all but the first remain.
-/

namespace ValueAssertions.Yaml

/-- The characters that mean something at the start of a scalar. -/
def indicators : List Char :=
  ['-', '?', ':', ',', '[', ']', '\x7b', '\x7d', '#', '&', '*', '!', '|', '>', '\'', '"', '%',
    '@', '\x60']

/-- Whether a character structures flow collections. -/
def isFlowIndicator (c : Char) : Bool :=
  c == ',' || c == '[' || c == ']' || c == '\x7b' || c == '\x7d'

/-- Whether a plain scalar can begin with the text: not with an indicator, unless it
is a hyphen that is part of a word, or outside of flow collections a question mark
or a colon that is. -/
def beginsPlain (inFlow : Bool) : List Char → Bool
  | [] => false
  | c :: rest =>
    if c = '-' then !isGap rest.head?
    else if c = '?' ∨ c = ':' then !inFlow && !isGap rest.head?
    else !indicators.contains c && !isGap (some c)

/-- Whether a plain scalar ends before a character, given what comes after it and
whether a blank comes before. -/
def endsPlain (inFlow afterSpace : Bool) (c : Char) (next : Option Char) : Bool :=
  c == '\n' || (c == '#' && afterSpace) || (inFlow && isFlowIndicator c) ||
    (c == ':' && (isGap next || (inFlow && next.any fun d => d == '?' || isFlowIndicator d)))

/-- The part of a plain scalar that stands on one line, blanks at its end included,
and what ends it.  `afterSpace` tells whether a blank has come before. -/
def readPlainLine (inFlow afterSpace : Bool) : List Char → List Char × List Char
  | [] => ([], [])
  | c :: rest =>
    if endsPlain inFlow afterSpace c rest.head? then ([], c :: rest)
    else
      let (line, rest) := readPlainLine inFlow (isSpace c) rest
      (c :: line, rest)

/-- The text without the blanks of a line at its end. -/
def trimSpaces (s : List Char) : List Char :=
  (s.reverse.dropWhile isSpace).reverse

/-- How a plain scalar goes on below a line. -/
inductive Continuation where
  /-- With more text, after a number of empty lines. -/
  | more (breaks : Nat) (text : List Char)
  /-- Not at all; what follows it is left. -/
  | over (rest : List Char)

/-- How a plain scalar whose lines are indented by at least `least` goes on, unless a
tab stands where indentation is expected. -/
def continuation? (least breaks : Nat) (s : List Char) : Option Continuation :=
  let (count, content) := readIndent s
  if content.head? = some '\t' ∧ count < least then none
  else
    match _h : s.dropWhile isSpace with
    | [] => some (.over [])
    | c :: rest =>
      if c = '\n' then continuation? least (breaks + 1) rest
      else if c = '#' then some (.over (readLine rest).2)
      else if count < least || isDocumentMark (readLine s).1 then some (.over s)
      else some (.more breaks (c :: rest))
termination_by s.length
decreasing_by
  have := (List.dropWhile_suffix isSpace (l := s)).length_le
  rw [_h] at this
  simp only [List.length_cons] at this
  omega

/-- What a number of empty lines leaves between two lines of a folded text. -/
def foldBreaks (breaks : Nat) : List Char :=
  if breaks = 0 then [' '] else List.replicate breaks '\n'

/-- Reads a plain scalar whose further lines are indented by at least `least`, and
gives what follows it.  In block form it is refused if a colon makes it a key. -/
def readPlain? (inFlow : Bool) (least : Nat) : Nat → List Char → Option (List Char × List Char)
  | 0, _ => none
  | fuel + 1, s =>
    let (line, rest) := readPlainLine inFlow false s
    let text := trimSpaces line
    match rest with
    | '\n' :: below => do
      match ← continuation? least 0 below with
      | .over rest => return (text, rest)
      | .more breaks content =>
        let (others, rest) ← readPlain? inFlow least fuel content
        return (if others.isEmpty then text else text ++ foldBreaks breaks ++ others, rest)
    | '#' :: comment => some (text, (readLine comment).2)
    | ':' :: after => if inFlow && isGap after.head? then some (text, rest) else none
    | rest => some (text, rest)

end ValueAssertions.Yaml
