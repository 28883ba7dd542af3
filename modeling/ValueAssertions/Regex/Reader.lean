import ValueAssertions.Regex.Class

/-!
# Reading regular expressions

A written expression is read from left to right, with the groups that are still
open on a stack.  A group holds the branches of a choice that are complete and the
items of the current branch, and remembers the flags to return to when it closes.

An expression is refused when it is malformed, when it is nested more than 250
deep, and when an automaton for it would be larger than ten mebibytes.
-/

namespace ValueAssertions.Regex

/-- A part of an expression that has been read. -/
structure Item where
  /-- What it stands for. -/
  expression : Expression
  /-- Its nesting depth. -/
  depth : Nat
  /-- Whether a repetition may follow it: not if it is empty or only sets flags. -/
  repeatable : Bool

namespace Item

/-- An item that stands for nothing. -/
def nothing : Item :=
  ⟨.empty, 0, false⟩

/-- One item for many, given the last one first: nothing, the only one, or all of
them put together one level deeper. -/
def combine (join : Expression → Expression → Expression) : List Item → Item
  | [] => nothing
  | [only] => only
  | last :: before =>
    let all := before.foldl
      (fun all item => ⟨join item.expression all.expression, Nat.max item.depth all.depth, true⟩)
      last
    ⟨all.expression, all.depth + 1, true⟩

/-- The item of a repetition. -/
def repeated (body : Item) (least : Nat) (most : Option Nat) : Item :=
  let expression := match most with
    | some 0 => .empty
    | most => .repeated body.expression least most
  ⟨expression, body.depth + 1, true⟩

end Item

/-- A group that is still open. -/
structure OpenGroup where
  /-- The branches that are complete, the last one first. -/
  branches : List Item
  /-- The items of the current branch, the last one first. -/
  items : List Item
  /-- The flags that were in force before the group. -/
  outerFlags : Flags

namespace OpenGroup

/-- The group with one more item. -/
def add (group : OpenGroup) (item : Item) : OpenGroup :=
  { group with items := item :: group.items }

/-- The group with the current branch complete and a new one begun. -/
def nextBranch (group : OpenGroup) : OpenGroup :=
  { group with branches := Item.combine .sequence group.items :: group.branches, items := [] }

/-- The item of all that the group holds. -/
def contents (group : OpenGroup) : Item :=
  Item.combine .choice group.nextBranch.branches

end OpenGroup

/-- Where reading stands. -/
structure Reading where
  /-- The flags in force. -/
  flags : Flags
  /-- The innermost open group. -/
  current : OpenGroup
  /-- The groups around it. -/
  around : List OpenGroup
  /-- The names that groups have been given. -/
  names : List (List Char)

namespace Reading

/-- Expressions may be nested this deep. -/
def depthLimit : Nat := 250

/-- Automata may take so many bytes. -/
def sizeLimit : Nat := 10485760

/-- Counts of repetitions are below this number. -/
def countLimit : Nat := 4294967296

/-- The state after one more item. -/
def add (r : Reading) (item : Item) : Reading :=
  { r with current := r.current.add item }

/-- The state after one more simple expression. -/
def addExpression (r : Reading) (expression : Expression) : Reading :=
  r.add ⟨expression, 0, true⟩

/-- The state inside a new group with the given flags. -/
def openGroup (r : Reading) (flags : Flags) : Reading :=
  { r with flags, current := ⟨[], [], r.flags⟩, around := r.current :: r.around }

/-- The state after the innermost group has been closed. -/
def closeGroup? (r : Reading) : Option Reading :=
  match r.around with
  | [] => none
  | outer :: around =>
    let contents := r.current.contents
    some { r with
      flags := r.current.outerFlags
      current := outer.add ⟨contents.expression, contents.depth + 1, true⟩
      around }

/-- The last item and the state without it, if a repetition may follow. -/
def takeLast? (r : Reading) : Option (Item × Reading) :=
  match r.current.items with
  | last :: items =>
    if last.repeatable then some (last, { r with current := { r.current with items } }) else none
  | [] => none

/-- Takes a question mark off the start, which only changes greediness. -/
def dropLazy : List Char → List Char
  | '?' :: rest => rest
  | rest => rest

/-- A repetition of the last item without written counts. -/
def repeatLast? (r : Reading) (least : Nat) (most : Option Nat) (rest : List Char) :
    Option (Reading × List Char) :=
  r.takeLast?.map fun (last, r) => (r.add (last.repeated least most), dropLazy rest)

/-- Reads the digits of a count, between which ignored characters may stand. -/
def readCountDigits (flags : Flags) (reversed s : List Char) : List Char × List Char :=
  match s with
  | [] => (reversed.reverse, [])
  | c :: rest =>
    if c.isDigit then readCountDigits flags (c :: reversed) (flags.skip rest)
    else (reversed.reverse, c :: rest)
termination_by s.length
decreasing_by
  have := flags.skip_length_le rest
  simp only [List.length_cons]
  omega

/-- Reads a count between blanks: there may be none, and it may be too large. -/
def readCount? (flags : Flags) (s : List Char) : Option (Option Nat × List Char) :=
  let (digits, rest) := readCountDigits flags [] (s.dropWhile isBlank)
  let value := digits.foldl (fun n c => 10 * n + (c.toNat - '0'.toNat)) 0
  let rest := flags.skip (rest.dropWhile isBlank)
  if digits.isEmpty then some (none, rest)
  else if value < countLimit then some (some value, rest)
  else none

/-- Reads the counts of a repetition after its opening brace: one, one and a comma,
or two in order. -/
def readCounts? (flags : Flags) (s : List Char) : Option (Nat × Option Nat × List Char) := do
  let (least, rest) ← readCount? flags (flags.skip s)
  let least ← least
  match rest with
  | '\x7d' :: rest => return (least, some least, rest)
  | ',' :: rest =>
    match flags.skip rest with
    | '\x7d' :: rest => return (least, none, rest)
    | rest =>
      let (most, rest) ← readCount? flags rest
      let most ← most
      match rest with
      | '\x7d' :: rest => if least ≤ most then return (least, some most, rest) else none
      | _ => none
  | _ => none

/-- Reads the flags of a group up to the colon or parenthesis that ends them, which
is given with the rest.  `seen` are the letters so far, `negated` whether flags are
being switched off, and `dangling` whether nothing has come after the hyphen. -/
def readFlags? (seen : List Char) (negated dangling : Bool) (flags : Flags) :
    List Char → Option (Flags × Bool × Char × List Char)
  | [] => none
  | c :: rest =>
    if c = ':' ∨ c = ')' then
      if dangling then none else some (flags, seen.isEmpty, c, rest)
    else if seen.contains c then none
    else if c = '-' then readFlags? (c :: seen) true true flags rest
    else (flags.set? c (!negated)).bind fun flags =>
      readFlags? (c :: seen) negated false flags rest

/-- Whether a character can stand in the name of a group, given whether it is the
first. -/
def isNameCharacter (first : Bool) (c : Char) : Bool :=
  c == '_' ||
    if first then Unicode.alphabetic.contains c
    else c == '.' || c == '[' || c == ']' || Unicode.alphanumeric.contains c

/-- Reads the name of a group up to the bracket that ends it. -/
def readName? (reversed : List Char) : List Char → Option (List Char × List Char)
  | [] => none
  | c :: rest =>
    if c = '>' then if reversed.isEmpty then none else some (reversed.reverse, rest)
    else if isNameCharacter reversed.isEmpty c then readName? (c :: reversed) rest
    else none

/-- The state inside a group with a name, which no other group may have. -/
def openNamed? (r : Reading) (s : List Char) : Option (Reading × List Char) := do
  let (name, rest) ← readName? [] s
  if r.names.contains name then none
  else return ({ r.openGroup r.flags with names := name :: r.names }, rest)

/-- The state after an opening parenthesis: a group that looks ahead or behind is
refused, a group may have a name or flags, and flags may stand alone. -/
def openParenthesis? (r : Reading) (s : List Char) : Option (Reading × List Char) :=
  match r.flags.skip s with
  | '?' :: '=' :: _ => none
  | '?' :: '!' :: _ => none
  | '?' :: '<' :: '=' :: _ => none
  | '?' :: '<' :: '!' :: _ => none
  | '?' :: 'P' :: '<' :: rest => r.openNamed? rest
  | '?' :: '<' :: rest => r.openNamed? rest
  | '?' :: rest => do
    let (flags, noLetters, ending, rest) ← readFlags? [] false false r.flags rest
    if ending = ')' then
      if noLetters then none else return ({ r.add Item.nothing with flags }, rest)
    else return (r.openGroup flags, rest)
  | rest => some (r.openGroup r.flags, rest)

/-- The state after an escape. -/
def addEscape? (r : Reading) (s : List Char) : Option (Reading × List Char) := do
  let (escape, rest) ← Escape.read? r.flags s
  let expression ← match escape with
    | .character c byte => r.flags.literal? c byte
    | .place assertion => some (.place assertion)
    | .member set => some (.characters set)
  return (r.addExpression expression, rest)

/-- The state after a character and what belongs to it. -/
def step? (r : Reading) (c : Char) (rest : List Char) : Option (Reading × List Char) :=
  match c with
  | '(' => r.openParenthesis? rest
  | ')' => r.closeGroup?.map fun r => (r, rest)
  | '|' => some ({ r with current := r.current.nextBranch }, rest)
  | '[' => (Class.read? r.flags rest).map fun (set, rest) =>
      (r.add ⟨.characters set.set, set.depth, true⟩, rest)
  | '?' => r.repeatLast? 0 (some 1) rest
  | '*' => r.repeatLast? 0 none rest
  | '+' => r.repeatLast? 1 none rest
  | '\x7b' => do
    let (last, r) ← r.takeLast?
    let (least, most, rest) ← readCounts? r.flags rest
    return (r.add (last.repeated least most), dropLazy (r.flags.skip rest))
  | '\\' => r.addEscape? rest
  | '.' => r.flags.dot?.map fun expression => (r.addExpression expression, rest)
  | '^' => some (r.addExpression (.place r.flags.caret), rest)
  | '$' => some (r.addExpression (.place r.flags.dollar), rest)
  | c => (r.flags.literal? c false).map fun expression => (r.addExpression expression, rest)

/-- The whole expression, once the text has ended. -/
def finish? (r : Reading) : Option Expression :=
  let whole := r.current.contents
  if r.around.isEmpty && whole.depth ≤ depthLimit &&
      whole.expression.automatonSize ≤ sizeLimit then
    some whole.expression
  else none

/-- Reads to the end of the text.  Each round reads at least one character. -/
def run? : Nat → Reading → List Char → Option Expression
  | 0, _, _ => none
  | fuel + 1, r, s =>
    match r.flags.skip s with
    | [] => r.finish?
    | c :: rest => (r.step? c rest).bind fun (r, rest) => run? fuel r rest

end Reading

/-- The expression that a text writes, under the given flags. -/
def Expression.read? (flags : Flags) (text : String) : Option Expression :=
  Reading.run? (text.length + 1) ⟨flags, ⟨[], [], flags⟩, [], []⟩ text.toList

end ValueAssertions.Regex
