import ValueAssertions.Regex.Escape

/-!
# Classes between brackets

A class is a union of characters, ranges, escapes and further classes, and unions
are combined by intersection, difference and symmetric difference, from left to
right.  Classes that are open around the place that is being read stand on a
stack.  Beside its set, a class has a nesting depth, because expressions that are
nested too deeply are refused.
-/

namespace ValueAssertions.Regex

/-- How two unions are combined. -/
inductive SetOperation where
  | intersection
  | difference
  | symmetricDifference
deriving DecidableEq

namespace SetOperation

/-- The set of the combination. -/
def apply : SetOperation → CharacterSet → CharacterSet → CharacterSet
  | .intersection => CharacterSet.intersection
  | .difference => CharacterSet.difference
  | .symmetricDifference => CharacterSet.symmetricDifference

/-- The operation that a text begins with, and what comes after it. -/
def read? : List Char → Option (SetOperation × List Char)
  | '&' :: '&' :: rest => some (.intersection, rest)
  | '-' :: '-' :: rest => some (.difference, rest)
  | '~' :: '~' :: rest => some (.symmetricDifference, rest)
  | _ => none

end SetOperation

/-- A set and how deeply it is nested. -/
structure NestedSet where
  /-- The set. -/
  set : CharacterSet
  /-- Its nesting depth. -/
  depth : Nat

/-- A class that is still open. -/
structure OpenClass where
  /-- Whether the class stands for the characters that it does not list. -/
  negated : Bool
  /-- The union so far. -/
  union : NestedSet
  /-- How many items the union has. -/
  count : Nat
  /-- An operation that waits for the union, with its left side. -/
  pending : Option (SetOperation × NestedSet)

namespace OpenClass

/-- A class without items. -/
def start (negated : Bool) : OpenClass :=
  ⟨negated, ⟨.empty, 0⟩, 0, none⟩

/-- The class with one more item. -/
def add (c : OpenClass) (item : NestedSet) : OpenClass :=
  { c with
    union := ⟨c.union.set.union item.set, Nat.max c.union.depth item.depth⟩
    count := c.count + 1 }

/-- The union as one operand; two items or more nest it once. -/
def operand (c : OpenClass) : NestedSet :=
  if 1 < c.count then { c.union with depth := c.union.depth + 1 } else c.union

/-- Closes a set under case as far as the flags ask for it. -/
def foldOperand (flags : Flags) (set : CharacterSet) : CharacterSet :=
  if flags.ignoreCase then
    if flags.unicode then Unicode.foldCase set else Unicode.foldAsciiCase set
  else set

/-- All operands so far, combined. -/
def combined (flags : Flags) (c : OpenClass) : NestedSet :=
  match c.pending with
  | none => c.operand
  | some (operation, left) =>
    let right := c.operand
    ⟨operation.apply (foldOperand flags left.set) (foldOperand flags right.set),
      Nat.max left.depth right.depth + 1⟩

/-- The class after an operation, which takes what has been read as its left
side. -/
def operate (flags : Flags) (operation : SetOperation) (c : OpenClass) : OpenClass :=
  { start c.negated with pending := some (operation, c.combined flags) }

/-- The set of the whole class. -/
def close? (flags : Flags) (c : OpenClass) : Option NestedSet :=
  let all := c.combined flags
  (flags.classSet? c.negated all.set).map fun set => ⟨set, all.depth + 1⟩

end OpenClass

namespace Class

/-- The ranges of the classes that have a name between `[:` and `:]`. -/
def posixRanges? (name : String) : Option (List (Nat × Nat)) :=
  match name with
  | "alnum" => some [(48, 57), (65, 90), (97, 122)]
  | "alpha" => some [(65, 90), (97, 122)]
  | "ascii" => some [(0, 127)]
  | "blank" => some [(9, 9), (32, 32)]
  | "cntrl" => some [(0, 31), (127, 127)]
  | "digit" => some [(48, 57)]
  | "graph" => some [(33, 126)]
  | "lower" => some [(97, 122)]
  | "print" => some [(32, 126)]
  | "punct" => some [(33, 47), (58, 64), (91, 96), (123, 126)]
  | "space" => some [(9, 13), (32, 32)]
  | "upper" => some [(65, 90)]
  | "word" => some [(48, 57), (65, 90), (95, 95), (97, 122)]
  | "xdigit" => some [(48, 57), (65, 70), (97, 102)]
  | _ => none

/-- Reads a named class after its opening bracket: a colon, perhaps `^`, a name,
and `:]`.  There is none when any of these is missing. -/
def readPosix? : List Char → Option (Bool × CharacterSet × List Char)
  | ':' :: rest =>
    let negated := rest.head? == some '^'
    let rest := if negated then rest.drop 1 else rest
    let name := rest.takeWhile (· != ':')
    match rest.dropWhile (· != ':') with
    | ':' :: ']' :: after =>
      (posixRanges? (String.ofList name)).map fun ranges => (negated, ⟨ranges⟩, after)
    | _ => none
  | _ => none

/-- Reads hyphens that stand for themselves at the start of a class. -/
def readHyphens (flags : Flags) (c : OpenClass) (s : List Char) : OpenClass × List Char :=
  match _h : flags.skip s with
  | '-' :: rest => readHyphens flags (c.add ⟨.singleton '-', 0⟩) rest
  | rest => (c, rest)
termination_by s.length
decreasing_by
  have := flags.skip_length_le s
  simp only [_h, List.length_cons] at this
  omega

/-- Reads the start of a class after its opening bracket: perhaps `^`, hyphens, and
a closing bracket that stands for itself when nothing has come before it. -/
def readStart (flags : Flags) (s : List Char) : OpenClass × List Char :=
  let (negated, rest) := match flags.skip s with
    | '^' :: rest => (true, rest)
    | rest => (false, rest)
  let (c, rest) := readHyphens flags (.start negated) rest
  match rest with
  | ']' :: after => if c.count = 0 then (c.add ⟨.singleton ']', 0⟩, after) else (c, rest)
  | rest => (c, rest)

/-- Reads one character or escape of a class. -/
def readItem? (flags : Flags) : List Char → Option (Escape × List Char)
  | [] => none
  | '\\' :: rest => Escape.read? flags rest
  | c :: rest => some (.character c false, rest)

/-- The set of an item.  Places do not belong into a class, and without the
`unicode` flag only ASCII characters do. -/
def itemSet? (flags : Flags) : Escape → Option CharacterSet
  | .character c _ => if flags.unicode || c.toNat < 128 then some (.singleton c) else none
  | .member set => some set
  | .place _ => none

/-- The set of a range between two items. -/
def rangeSet? (flags : Flags) : Escape → Escape → Option CharacterSet
  | .character first _, .character last _ =>
    if first ≤ last && (flags.unicode || last.toNat < 128) then some (.interval first last)
    else none
  | _, _ => none

/-- Reads an item, or two with a hyphen between them.  A hyphen before a closing
bracket or before another hyphen does not make a range. -/
def readRange? (flags : Flags) (s : List Char) : Option (CharacterSet × List Char) := do
  let (first, rest) ← readItem? flags s
  let rest := flags.skip rest
  match rest with
  | '-' :: after =>
    let next := (flags.skip after).head?
    if next == some ']' || next == some '-' then
      return (← itemSet? flags first, rest)
    else
      let (last, rest) ← readItem? flags (flags.skip after)
      return (← rangeSet? flags first last, rest)
  | _ => return (← itemSet? flags first, rest)

/-- Reads classes until the outermost one is closed, given the innermost open class
and those around it.  Each round reads at least one character. -/
def readRest? (flags : Flags) :
    Nat → OpenClass → List OpenClass → List Char → Option (NestedSet × List Char)
  | 0, _, _, _ => none
  | fuel + 1, current, around, s =>
    match flags.skip s with
    | [] => none
    | '[' :: rest =>
      match readPosix? rest with
      | some (negated, set, after) => do
        let set ← flags.classSet? negated set
        readRest? flags fuel (current.add ⟨set, 0⟩) around after
      | none =>
        let (inner, rest) := readStart flags rest
        readRest? flags fuel inner (current :: around) rest
    | ']' :: rest => do
      let closed ← current.close? flags
      match around with
      | [] => return (closed, rest)
      | outer :: around => readRest? flags fuel (outer.add closed) around rest
    | s =>
      match SetOperation.read? s with
      | some (operation, rest) =>
        readRest? flags fuel (current.operate flags operation) around rest
      | none => do
        let (set, rest) ← readRange? flags s
        readRest? flags fuel (current.add ⟨set, 0⟩) around rest

/-- Reads a class after its opening bracket. -/
def read? (flags : Flags) (s : List Char) : Option (NestedSet × List Char) :=
  let (c, rest) := readStart flags s
  readRest? flags (s.length + 1) c [] rest

end Class

end ValueAssertions.Regex
