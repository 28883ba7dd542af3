import ValueAssertions.Regex.Expression
import ValueAssertions.Text.Blank

/-!
# Flags of regular expressions

Flags change how the text of a regular expression is read: whether blanks in it
count, and which characters and places a written part stands for.  Without the
`unicode` flag only sets of ASCII characters can be written.
-/

namespace ValueAssertions.Regex

/-- The flags in force at a place of a written expression. -/
structure Flags where
  /-- Letters stand for those of either case. -/
  ignoreCase : Bool
  /-- `^` and `$` stand for the ends of lines. -/
  multiLine : Bool
  /-- `.` stands for a line feed too. -/
  dotAll : Bool
  /-- Classes, words and cases are those of Unicode. -/
  unicode : Bool
  /-- A carriage return ends a line as a line feed does. -/
  returns : Bool
  /-- Blanks and comments in the written expression do not count. -/
  verbose : Bool

namespace Flags

/-- Passes over blanks, and over comments from `#` to the end of the line. -/
def skipIgnored (inComment : Bool) : List Char → List Char
  | [] => []
  | c :: rest =>
    if inComment then skipIgnored (c != '\n') rest
    else if isBlank c then skipIgnored false rest
    else if c = '#' then skipIgnored true rest
    else c :: rest

/-- Passes over what does not count under the flags. -/
def skip (flags : Flags) (s : List Char) : List Char :=
  if flags.verbose then skipIgnored false s else s

theorem skipIgnored_length_le (inComment : Bool) (s : List Char) :
    (skipIgnored inComment s).length ≤ s.length := by
  induction s generalizing inComment with
  | nil => simp [skipIgnored]
  | cons c rest ih =>
    unfold skipIgnored
    split
    · exact Nat.le_succ_of_le (ih _)
    · split
      · exact Nat.le_succ_of_le (ih _)
      · split
        · exact Nat.le_succ_of_le (ih _)
        · exact Nat.le_refl _

theorem skip_length_le (flags : Flags) (s : List Char) : (flags.skip s).length ≤ s.length := by
  unfold skip
  split
  · exact skipIgnored_length_le _ _
  · exact Nat.le_refl _

/-- The flags after a letter has switched one of them; greediness does not matter
to a search. -/
def set? (flags : Flags) (letter : Char) (value : Bool) : Option Flags :=
  match letter with
  | 'i' => some { flags with ignoreCase := value }
  | 'm' => some { flags with multiLine := value }
  | 's' => some { flags with dotAll := value }
  | 'u' => some { flags with unicode := value }
  | 'R' => some { flags with returns := value }
  | 'x' => some { flags with verbose := value }
  | 'U' => some flags
  | _ => none

/-- The set that a written class stands for: closed under case if the flags say
so, then complemented.  There is none when it needs the `unicode` flag. -/
def classSet? (flags : Flags) (negated : Bool) (set : CharacterSet) : Option CharacterSet :=
  if flags.unicode then
    let set := if flags.ignoreCase then Unicode.foldCase set else set
    some (if negated then set.complement else set)
  else
    let set := if flags.ignoreCase then Unicode.foldAsciiCase set else set
    let set := if negated then set.complement else set
    if set.isAscii then some set else none

/-- The expression of a single character.  A character that is written as two
hexadecimal digits is a byte when the `unicode` flag is off. -/
def literal? (flags : Flags) (c : Char) (byte : Bool) : Option Expression :=
  let set := CharacterSet.singleton c
  if flags.unicode then
    some (.characters (if flags.ignoreCase then Unicode.foldCase set else set))
  else if byte && !set.isAscii then none
  else some (.characters (if flags.ignoreCase then Unicode.foldAsciiCase set else set))

/-- The expression of a dot. -/
def dot? (flags : Flags) : Option Expression :=
  if !flags.unicode then none
  else
    let excluded : CharacterSet :=
      if flags.dotAll then .empty
      else if flags.returns then ⟨[(10, 10), (13, 13)]⟩
      else ⟨[(10, 10)]⟩
    some (.characters excluded.complement)

/-- What `^` stands for. -/
def caret (flags : Flags) : Assertion :=
  if flags.multiLine then .lineStart flags.returns else .textStart

/-- What `$` stands for. -/
def dollar (flags : Flags) : Assertion :=
  if flags.multiLine then .lineEnd flags.returns else .textEnd

end Flags

end ValueAssertions.Regex
