import ValueAssertions.Template.Context
import ValueAssertions.Value.Text

/-!
# Placeholders

A placeholder is a name between percent signs.  Four names are built in and
computed from the tokens `value` and `actual`; every other name stands for the
plain text of its token.  A placeholder whose name is neither is text, and the
percent sign that ends it may begin the next placeholder.

A text is cut into pieces (`pieces`), text and names, of which the names alone
depend on the values of the context.
-/

namespace ValueAssertions.Template

/-- The names that do not stand for a token. -/
inductive BuiltIn where
  /-- The tag of the type of `value`. -/
  | type
  /-- The length of `value`. -/
  | length
  /-- The quoted form of `actual`. -/
  | actual
  /-- The quoted form of `value`. -/
  | value
deriving DecidableEq

namespace BuiltIn

/-- All built-in names. -/
def all : List BuiltIn := [.type, .length, .actual, .value]

/-- How a built-in name is written. -/
def name : BuiltIn → String
  | .type => "_TYPE_"
  | .length => "_LEN_"
  | .actual => "_ACTUAL_"
  | .value => "_VALUE_"

/-- The built-in name that is written so. -/
def ofName? (name : String) : Option BuiltIn :=
  all.find? fun builtIn => builtIn.name == name

/-- What a built-in name stands for. -/
def expand (builtIn : BuiltIn) (context : Context) : String :=
  match builtIn with
  | .type => (context.value "value").typeTag
  | .length =>
    match (context.value "value").length? with
    | some n => String.ofList (Nat.toDigits 10 n)
    | none => "undefined"
  | .actual => (context.value "actual").quoted
  | .value => (context.value "value").quoted

end BuiltIn

/-- Whether a character can stand in the name of a placeholder. -/
def isNameCharacter (c : Char) : Bool :=
  c.isAlphanum || c == '_' || c == '.' || c == '$' || c == '-'

/-- The name between percent signs at the start of a text, with the text after it. -/
def placeholderAt? : List Char → Option (List Char × List Char)
  | '%' :: rest =>
    match rest.takeWhile isNameCharacter, rest.dropWhile isNameCharacter with
    | first :: others, '%' :: after => some (first :: others, after)
    | _, _ => none
  | _ => none

/-- A name at the start of a text stands there, and is not empty. -/
theorem placeholderAt?_eq_some {s name after : List Char}
    (h : placeholderAt? s = some (name, after)) :
    s = '%' :: (name ++ '%' :: after) ∧ name ≠ [] := by
  unfold placeholderAt? at h
  split at h
  · next rest =>
    split at h
    · next first others after' hname hrest =>
      simp only [Option.some.injEq, Prod.mk.injEq] at h
      obtain ⟨rfl, rfl⟩ := h
      refine ⟨?_, by simp⟩
      rw [← hname, ← hrest, List.takeWhile_append_dropWhile]
    · cases h
  · cases h

/-- The first name between percent signs, with the texts before and after it. -/
def findPlaceholder? : List Char → Option (List Char × List Char × List Char)
  | [] => none
  | c :: rest =>
    match placeholderAt? (c :: rest) with
    | some (name, after) => some ([], name, after)
    | none => (findPlaceholder? rest).map fun (before, name, after) => (c :: before, name, after)

/-- A name that has been found stands in its place in the text, and is not empty. -/
theorem findPlaceholder?_eq_some {s before name after : List Char}
    (h : findPlaceholder? s = some (before, name, after)) :
    s = before ++ '%' :: (name ++ '%' :: after) ∧ name ≠ [] := by
  induction s generalizing before name after with
  | nil => simp [findPlaceholder?] at h
  | cons c rest ih =>
    unfold findPlaceholder? at h
    split at h
    · next hat =>
      simp only [Option.some.injEq, Prod.mk.injEq] at h
      obtain ⟨rfl, rfl, rfl⟩ := h
      exact placeholderAt?_eq_some hat
    · simp only [Option.map_eq_some_iff, Prod.mk.injEq] at h
      obtain ⟨⟨b, n, a⟩, hfound, rfl, rfl, rfl⟩ := h
      obtain ⟨heq, hne⟩ := ih hfound
      exact ⟨by simp [heq], hne⟩

/-- A part of a text. -/
inductive Piece where
  /-- Text that stands for itself. -/
  | text (s : List Char)
  /-- The name of a placeholder. -/
  | placeholder (name : String)

/-- The pieces of a text, given which names stand for something. -/
def pieces (resolves : String → Bool) (s : List Char) : List Piece :=
  match _h : findPlaceholder? s with
  | none => [.text s]
  | some (before, name, after) =>
    if resolves (String.ofList name) then
      .text before :: .placeholder (String.ofList name) :: pieces resolves after
    else
      .text (before ++ '%' :: name) :: pieces resolves ('%' :: after)
termination_by s.length
decreasing_by
  all_goals
    obtain ⟨heq, hne⟩ := findPlaceholder?_eq_some _h
    have := congrArg List.length heq
    have := List.length_pos_iff.mpr hne
    simp only [List.length_append, List.length_cons] at *
    omega

/-- What a name stands for, unless it is neither built in nor a token. -/
def expansion? (context : Context) (name : String) : Option String :=
  match BuiltIn.ofName? name with
  | some builtIn => some (builtIn.expand context)
  | none => (context.get? name).map Value.plain

/-- What a piece stands for. -/
def Piece.expand (context : Context) : Piece → List Char
  | .text s => s
  | .placeholder name => ((expansion? context name).getD "").toList

/-- The text with every placeholder replaced that stands for something. -/
def substitute (context : Context) (s : List Char) : List Char :=
  (pieces (fun name => (expansion? context name).isSome) s).flatMap (Piece.expand context)

end ValueAssertions.Template
