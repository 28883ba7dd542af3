/-!
# Text inside text

Whether one text begins, ends or contains another, and texts put together with
separators.
-/

namespace ValueAssertions

/-- Whether `part` occurs somewhere in the text. -/
def occursIn (part : List Char) : List Char → Bool
  | [] => part.isEmpty
  | c :: rest => part.isPrefixOf (c :: rest) || occursIn part rest

/-- The texts in order with `separator` between each two. -/
def joinWith (separator : List Char) : List (List Char) → List Char
  | [] => []
  | [last] => last
  | first :: rest => first ++ separator ++ joinWith separator rest

/-- Alternatives as a phrase: commas between them and `or` before the last. -/
def joinAlternatives : List String → String
  | [] => ""
  | [only] => only
  | phrases =>
    String.intercalate ", " phrases.dropLast ++ " or " ++ phrases.getLastD ""

end ValueAssertions
