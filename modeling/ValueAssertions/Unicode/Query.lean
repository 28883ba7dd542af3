import ValueAssertions.Unicode.Category
import ValueAssertions.Unicode.Script
import ValueAssertions.Unicode.ScriptExtension
import ValueAssertions.Unicode.Property
import ValueAssertions.Unicode.Age
import ValueAssertions.Unicode.GraphemeBreak
import ValueAssertions.Unicode.WordBreak
import ValueAssertions.Unicode.SentenceBreak
import ValueAssertions.Unicode.CaseFolding

/-!
# Sets of characters by name

A name stands for a binary property, a general category or a script, in this
order.  A name with a value stands for the characters that have that value of a
category, of a script, of a script extension, of a break, or of an age, where a
version of the standard stands for all that was assigned up to it.  Names are
compared without case, blanks, hyphens and underscores and may begin with `is`.

The sets of digits, blanks and word characters and the closure under case
folding are built from the same tables.
-/

namespace ValueAssertions.Unicode

/-- The characters of a name that count: those in ASCII that are neither blanks
nor hyphens nor underscores, in lower case. -/
def significant (name : List Char) : List Char :=
  (name.filter fun c => c.toNat < 128 && c != ' ' && c != '_' && c != '-').map Char.toLower

/-- A name as tables spell it.  A leading `is` does not count, but `isc` is a
name of its own. -/
def normalizeName (name : List Char) : String :=
  match name with
  | first :: second :: rest =>
    if first.toLower = 'i' ∧ second.toLower = 's' then
      let kept := significant rest
      if kept = ['c'] then "isc" else String.ofList kept
    else String.ofList (significant name)
  | _ => String.ofList (significant name)

/-- The characters of a category of two letters. -/
def category (name : String) : CharacterSet :=
  (find? categories name).getD .empty

/-- The characters of any of some categories. -/
def anyCategory (names : List String) : CharacterSet :=
  .ofRanges (names.flatMap fun name => (category name).ranges)

/-- The characters that have been assigned. -/
def assigned : CharacterSet :=
  .ofRanges (categories.flatMap fun set => set.characters.ranges)

/-- The categories that are made of others, with their names. -/
def groupedCategories : List (List String × List String) := [
  (["c", "other"], ["cc", "cf", "co"]),
  (["l", "letter"], ["ll", "lm", "lo", "lt", "lu"]),
  (["lc", "casedletter"], ["ll", "lt", "lu"]),
  (["m", "mark", "combiningmark"], ["mc", "me", "mn"]),
  (["n", "number"], ["nd", "nl", "no"]),
  (["p", "punctuation", "punct"], ["pc", "pd", "pe", "pf", "pi", "po", "ps"]),
  (["s", "symbol"], ["sc", "sk", "sm", "so"]),
  (["z", "separator"], ["zl", "zp", "zs"])]

/-- The characters of a general category.  Whatever is unassigned belongs to the
category of the others too. -/
def categoryByName? (name : String) : Option CharacterSet :=
  if name = "any" then some (CharacterSet.complement .empty)
  else if name = "assigned" then some assigned
  else if name = "ascii" then some ⟨[(0, 127)]⟩
  else if name = "cn" ∨ name = "unassigned" then some assigned.complement
  else match groupedCategories.find? fun group => group.1.contains name with
    | some (names, parts) =>
      let set := anyCategory parts
      some (if names.contains "other" then set.union assigned.complement else set)
    | none => find? categories name

/-- The characters of a script. -/
def scriptByName? (name : String) : Option CharacterSet :=
  find? scripts name

/-- The characters of a script extension, which are those of the script unless
the tables list them apart. -/
def scriptExtensionByName? (name : String) : Option CharacterSet :=
  (find? scriptExtensions name).or (find? scripts name)

/-- The characters of a binary property. -/
def propertyByName? (name : String) : Option CharacterSet :=
  (find? propertiesAToF name).or (find? propertiesGToZ name)

/-- The characters that a version of the standard and those before it assigned. -/
def assignedByVersion? (name : String) : Option CharacterSet :=
  match ages.span fun set => !set.names.contains name with
  | (_, []) => none
  | (earlier, version :: _) =>
    some (.ofRanges ((version :: earlier).flatMap fun set => set.characters.ranges))

/-- The set that a name stands for.  Three names belong to a category although a
property is called so, too. -/
def byName? (name : List Char) : Option CharacterSet :=
  let name := normalizeName name
  let property := if ["cf", "sc", "lc"].contains name then none else propertyByName? name
  (property.or (categoryByName? name)).or (scriptByName? name)

/-- The set of the characters that have a value of a property. -/
def byValue? (property value : List Char) : Option CharacterSet :=
  let value := normalizeName value
  match normalizeName property with
  | "gc" | "generalcategory" => categoryByName? value
  | "sc" | "script" => scriptByName? value
  | "scx" | "scriptextensions" => scriptExtensionByName? value
  | "age" => assignedByVersion? value
  | "gcb" | "graphemeclusterbreak" => find? graphemeBreaks value
  | "wb" | "wordbreak" => find? wordBreaks value
  | "sb" | "sentencebreak" => find? sentenceBreaks value
  | _ => none

/-- The letters and what else counts as alphabetic. -/
def alphabetic : CharacterSet :=
  (propertyByName? "alphabetic").getD .empty

/-- The decimal digits. -/
def digits : CharacterSet :=
  category "nd"

/-- The blanks. -/
def blanks : CharacterSet :=
  (propertyByName? "whitespace").getD .empty

/-- The characters of words: alphabetic ones, marks, digits, connectors and the
two joiners. -/
def wordCharacters : CharacterSet :=
  .ofRanges (alphabetic.ranges ++
    (anyCategory ["mc", "me", "mn", "nd", "pc"]).ranges ++
    ((propertyByName? "joincontrol").getD .empty).ranges)

/-- The characters that names of groups may hold after their first one. -/
def alphanumeric : CharacterSet :=
  alphabetic.union (anyCategory ["nd", "nl", "no"])

/-- The set with every character that differs from one of its own in case only. -/
def foldCase (set : CharacterSet) : CharacterSet :=
  let groups := caseGroups.filter fun group => group.any set.hasCodePoint
  .ofRanges (set.ranges ++ groups.flatMap fun group => group.map fun code => (code, code))

/-- The set with the ASCII letters that differ from one of its own in case only. -/
def foldAsciiCase (set : CharacterSet) : CharacterSet :=
  let letters := (List.range 26).flatMap fun i =>
    let upper := 'A'.toNat + i
    let lower := 'a'.toNat + i
    if set.hasCodePoint upper || set.hasCodePoint lower then [(upper, upper), (lower, lower)]
    else []
  .ofRanges (set.ranges ++ letters)

end ValueAssertions.Unicode
