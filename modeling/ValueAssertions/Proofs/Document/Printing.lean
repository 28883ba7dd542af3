import ValueAssertions.Document.Reader
import ValueAssertions.Proofs.Text.Joined
import ValueAssertions.Proofs.Text.Quoted

/-!
# Objects of texts are read back

An object whose members are all texts is printed without blanks and read back as it was,
whatever characters its keys and texts are made of (`Document.parse?_print_texts`).

The reader has two stages, and each has a step lemma for what a member is made of.  The first
makes tokens of characters: an escape puts the character that it stands for onto the string
that is being read (`Token.scan?_escaped`), so a quoted text becomes one token
(`Token.scan?_encode`).  The second makes a tree of the tokens: a comma and the tokens of a
member put one more member into the object that is open (`Document.assemble?_member`).
-/

namespace ValueAssertions

/-! ## Characters to tokens -/

namespace Token

variable {state next : Partial} {c : Char} {token : Token}

/-- A character that ends no token. -/
theorem scan?_of_advance? (h : advance? state c = some ([], next)) (rest : List Char) :
    scan? state (c :: rest) = scan? next rest := by
  rw [scan?, h]
  cases hrest : scan? next rest <;> simp [hrest]

/-- A character that ends one token. -/
theorem scan?_of_advance?_token (h : advance? state c = some ([token], next))
    (rest : List Char) : scan? state (c :: rest) = (scan? next rest).map (token :: ·) := by
  rw [scan?, h]
  cases hrest : scan? next rest <;> simp [hrest]

theorem advance?_verbatim (hc : Quoted.Verbatim c) (reversed : List Char) :
    advance? (.quoted reversed) c = some ([], .quoted (c :: reversed)) := by
  obtain ⟨hquote, hbackslash, hblank⟩ := hc
  rw [advance?, if_neg hquote, if_neg hbackslash, if_neg (Char.not_lt.mpr hblank)]

/-- A letter after a backslash puts the character that it stands for onto the string. -/
theorem scan?_letter {letter : Char} (h : escapedLetter? letter = some c)
    (reversed rest : List Char) :
    scan? (.quoted reversed) ('\\' :: letter :: rest) = scan? (.quoted (c :: reversed)) rest := by
  have hletter : advance? (.escape reversed) letter = some ([], .quoted (c :: reversed)) := by
    have hne : letter ≠ 'u' := by
      rintro rfl
      cases h
    rw [advance?, if_neg hne, h]
    rfl
  have hbackslash : advance? (.quoted reversed) '\\' = some ([], .escape reversed) := rfl
  rw [scan?_of_advance? hbackslash, scan?_of_advance? hletter]

theorem addUnit?_none {value : Nat} (h : value < 0xd800) (reversed : List Char) :
    addUnit? reversed none value = some (.quoted (Char.ofNat value :: reversed)) := by
  have hhigh : ¬ (0xd800 ≤ value ∧ value < 0xdc00) := by omega
  have hlow : ¬ (0xdc00 ≤ value ∧ value < 0xe000) := by omega
  simp only [addUnit?, hhigh, hlow, if_false]

/-- Four digits after a backslash put the character with that number onto the string. -/
theorem scan?_controlEscape (h : c < ' ') (reversed rest : List Char) :
    scan? (.quoted reversed) (Quoted.controlEscape c ++ rest) =
      scan? (.quoted (c :: reversed)) rest := by
  obtain ⟨hhigh, hlow⟩ := Quoted.hexDigit?_controlEscape h
  have hlt : c.toNat < 32 := Quoted.toNat_lt_of_lt_blank h
  have hvalue : 16 * (c.toNat / 16) + c.toNat % 16 = c.toNat := by omega
  have hthird : advance? (.unit reversed none 2 0) (Nat.digitChar (c.toNat / 16)) =
      some ([], .unit reversed none 3 (c.toNat / 16)) := by
    rw [advance?, hhigh]
    simp
  have hfourth : advance? (.unit reversed none 3 (c.toNat / 16)) (Nat.digitChar (c.toNat % 16)) =
      some ([], .quoted (c :: reversed)) := by
    rw [advance?, hlow]
    simp [hvalue, addUnit?_none (show c.toNat < 0xd800 by omega)]
  have hbackslash : advance? (.quoted reversed) '\\' = some ([], .escape reversed) := rfl
  have hu : advance? (.escape reversed) 'u' = some ([], .unit reversed none 0 0) := rfl
  have hfirst : advance? (.unit reversed none 0 0) '0' = some ([], .unit reversed none 1 0) := rfl
  have hsecond : advance? (.unit reversed none 1 0) '0' = some ([], .unit reversed none 2 0) := rfl
  simp only [Quoted.controlEscape, List.cons_append, List.nil_append]
  rw [scan?_of_advance? hbackslash, scan?_of_advance? hu, scan?_of_advance? hfirst,
    scan?_of_advance? hsecond, scan?_of_advance? hthird, scan?_of_advance? hfourth]

/-- An escape puts the character that it stands for onto the string. -/
theorem scan?_escaped (c : Char) (reversed rest : List Char) :
    scan? (.quoted reversed) (Quoted.escaped c ++ rest) = scan? (.quoted (c :: reversed)) rest := by
  rcases Quoted.escaped_cases c with ⟨hc, heq⟩ | ⟨letter, hletter, heq⟩ | ⟨hc, heq⟩ <;> rw [heq]
  · exact scan?_of_advance? (advance?_verbatim hc reversed) rest
  · exact scan?_letter hletter reversed rest
  · exact scan?_controlEscape hc reversed rest

theorem scan?_flatMap_escaped (s reversed rest : List Char) :
    scan? (.quoted reversed) (s.flatMap Quoted.escaped ++ rest) =
      scan? (.quoted (s.reverse ++ reversed)) rest := by
  induction s generalizing reversed with
  | nil => rfl
  | cons c s ih =>
      rw [List.flatMap_cons, List.append_assoc, scan?_escaped, ih, List.reverse_cons,
        List.append_assoc]
      rfl

/-- A quoted text becomes one token. -/
theorem scan?_encode (s : String) (rest : List Char) :
    scan? .nothing (Quoted.encode s.toList ++ rest) =
      (scan? .nothing rest).map (.string s :: ·) := by
  have hopens : advance? .nothing '"' = some ([], .quoted []) := rfl
  have hcloses : advance? (.quoted s.toList.reverse) '"' = some ([.string s], .nothing) := by
    rw [advance?, if_pos rfl, List.reverse_reverse, String.ofList_toList]
  rw [Quoted.encode, List.cons_append, List.append_assoc, scan?_of_advance? hopens,
    scan?_flatMap_escaped, List.append_nil]
  exact scan?_of_advance?_token hcloses rest

end Token

/-! ## Members -/

/-- A member whose value is a text. -/
def textMember (entry : String × String) : String × Document :=
  (entry.1, .string entry.2)

/-- The characters of a member whose value is a text. -/
def memberText (entry : String × String) : List Char :=
  Quoted.encode entry.1.toList ++ ':' :: Quoted.encode entry.2.toList

/-- The tokens of a member whose value is a text. -/
def memberTokens (entry : String × String) : List Token :=
  [.string entry.1, .colon, .string entry.2]

theorem memberCharacters_map_textMember (entries : List (String × String)) :
    Document.memberCharacters (entries.map textMember) = entries.map memberText := by
  induction entries with
  | nil => rfl
  | cons entry entries ih =>
      rw [List.map_cons, textMember, Document.memberCharacters, ih]
      rfl

namespace Token

theorem scan?_memberText (entry : String × String) (rest : List Char) :
    scan? .nothing (memberText entry ++ rest) =
      (scan? .nothing rest).map (memberTokens entry ++ ·) := by
  have hcolon : advance? .nothing ':' = some ([.colon], .nothing) := rfl
  rw [memberText, List.append_assoc, scan?_encode, List.cons_append,
    scan?_of_advance?_token hcolon, scan?_encode, Option.map_map, Option.map_map]
  rfl

/-- The members after the first one, and the bracket that closes the object. -/
theorem scan?_flatMap_memberText (entries : List (String × String)) :
    scan? .nothing ((entries.flatMap fun entry => ',' :: memberText entry) ++ ['}']) =
      some ((entries.flatMap fun entry => .comma :: memberTokens entry) ++ [.closeObject]) := by
  have hcomma : advance? .nothing ',' = some ([.comma], .nothing) := rfl
  induction entries with
  | nil => rfl
  | cons entry entries ih =>
      rw [List.flatMap_cons, List.append_assoc, List.cons_append, scan?_of_advance?_token hcomma,
        scan?_memberText, ih]
      simp

end Token

/-! ## Tokens to a tree -/

namespace Document

/-- A comma and the tokens of a member put one more member into an object. -/
theorem assemble?_member (reversed : List (String × Document)) (key : String)
    (document : Document) (entry : String × String) (rest : List Token) :
    assemble? [.object reversed key] (.after document) (.comma :: (memberTokens entry ++ rest)) =
      assemble? [.object ((key, document) :: reversed) entry.1] (.after (.string entry.2)) rest :=
  rfl

/-- The members after the first one, and the bracket that closes the object. -/
theorem assemble?_members (reversed : List (String × Document)) (entry : String × String)
    (entries : List (String × String)) :
    assemble? [.object reversed entry.1] (.after (.string entry.2))
        ((entries.flatMap fun entry => .comma :: memberTokens entry) ++ [.closeObject]) =
      some (.object (reversed.reverse ++ (entry :: entries).map textMember)) := by
  induction entries generalizing reversed entry with
  | nil =>
      change some (Document.object (textMember entry :: reversed).reverse) = _
      rw [List.reverse_cons]
      rfl
  | cons next entries ih =>
      rw [List.flatMap_cons, List.append_assoc, List.cons_append, assemble?_member, ih,
        List.reverse_cons, List.append_assoc]
      rfl

/-- **Objects of texts are read back.** -/
theorem parse?_print_texts (entries : List (String × String)) :
    parse? (Document.object (entries.map textMember)).print =
      some (.object (entries.map textMember)) := by
  have hopens : Token.advance? .nothing '{' = some ([.openObject], .nothing) := rfl
  rw [parse?, print, String.toList_ofList, characters, memberCharacters_map_textMember,
    Token.scan?_of_advance?_token hopens]
  cases entries with
  | nil => rfl
  | cons entry entries =>
      rw [joinWith_map_cons, List.append_assoc, Token.scan?_memberText,
        Token.scan?_flatMap_memberText]
      exact assemble?_members [] entry entries

end Document

end ValueAssertions
