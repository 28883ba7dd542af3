import ValueAssertions.Proofs.Template.Written

/-!
# Pieces of a message

A text is cut into pieces, and each name among them gives way to what it stands for.
This file says what comes out, and that nothing else does:

* the pieces of a text, written one after another, are the text
  (`flatMap_print_pieces`), and the names among them all stand for something
  (`resolves_of_mem_pieces`), so that the result is filled in from the pieces
  (`fills_substitute`);
* which names stand for something depends on the names of the tokens alone
  (`isSome_expansion?`), and so do the pieces;
* a text that is written as pieces, of texts without percent signs and of names
  that stand for something, is filled in piece by piece (`substitute_print`).

The cut goes from left to right, to the end of the first placeholder if its name stands
for something, and up to the percent sign at its end otherwise.  Facts about the pieces
of all texts go by the recursion of `pieces`, those about a written text by induction
on its own pieces.
-/

namespace ValueAssertions.Template

/-! ## The pieces of a text -/

/-- How a piece is written. -/
def Piece.print : Piece → List Char
  | .text s => s
  | .placeholder name => '%' :: (name.toList ++ ['%'])

section Pieces

variable {resolves : String → Bool} {s before name after : List Char}

theorem pieces_of_none (h : findPlaceholder? s = none) : pieces resolves s = [.text s] := by
  rw [pieces, h]

theorem pieces_of_resolves (h : findPlaceholder? s = some (before, name, after))
    (hresolves : resolves (String.ofList name) = true) :
    pieces resolves s =
      .text before :: .placeholder (String.ofList name) :: pieces resolves after := by
  rw [pieces, h]
  exact if_pos hresolves

theorem pieces_of_not_resolves (h : findPlaceholder? s = some (before, name, after))
    (hresolves : resolves (String.ofList name) = false) :
    pieces resolves s = .text (before ++ '%' :: name) :: pieces resolves ('%' :: after) := by
  rw [pieces, h]
  exact if_neg (by simp [hresolves])

/-- Induction on a text from one placeholder to the next. -/
@[elab_as_elim]
theorem pieces_induction (resolves : String → Bool) {motive : List Char → Prop}
    (none : ∀ s, findPlaceholder? s = none → motive s)
    (placeholder : ∀ s before name after, findPlaceholder? s = some (before, name, after) →
      resolves (String.ofList name) = true → motive after → motive s)
    (text : ∀ s before name after, findPlaceholder? s = some (before, name, after) →
      resolves (String.ofList name) = false → motive ('%' :: after) → motive s)
    (s : List Char) : motive s := by
  induction s using pieces.induct resolves with
  | case1 s h => exact none s h
  | case2 s before name after h hresolves ih =>
      exact placeholder s before name after h hresolves ih
  | case3 s before name after h hresolves ih =>
      exact text s before name after h (by simpa using hresolves) ih

/-- The pieces of a text, written one after another, are the text. -/
theorem flatMap_print_pieces (resolves : String → Bool) (s : List Char) :
    (pieces resolves s).flatMap Piece.print = s := by
  induction s using pieces_induction resolves with
  | none s h => simp [pieces_of_none h, Piece.print]
  | placeholder s before name after h hresolves ih =>
      rw [pieces_of_resolves h hresolves, List.flatMap_cons, List.flatMap_cons, ih,
        (findPlaceholder?_eq_some h).1]
      simp [Piece.print]
  | text s before name after h hresolves ih =>
      rw [pieces_of_not_resolves h hresolves, List.flatMap_cons, ih,
        (findPlaceholder?_eq_some h).1]
      simp [Piece.print]

/-- The names among the pieces stand for something. -/
theorem resolves_of_mem_pieces {name : String} (h : .placeholder name ∈ pieces resolves s) :
    resolves name = true := by
  induction s using pieces_induction resolves with
  | none s hnone => simp [pieces_of_none hnone] at h
  | placeholder s before found after hfound hresolves ih =>
      rw [pieces_of_resolves hfound hresolves] at h
      rcases List.mem_cons.mp h with heq | h
      · cases heq
      rcases List.mem_cons.mp h with heq | h
      · cases heq
        exact hresolves
      · exact ih h
  | text s before found after hfound hresolves ih =>
      rw [pieces_of_not_resolves hfound hresolves] at h
      rcases List.mem_cons.mp h with heq | h
      · cases heq
      · exact ih h

end Pieces

/-! ## Filling in -/

/-- What a name stands for in a context: a built-in name for what it is computed to be,
and any other for the plain text of its token. -/
inductive StandsFor (context : Context) : String → List Char → Prop
  | builtIn (name : BuiltIn) : StandsFor context name.name (name.expand context).toList
  | token {name : String} {v : Value} (hname : ∀ other : BuiltIn, other.name ≠ name)
      (h : context.get? name = some v) : StandsFor context name v.plain.toList

/-- A text is made of pieces in order, with what it stands for in the place of each
name. -/
inductive Fills (context : Context) : List Piece → List Char → Prop
  | nil : Fills context [] []
  | text {s t : List Char} {rest : List Piece} (hrest : Fills context rest t) :
      Fills context (.text s :: rest) (s ++ t)
  | placeholder {name : String} {s t : List Char} {rest : List Piece}
      (hname : StandsFor context name s) (hrest : Fills context rest t) :
      Fills context (.placeholder name :: rest) (s ++ t)

theorem Fills.append {context : Context} {ps qs : List Piece} {s t : List Char}
    (hs : Fills context ps s) (ht : Fills context qs t) : Fills context (ps ++ qs) (s ++ t) := by
  induction hs with
  | nil => exact ht
  | text _ ih =>
      rw [List.append_assoc]
      exact .text ih
  | placeholder hname _ ih =>
      rw [List.append_assoc]
      exact .placeholder hname ih

namespace BuiltIn

theorem ofName?_name (builtIn : BuiltIn) : ofName? builtIn.name = some builtIn := by
  cases builtIn <;> rfl

theorem name_eq_of_ofName? {name : String} {builtIn : BuiltIn}
    (h : ofName? name = some builtIn) : builtIn.name = name := by
  simpa using List.find?_some h

end BuiltIn

section Expansion

variable {context : Context} {name : String}

theorem standsFor_of_expansion? {text : String} (h : expansion? context name = some text) :
    StandsFor context name text.toList := by
  unfold expansion? at h
  split at h
  · next builtIn hbuiltIn =>
    cases h
    obtain rfl := BuiltIn.name_eq_of_ofName? hbuiltIn
    exact .builtIn builtIn
  · next hbuiltIn =>
    obtain ⟨v, hv, rfl⟩ := Option.map_eq_some_iff.mp h
    refine .token ?_ hv
    rintro other rfl
    rw [BuiltIn.ofName?_name] at hbuiltIn
    cases hbuiltIn

/-- A name stands for something when it is built in or the name of a token. -/
theorem isSome_expansion? (context : Context) (name : String) :
    (expansion? context name).isSome =
      ((BuiltIn.ofName? name).isSome || context.contains name) := by
  unfold expansion? Context.contains
  cases BuiltIn.ofName? name <;> simp

theorem fills_flatMap_expand {ps : List Piece}
    (h : ∀ name, .placeholder name ∈ ps → (expansion? context name).isSome = true) :
    Fills context ps (ps.flatMap (Piece.expand context)) := by
  induction ps with
  | nil => exact .nil
  | cons p rest ih =>
      have hrest := ih fun name hname => h name (List.mem_cons_of_mem p hname)
      rw [List.flatMap_cons]
      cases p with
      | text s => exact .text hrest
      | placeholder name =>
          obtain ⟨text, htext⟩ := Option.isSome_iff_exists.mp (h name List.mem_cons_self)
          rw [Piece.expand, htext]
          exact .placeholder (standsFor_of_expansion? htext) hrest

theorem expansion?_of_standsFor {text : List Char} (h : StandsFor context name text) :
    ∃ found, expansion? context name = some found ∧ found.toList = text := by
  cases h with
  | builtIn builtIn =>
      refine ⟨_, ?_, rfl⟩
      rw [expansion?, BuiltIn.ofName?_name]
  | token hname h =>
      have hnone : BuiltIn.ofName? name = none := by
        rw [Option.eq_none_iff_forall_ne_some]
        exact fun other hother => hname other (BuiltIn.name_eq_of_ofName? hother)
      refine ⟨_, ?_, rfl⟩
      rw [expansion?, hnone, h]
      rfl

/-- The result is filled in from the pieces of the text. -/
theorem fills_substitute (context : Context) (s : List Char) :
    Fills context (pieces (fun name => (expansion? context name).isSome) s)
      (substitute context s) :=
  fills_flatMap_expand fun _ h => resolves_of_mem_pieces h

end Expansion

/-! ## Written pieces -/

instance (s : List Char) : Decidable (IsName s) :=
  @instDecidableAnd _ _ inferInstance (List.decidableBAll (isNameCharacter · = true) s)

/-- A piece that is read as it is written, if its name stands for something. -/
def Piece.Readable : Piece → Prop
  | .text s => '%' ∉ s
  | .placeholder name => IsName name.toList

instance : DecidablePred Piece.Readable
  | .text s => inferInstanceAs (Decidable ('%' ∉ s))
  | .placeholder name => inferInstanceAs (Decidable (IsName name.toList))

section Written

variable {s t name : List Char} {context : Context}

/-- A placeholder is read where one is written. -/
theorem placeholderAt?_eq_some_iff :
    placeholderAt? s = some (name, t) ↔ s = '%' :: (name ++ '%' :: t) ∧ IsName name := by
  constructor
  · intro h
    obtain ⟨rfl, hne⟩ := placeholderAt?_eq_some h
    refine ⟨rfl, hne, ?_⟩
    unfold placeholderAt? at h
    split at h
    · next rest heq =>
      split at h
      · next first others after hspan _ =>
        cases h
        exact fun c hc => List.mem_takeWhile_imp (hspan ▸ hc)
      · cases h
    · cases h
  · rintro ⟨rfl, hname⟩
    have hend : ∀ c ∈ ('%' :: t).head?, isNameCharacter c = false := by
      rintro _ ⟨⟩
      decide
    obtain ⟨c, rest, rfl⟩ := List.exists_cons_of_ne_nil hname.1
    simp only [placeholderAt?, takeWhile_span hname.2 hend, dropWhile_span hname.2 hend]

/-- A name between percent signs is found where it stands. -/
theorem findPlaceholder?_name (hname : IsName name) (t : List Char) :
    findPlaceholder? ('%' :: (name ++ '%' :: t)) = some ([], name, t) := by
  rw [findPlaceholder?, placeholderAt?_eq_some_iff.mpr ⟨rfl, hname⟩]

/-- Text without percent signs is passed over. -/
theorem findPlaceholder?_append (hs : '%' ∉ s) (t : List Char) :
    findPlaceholder? (s ++ t) = (findPlaceholder? t).map fun found => (s ++ found.1, found.2) := by
  induction s with
  | nil => simp
  | cons c s ih =>
      obtain ⟨hc, hs⟩ : '%' ≠ c ∧ '%' ∉ s := by simpa using hs
      have hat : placeholderAt? (c :: (s ++ t)) = none := by
        rw [placeholderAt?]
        rintro rest heq
        exact hc (List.cons_eq_cons.mp heq).1.symm
      rw [List.cons_append, findPlaceholder?, hat, ih hs, Option.map_map]
      rfl

/-- Text that the search passes over is kept. -/
theorem substitute_of_findPlaceholder? (h : findPlaceholder? (s ++ t) =
    (findPlaceholder? t).map fun found => (s ++ found.1, found.2)) :
    substitute context (s ++ t) = s ++ substitute context t := by
  unfold substitute
  cases ht : findPlaceholder? t with
  | none =>
      rw [ht, Option.map_none] at h
      simp [pieces_of_none ht, pieces_of_none h, Piece.expand]
  | some found =>
      obtain ⟨before, name, after⟩ := found
      -- The first placeholder is the same, only with more text before it.
      rw [ht, Option.map_some] at h
      cases hresolves : (expansion? context (String.ofList name)).isSome with
      | true =>
          rw [pieces_of_resolves ht hresolves, pieces_of_resolves h hresolves]
          simp [Piece.expand]
      | false =>
          rw [pieces_of_not_resolves ht hresolves, pieces_of_not_resolves h hresolves]
          simp [Piece.expand]

theorem substitute_append (hs : '%' ∉ s) (t : List Char) :
    substitute context (s ++ t) = s ++ substitute context t :=
  substitute_of_findPlaceholder? (findPlaceholder?_append hs t)

theorem substitute_name {name : String} (hname : IsName name.toList)
    (hsome : (expansion? context name).isSome = true) (t : List Char) :
    substitute context ((Piece.placeholder name).print ++ t) =
      (Piece.placeholder name).expand context ++ substitute context t := by
  have hfound : findPlaceholder? ((Piece.placeholder name).print ++ t) =
      some ([], name.toList, t) := by
    have := findPlaceholder?_name hname t
    simpa [Piece.print] using this
  have hresolves : (expansion? context (String.ofList name.toList)).isSome = true := by
    rwa [String.ofList_toList]
  unfold substitute
  rw [pieces_of_resolves hfound hresolves, String.ofList_toList]
  rfl

/-- A written text is filled in piece by piece. -/
theorem substitute_print {ps : List Piece} (h : ∀ p ∈ ps, p.Readable)
    (hfills : Fills context ps t) : substitute context (ps.flatMap Piece.print) = t := by
  induction hfills with
  | nil =>
      rw [List.flatMap_nil, substitute, pieces_of_none rfl]
      rfl
  | text _ ih =>
      obtain ⟨htext, hrest⟩ := List.forall_mem_cons.mp h
      rw [List.flatMap_cons, Piece.print, substitute_append htext, ih hrest]
  | placeholder hname _ ih =>
      obtain ⟨hreadable, hrest⟩ := List.forall_mem_cons.mp h
      obtain ⟨found, hfound, rfl⟩ := expansion?_of_standsFor hname
      rw [List.flatMap_cons, substitute_name hreadable (by simp [hfound]), ih hrest, Piece.expand,
        hfound]
      rfl

end Written

end ValueAssertions.Template
