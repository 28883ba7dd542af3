import ValueAssertions.Proofs.Template.Structure

/-!
# Placeholders from left to right

Placeholders are replaced by going from one name between percent signs to the next.  The
rule behind it looks at one place of the text at a time (`Rewrites`): if a name that stands
for something is written there between percent signs, what it stands for takes its place,
and rewriting goes on after the second sign; if not, one character is kept.

`substitute_rewrites` says that the search from name to name does just this, for every text
and context.  It passes over nothing that the rule replaces: a name that stands for nothing
has no percent sign in it, so the next place that matters is the sign at its end.

A text in which the rule replaces nothing is kept (`substitute_of_settled`), and a text
without blocks has nothing to resolve (`resolve_of_blocks_eq_nil`), so a message that has
neither is rendered as itself.
-/

namespace ValueAssertions.Template

/-! ## The rule -/

/-- A text begins with a name between percent signs that stands for something. -/
def BeginsPlaceholder (context : Context) (s : List Char) : Prop :=
  ∃ name after text, s = '%' :: (name ++ '%' :: after) ∧ IsName name ∧
    StandsFor context (String.ofList name) text

/-- Rewriting a text at its first character, and then the rest. -/
inductive Rewrites (context : Context) : List Char → List Char → Prop
  | nil : Rewrites context [] []
  | placeholder {name text after t : List Char} (hname : IsName name)
      (htext : StandsFor context (String.ofList name) text) (hafter : Rewrites context after t) :
      Rewrites context ('%' :: (name ++ '%' :: after)) (text ++ t)
  | character {c : Char} {rest t : List Char} (hnone : ¬ BeginsPlaceholder context (c :: rest))
      (hrest : Rewrites context rest t) : Rewrites context (c :: rest) (c :: t)

section Rule

variable {context : Context} {c : Char} {s t name text after rest : List Char}

theorem IsName.percent_not_mem (hname : IsName name) : '%' ∉ name := by
  intro hmem
  have := hname.2 '%' hmem
  exact absurd this (by decide)

/-- A name stands for something when it has an expansion. -/
theorem exists_standsFor_iff {name : String} :
    (∃ text, StandsFor context name text) ↔ (expansion? context name).isSome = true := by
  rw [Option.isSome_iff_exists]
  constructor
  · rintro ⟨text, htext⟩
    obtain ⟨found, hfound, -⟩ := expansion?_of_standsFor htext
    exact ⟨found, hfound⟩
  · rintro ⟨found, hfound⟩
    exact ⟨_, standsFor_of_expansion? hfound⟩

/-- A placeholder that is written begins one when its name stands for something. -/
theorem beginsPlaceholder_iff (hname : IsName name) :
    BeginsPlaceholder context ('%' :: (name ++ '%' :: after)) ↔
      ∃ text, StandsFor context (String.ofList name) text := by
  constructor
  · rintro ⟨other, afterOther, text, heq, hother, htext⟩
    -- No other name can be read there.
    have hat : placeholderAt? ('%' :: (name ++ '%' :: after)) = some (other, afterOther) :=
      placeholderAt?_eq_some_iff.mpr ⟨heq, hother⟩
    rw [placeholderAt?_eq_some_iff.mpr ⟨rfl, hname⟩] at hat
    cases hat
    exact ⟨text, htext⟩
  · rintro ⟨text, htext⟩
    exact ⟨name, after, text, rfl, hname, htext⟩

theorem beginsPlaceholder_iff_any :
    BeginsPlaceholder context s ↔
      (placeholderAt? s).any (fun found => (expansion? context (String.ofList found.1)).isSome) =
        true := by
  rw [Option.any_eq_true]
  constructor
  · rintro ⟨name, after, text, heq, hname, htext⟩
    exact ⟨_, placeholderAt?_eq_some_iff.mpr ⟨heq, hname⟩, exists_standsFor_iff.mp ⟨text, htext⟩⟩
  · rintro ⟨⟨name, after⟩, hat, hsome⟩
    obtain ⟨heq, hname⟩ := placeholderAt?_eq_some_iff.mp hat
    obtain ⟨text, htext⟩ := exists_standsFor_iff.mpr hsome
    exact ⟨name, after, text, heq, hname, htext⟩

instance (context : Context) : DecidablePred (BeginsPlaceholder context) :=
  fun _ => decidable_of_iff _ beginsPlaceholder_iff_any.symm

/-- A name that stands for something gives way to it, and the rest is not read together with
it. -/
theorem substitute_placeholder (hname : IsName name)
    (htext : StandsFor context (String.ofList name) text) (after : List Char) :
    substitute context ('%' :: (name ++ '%' :: after)) = text ++ substitute context after := by
  obtain ⟨found, hfound, rfl⟩ := expansion?_of_standsFor htext
  have hprint : '%' :: (name ++ '%' :: after) =
      (Piece.placeholder (String.ofList name)).print ++ after := by
    simp [Piece.print]
  rw [hprint, substitute_name (by rwa [String.toList_ofList]) (by rw [hfound]; rfl), Piece.expand,
    hfound]
  rfl

/-- A name that stands for nothing is kept, up to the percent sign at its end. -/
theorem substitute_name_of_not_standsFor (hname : IsName name)
    (hnone : ∀ text, ¬ StandsFor context (String.ofList name) text) (after : List Char) :
    substitute context ('%' :: (name ++ '%' :: after)) =
      '%' :: (name ++ substitute context ('%' :: after)) := by
  have hresolves : (expansion? context (String.ofList name)).isSome = false := by
    rw [← Bool.not_eq_true, ← exists_standsFor_iff]
    exact not_exists.mpr hnone
  unfold substitute
  rw [pieces_of_not_resolves (findPlaceholder?_name hname after) hresolves]
  rfl

/-- Where no placeholder begins that stands for something, one character is kept. -/
theorem substitute_character (hnone : ¬ BeginsPlaceholder context (c :: rest)) :
    substitute context (c :: rest) = c :: substitute context rest := by
  cases hat : placeholderAt? (c :: rest) with
  | none =>
      refine substitute_of_findPlaceholder? (s := [c]) ?_
      rw [List.singleton_append, findPlaceholder?, hat]
      rfl
  | some found =>
      obtain ⟨name, after⟩ := found
      obtain ⟨heq, hname⟩ := placeholderAt?_eq_some_iff.mp hat
      obtain ⟨rfl, rfl⟩ := List.cons_eq_cons.mp heq
      rw [beginsPlaceholder_iff hname, not_exists] at hnone
      rw [substitute_name_of_not_standsFor hname hnone, substitute_append hname.percent_not_mem]

/-! ## Rewriting a whole text -/

/-- Every text is rewritten, to what the search makes of it. -/
theorem rewrites_substitute (context : Context) (s : List Char) :
    Rewrites context s (substitute context s) := by
  induction hlength : s.length using Nat.strong_induction_on generalizing s with
  | _ n ih =>
      cases s with
      | nil =>
          rw [substitute, pieces_of_none rfl]
          exact .nil
      | cons c rest =>
          by_cases hbegins : BeginsPlaceholder context (c :: rest)
          · obtain ⟨name, after, text, heq, hname, htext⟩ := hbegins
            have hshorter : after.length < n := by
              rw [← hlength, heq]
              simp only [List.length_cons, List.length_append]
              omega
            rw [heq, substitute_placeholder hname htext]
            exact .placeholder hname htext (ih _ hshorter after rfl)
          · rw [substitute_character hbegins]
            exact .character hbegins (ih _ (by rw [← hlength]; exact Nat.lt_succ_self _) rest rfl)

/-- A text is rewritten to nothing else. -/
theorem Rewrites.substitute_eq (h : Rewrites context s t) : substitute context s = t := by
  induction h with
  | nil => rw [substitute, pieces_of_none rfl]; rfl
  | placeholder hname htext _ ih => rw [substitute_placeholder hname htext, ih]
  | character hnone _ ih => rw [substitute_character hnone, ih]

end Rule

/-! ## Texts that are kept -/

/-- At no place of a text a placeholder begins whose name stands for something. -/
def Settled (context : Context) (s : List Char) : Prop :=
  ∀ rest, rest <:+ s → ¬ BeginsPlaceholder context rest

instance (context : Context) : DecidablePred (Settled context) := fun s =>
  decidable_of_iff (∀ rest ∈ s.tails, ¬ BeginsPlaceholder context rest) (by simp [Settled])

theorem substitute_of_settled {context : Context} {s : List Char} (h : Settled context s) :
    substitute context s = s := by
  induction s with
  | nil => rw [substitute, pieces_of_none rfl]; rfl
  | cons c s ih =>
      have hs : Settled context s := fun rest hrest =>
        h rest (hrest.trans (List.suffix_cons c s))
      rw [substitute_character (h _ List.suffix_rfl), ih hs]

theorem not_mem_of_blocksFrom_eq_nil {segments : List Segment} {start : Nat}
    (h : blocksFrom start segments = []) (body : List Char) : .block body ∉ segments := by
  induction segments generalizing start with
  | nil => exact List.not_mem_nil
  | cons segment segments ih =>
      cases segment with
      | text s => simpa using ih h
      | block other => cases h

/-- A text without blocks has nothing to resolve. -/
theorem resolve_of_blocks_eq_nil {template : String} (h : blocks template = [])
    (context : Context) : resolve context template.toList = template.toList := by
  have hraw : ∀ segment ∈ segments template.toList, segment.resolve context = segment.raw := by
    intro segment hmem
    cases segment with
    | text s => rfl
    | block body => exact absurd hmem (not_mem_of_blocksFrom_eq_nil h body)
  rw [resolve_eq_flatMap, List.flatMap_congr hraw, flatMap_raw_segments]

/-- A text without blocks in which nothing is replaced is rendered as itself. -/
theorem render_of_settled {template : String} {context : Context} (h : blocks template = [])
    (hsettled : Settled context template.toList) : render template context = template := by
  rw [render, resolve_of_blocks_eq_nil h, substitute_of_settled hsettled, String.ofList_toList]

/-- **Placeholders are replaced from left to right.**  Every text is rewritten to one text,
which is what the search from name to name makes of it.  What stands for a name is not read
again; the percent sign at the end of a name that stands for nothing is; and where nothing
is replaced, the text is kept.  So rendering does not change a message again that has no
blocks and no placeholders left. -/
theorem substitute_rewrites (context : Context) :
    (∀ s t, substitute context s = t ↔ Rewrites context s t) ∧
    (∀ name text after, IsName name → StandsFor context (String.ofList name) text →
      substitute context ('%' :: (name ++ '%' :: after)) = text ++ substitute context after) ∧
    (∀ name after, IsName name → (∀ text, ¬ StandsFor context (String.ofList name) text) →
      substitute context ('%' :: (name ++ '%' :: after)) =
        '%' :: (name ++ substitute context ('%' :: after))) ∧
    (∀ s, Settled context s → substitute context s = s) ∧
    ∀ template, blocks (render template context) = [] →
      Settled context (render template context).toList →
        render (render template context) context = render template context := by
  refine ⟨fun s t => ⟨?_, Rewrites.substitute_eq⟩,
    fun name text after hname htext => substitute_placeholder hname htext after,
    fun name after hname hnone => substitute_name_of_not_standsFor hname hnone after,
    fun s => substitute_of_settled, fun template => render_of_settled⟩
  rintro rfl
  exact rewrites_substitute context s

/-- A token whose text looks like a placeholder for another token. -/
def nestedNames : Context :=
  ⟨[("y", .string "%z%"), ("z", .string "b")]⟩

/-- In `%x%y%%z%` there is no token `x`, and the text of `y` is not read again. -/
theorem nestedNames_rewrites :
    IsName "x".toList ∧ (∀ text, ¬ StandsFor nestedNames (String.ofList "x".toList) text) ∧
      substitute nestedNames "%x%y%%z%".toList =
        '%' :: ("x".toList ++ substitute nestedNames "%y%%z%".toList) ∧
      IsName "y".toList ∧
      StandsFor nestedNames (String.ofList "y".toList) "%z%".toList ∧
      substitute nestedNames "%y%%z%".toList =
        "%z%".toList ++ substitute nestedNames "%z%".toList ∧
      Settled nestedNames "50% of %x%".toList ∧
      substitute nestedNames "50% of %x%".toList = "50% of %x%".toList ∧
      blocks (render "(?y 50% of %x%?)" nestedNames) = [] ∧
      Settled nestedNames (render "(?y 50% of %x%?)" nestedNames).toList ∧
      render (render "(?y 50% of %x%?)" nestedNames) nestedNames =
        render "(?y 50% of %x%?)" nestedNames := by
  obtain ⟨-, hplaceholder, hkept, hsettled, hrender⟩ := substitute_rewrites nestedNames
  have hx : IsName "x".toList := by decide
  have hy : IsName "y".toList := by decide
  have hnone : ∀ text, ¬ StandsFor nestedNames (String.ofList "x".toList) text := by
    rw [← not_exists, exists_standsFor_iff]
    decide
  have htoken : StandsFor nestedNames (String.ofList "y".toList) "%z%".toList :=
    standsFor_of_expansion? (by decide)
  have hx' : Settled nestedNames "50% of %x%".toList := by decide
  have htext : segments " 50% of %x%".toList = [.text " 50% of %x%".toList] := by cbv
  have hbare : blocks " 50% of %x%" = [] := by rw [blocks, htext]; rfl
  have hsegments : segments "(?y 50% of %x%?)".toList = [.block "y 50% of %x%".toList] := by cbv
  have hresolve : resolve nestedNames "(?y 50% of %x%?)".toList = " 50% of %x%".toList := by
    have hholds : (bodyExpression "y 50% of %x%".toList).holds nestedNames = true := by decide
    have hmessage : bodyMessage "y 50% of %x%".toList = " 50% of %x%".toList := by decide
    rw [resolve_eq_flatMap, hsegments, List.flatMap_singleton, Segment.resolve, if_pos hholds,
      hmessage, resolve_of_blocks_eq_nil hbare]
  have hout : render "(?y 50% of %x%?)" nestedNames = " 50% of %x%" := by
    rw [render, hresolve, substitute_of_settled (by decide), String.ofList_toList]
  have hblocks : blocks (render "(?y 50% of %x%?)" nestedNames) = [] := by rw [hout, hbare]
  have hafter : Settled nestedNames (render "(?y 50% of %x%?)" nestedNames).toList := by
    rw [hout]
    decide
  exact ⟨hx, hnone, hkept _ _ hx hnone, hy, htoken, hplaceholder _ _ _ hy htoken, hx',
    hsettled _ hx', hblocks, hafter, hrender _ hblocks hafter⟩

end ValueAssertions.Template
