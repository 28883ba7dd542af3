import ValueAssertions.Proofs.Assertion.Catalog
import ValueAssertions.Proofs.Document.Printing

/-!
# Saved catalogs are loaded again

A catalog that is saved as JSON and loaded again is the same catalog, if each of its
templates has a character that is not blank; otherwise the first kind whose template has none
is reported.  A document with the keys of some kinds only gives these kinds their templates
and leaves the built-in ones to the others (`Catalog.readJson_print`).

Printing and reading the document is the matter of `Document.parse?_print_texts`.  What is
left is that the keys of the kinds are told apart (`AssertionKind.ofKey?_key`), and that each
key sets the template of its own kind and of no other (`Catalog.template_set`).  So a catalog
can be looked at as a template for every kind, and two catalogs are equal when these are
(`Catalog.eq_of_template_eq`).
-/

namespace ValueAssertions

/-! ## Kinds and their keys -/

namespace AssertionKind

theorem mem_all (kind : AssertionKind) : kind ∈ all := by
  cases kind <;> decide

theorem nodup_all : all.Nodup := by
  decide

theorem ofKey?_key (kind : AssertionKind) : ofKey? kind.key = some kind := by
  cases kind <;> decide

end AssertionKind

namespace Catalog

/-! ## Templates of kinds -/

theorem eq_of_template_eq {a b : Catalog} (h : ∀ kind, a.template kind = b.template kind) :
    a = b := by
  obtain ⟨_, _, _, _, _, _, _, _⟩ := a
  obtain ⟨_, _, _, _, _, _, _, _⟩ := b
  obtain rfl := h .type
  obtain rfl := h .value
  obtain rfl := h .fieldTypes
  obtain rfl := h .fieldValues
  obtain rfl := h .optionalFieldTypes
  obtain rfl := h .optionalFieldValues
  obtain rfl := h .allowedFields
  obtain rfl := h .forbiddenFields
  rfl

theorem template_set (catalog : Catalog) (kind other : AssertionKind) (text : String) :
    (catalog.set kind text).template other =
      if other = kind then text else catalog.template other := by
  cases kind <;> cases other <;> rfl

/-- A template that says something: one of its characters is not blank. -/
def HasText (template : String) : Prop :=
  ∃ c ∈ template.toList, isBlank c = false

theorem isBlankTemplate_iff {template : String} :
    isBlankTemplate template = true ↔ ¬ HasText template := by
  simp [isBlankTemplate, HasText]

/-! ## Loading entries -/

/-- The document of a catalog with the keys of some kinds only. -/
def documentOf (catalog : Catalog) (kinds : List AssertionKind) : Document :=
  .object (kinds.map fun kind => (kind.key, .string (catalog.template kind)))

/-- The entries of some kinds. -/
def entriesOf (catalog : Catalog) (kinds : List AssertionKind) : List (String × String) :=
  kinds.map fun kind => (kind.key, catalog.template kind)

theorem documentOf_eq (catalog : Catalog) (kinds : List AssertionKind) :
    catalog.documentOf kinds = .object ((catalog.entriesOf kinds).map textMember) := by
  rw [documentOf, entriesOf, List.map_map]
  rfl

theorem textMembers?_map_textMember (entries : List (String × String)) :
    textMembers? (entries.map textMember) = some entries := by
  induction entries with
  | nil => rfl
  | cons entry entries ih =>
      rw [List.map_cons, textMember, textMembers?, ih]
      rfl

/-- Entries of kinds that have not been seen, each once, set the templates of these kinds. -/
theorem exists_setEntries?_entriesOf (catalog base : Catalog) {seen kinds : List AssertionKind}
    (hnodup : kinds.Nodup) (hseen : ∀ kind ∈ kinds, kind ∉ seen) :
    ∃ loaded, setEntries? seen base (catalog.entriesOf kinds) = some loaded ∧
      ∀ kind, loaded.template kind =
        if kind ∈ kinds then catalog.template kind else base.template kind := by
  induction kinds generalizing seen base with
  | nil => exact ⟨base, rfl, fun kind => rfl⟩
  | cons first rest ih =>
      obtain ⟨hfirst, hrest⟩ := List.nodup_cons.mp hnodup
      obtain ⟨hnew, hnews⟩ := List.forall_mem_cons.mp hseen
      have hunseen : ∀ kind ∈ rest, kind ∉ first :: seen := by
        intro kind hkind hmem
        rcases List.mem_cons.mp hmem with rfl | hmem
        · exact hfirst hkind
        · exact hnews kind hkind hmem
      obtain ⟨loaded, hload, htemplate⟩ :=
        ih (base.set first (catalog.template first)) hrest hunseen
      refine ⟨loaded, ?_, fun kind => ?_⟩
      · have hcontains : seen.contains first = false := by simpa using hnew
        rw [entriesOf, List.map_cons, setEntries?, AssertionKind.ofKey?_key]
        simp only [Option.bind_eq_bind, Option.bind_some, hcontains]
        exact hload
      · rw [htemplate, template_set]
        by_cases hkind : kind = first
        · subst hkind
          simp [hfirst]
        · simp [hkind]

/-- A document with the keys of some kinds sets the templates of these kinds, and what comes
out is checked for blank templates. -/
theorem exists_readJson_documentOf (catalog : Catalog) {kinds : List AssertionKind}
    (hnodup : kinds.Nodup) :
    ∃ loaded : Catalog, readJson (catalog.documentOf kinds).print = loaded.validate ∧
      ∀ kind, loaded.template kind =
        if kind ∈ kinds then catalog.template kind else builtIn.template kind := by
  obtain ⟨loaded, hload, htemplate⟩ :=
    exists_setEntries?_entriesOf catalog builtIn hnodup (fun kind _ => List.not_mem_nil)
  refine ⟨loaded, ?_, htemplate⟩
  rw [readJson, documentOf_eq, Document.parse?_print_texts, Option.bind_some, entriesOfDocument?,
    textMembers?_map_textMember, Option.bind_some, hload]

/-! ## Blank templates -/

theorem validate_of_forall_hasText {catalog : Catalog}
    (h : ∀ kind, HasText (catalog.template kind)) : catalog.validate = .ok catalog := by
  have hnone : catalog.blankKind? = none := by
    rw [blankKind?, List.find?_eq_none]
    intro kind _ hblank
    exact isBlankTemplate_iff.mp hblank (h kind)
  rw [validate, hnone]

/-- The first kind whose template is blank is reported. -/
theorem exists_validate_of_not_hasText {catalog : Catalog}
    (h : ¬ ∀ kind, HasText (catalog.template kind)) :
    ∃ before kind after, AssertionKind.all = before ++ kind :: after ∧
      (∀ other ∈ before, HasText (catalog.template other)) ∧
      ¬ HasText (catalog.template kind) ∧
      catalog.validate = .error (.configuration (.blankTemplate kind)) := by
  cases hfind : catalog.blankKind? with
  | none =>
      rw [blankKind?, List.find?_eq_none] at hfind
      refine absurd (fun kind => ?_) h
      have hnot := hfind kind (AssertionKind.mem_all kind)
      rwa [isBlankTemplate_iff, not_not] at hnot
  | some kind =>
      have hvalidate : catalog.validate = .error (.configuration (.blankTemplate kind)) := by
        rw [validate, hfind]
      rw [blankKind?, List.find?_eq_some_iff_append] at hfind
      obtain ⟨hblank, before, after, hall, hbefore⟩ := hfind
      refine ⟨before, kind, after, hall, fun other hother => ?_, isBlankTemplate_iff.mp hblank,
        hvalidate⟩
      have hnot := hbefore other hother
      rwa [Bool.not_eq_true', ← Bool.not_eq_true, isBlankTemplate_iff, not_not] at hnot

/-- The error names the kind by its key. -/
theorem message?_blankTemplate (kind : AssertionKind) :
    (AssertionError.configuration (.blankTemplate kind)).message? =
      some ("Configuration error: empty message template for '" ++ kind.key ++ "'") := by
  cases kind <;> rfl

/-- Every built-in template has a block. -/
theorem hasText_builtIn (kind : AssertionKind) : HasText (builtIn.template kind) := by
  refine ⟨'(', ?_, by decide⟩
  rw [template_builtIn, String.toList_ofList]
  simp [trees, Template.printAll, Template.Node.print, Template.opening]

/-- **Saving and loading.**  A catalog whose templates all say something is loaded as it was
saved; from any other one the first kind whose template does not is reported.  A document with
the keys of some kinds only, in whatever order, sets their templates and leaves the built-in
ones to the others. -/
theorem readJson_print (catalog : Catalog) :
    ((∀ kind, HasText (catalog.template kind)) → readJson catalog.print = .ok catalog) ∧
      ((¬ ∀ kind, HasText (catalog.template kind)) →
        ∃ before kind after, AssertionKind.all = before ++ kind :: after ∧
          (∀ other ∈ before, HasText (catalog.template other)) ∧
          ¬ HasText (catalog.template kind) ∧
          readJson catalog.print = .error (.configuration (.blankTemplate kind)) ∧
          (AssertionError.configuration (.blankTemplate kind)).message? =
            some ("Configuration error: empty message template for '" ++ kind.key ++ "'")) ∧
      ∀ kinds : List AssertionKind, kinds.Nodup →
        (∀ kind ∈ kinds, HasText (catalog.template kind)) →
        ∃ loaded, readJson (catalog.documentOf kinds).print = .ok loaded ∧
          ∀ kind, loaded.template kind =
            if kind ∈ kinds then catalog.template kind else builtIn.template kind := by
  have hread : readJson catalog.print = catalog.validate := by
    obtain ⟨loaded, hload, htemplate⟩ :=
      exists_readJson_documentOf catalog AssertionKind.nodup_all
    have hloaded : loaded = catalog := eq_of_template_eq fun kind => by
      rw [htemplate, if_pos (AssertionKind.mem_all kind)]
    rw [← hloaded] at hload ⊢
    exact hload
  refine ⟨fun h => ?_, fun h => ?_, fun kinds hnodup h => ?_⟩
  · rw [hread, validate_of_forall_hasText h]
  · obtain ⟨before, kind, after, hall, hbefore, hblank, hvalidate⟩ :=
      exists_validate_of_not_hasText h
    rw [hread]
    exact ⟨before, kind, after, hall, hbefore, hblank, hvalidate, message?_blankTemplate kind⟩
  · obtain ⟨loaded, hload, htemplate⟩ := exists_readJson_documentOf catalog hnodup
    refine ⟨loaded, ?_, htemplate⟩
    rw [hload, validate_of_forall_hasText]
    intro kind
    rw [htemplate]
    split
    · next hkind => exact h kind hkind
    · exact hasText_builtIn kind

/-- The built-in catalog with a template of its own for types. -/
def quotedType : Catalog :=
  builtIn.set .type "\"%type%\" \\ \x01"

theorem quotedType_read :
    (∀ kind, HasText (quotedType.template kind)) ∧
      readJson quotedType.print = .ok quotedType ∧
      ∃ loaded, readJson (quotedType.documentOf [.forbiddenFields, .type]).print = .ok loaded ∧
        loaded.type = "\"%type%\" \\ \x01" ∧ loaded.value = builtIn.value := by
  have htext : ∀ kind, HasText (quotedType.template kind) := by
    intro kind
    rw [quotedType, template_set]
    split
    · exact ⟨'t', by decide, by decide⟩
    · exact hasText_builtIn kind
  obtain ⟨hread, -, hpart⟩ := readJson_print quotedType
  obtain ⟨loaded, hload, htemplate⟩ :=
    hpart [.forbiddenFields, .type] (by decide) fun kind _ => htext kind
  exact ⟨htext, hread htext, loaded, hload, htemplate .type, htemplate .value⟩

end Catalog

end ValueAssertions
