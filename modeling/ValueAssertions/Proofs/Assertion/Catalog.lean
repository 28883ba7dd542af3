import ValueAssertions.Assertion.Assert
import ValueAssertions.Proofs.Template.Piece
import ValueAssertions.Proofs.Template.Tree

/-!
# The built-in templates

Every built-in template is a row of texts and placeholders (`Catalog.lead`) with one block
after it, which is kept when the function has a name.  So its message is what this row is
filled in with, and then the name of the function (`render_builtIn`).

No token can change that, whatever it looks like.  The template is read as the trees that
it is written from (`Catalog.template_builtIn`), and the block is resolved before anything is
filled in; what is left is filled in piece by piece, and the tokens are not read again.

`Shows` are the two tokens that every message has.  They stay when other tokens are given.
-/

namespace ValueAssertions

open Template

/-! ## Contexts -/

theorem lookup?_setKey {α : Type} (key other : String) (value : α) (pairs : List (String × α)) :
    lookup? other (setKey key value pairs) =
      if key = other then some value else lookup? other pairs := by
  induction pairs with
  | nil => rfl
  | cons pair rest ih =>
      obtain ⟨name, old⟩ := pair
      rw [setKey]
      by_cases hname : name = key
      · subst hname
        by_cases hother : name = other <;> simp [lookup?, hother]
      · rw [if_neg hname, lookup?, ih, lookup?]
        by_cases hother : key = other
        · subst hother
          simp [hname]
        · simp [hother]

namespace Context

@[simp]
theorem get?_empty (name : String) : Context.empty.get? name = none :=
  rfl

@[simp]
theorem get?_insert (context : Context) (key name : String) (v : Value) :
    (context.insert key v).get? name = if key = name then some v else context.get? name :=
  lookup?_setKey key name v context.tokens

@[simp]
theorem get?_insert? (context : Context) (key name : String) (v : Option Value) :
    (context.insert? key v).get? name =
      if key = name then v.or (context.get? name) else context.get? name := by
  cases v with
  | none => simp [insert?]
  | some v => simp [insert?]

end Context

/-! ## The built-in templates -/

namespace Catalog

/-- What the built-in template of a kind is made of, up to the name of the function. -/
def lead : AssertionKind → List Piece
  | .type => [.text "Wrong type for '".toList, .placeholder "varName",
      .text "', expected ".toList, .placeholder "type", .text ", got ".toList,
      .placeholder "_TYPE_"]
  | .value => [.text "Wrong value for '".toList, .placeholder "varName",
      .text "', expected ".toList, .placeholder "expected", .text ", got ".toList,
      .placeholder "_ACTUAL_"]
  | .fieldTypes | .optionalFieldTypes => [.text "Wrong type for field '".toList,
      .placeholder "field", .text "' of '".toList, .placeholder "varName",
      .text "', expected ".toList, .placeholder "type", .text ", got ".toList,
      .placeholder "actual"]
  | .fieldValues | .optionalFieldValues => [.text "Wrong value for field '".toList,
      .placeholder "field", .text "' of '".toList, .placeholder "varName",
      .text "', expected ".toList, .placeholder "expected", .text ", got ".toList,
      .placeholder "_ACTUAL_"]
  | .allowedFields => [.text "Unexpected field '".toList, .placeholder "field",
      .text "' in '".toList, .placeholder "varName", .text "'".toList]
  | .forbiddenFields => [.text "Field '".toList, .placeholder "field",
      .text "' not allowed in '".toList, .placeholder "varName", .text "'".toList]

/-- What is kept when there is the name of a function. -/
def trail : List Piece :=
  [.text " in ".toList, .placeholder "funName"]

/-- The built-in template of a kind as trees. -/
def trees (kind : AssertionKind) : List Node :=
  [.text ((lead kind).flatMap Piece.print),
    .block (.bare "funName".toList) [.text (trail.flatMap Piece.print)]]

theorem template_builtIn (kind : AssertionKind) :
    builtIn.template kind = String.ofList (printAll (trees kind)) := by
  cases kind <;>
    simp only [trees, lead, trail, printAll, Node.print, WrittenExpression.print, Piece.print,
      List.flatMap_cons, List.flatMap_nil, String.ofList_append, String.ofList_toList,
      String.ofList_cons] <;>
    rfl

theorem wellFormed_trees (kind : AssertionKind) : WellFormed (trees kind) := by
  have hencloses : Encloses (.bare "funName".toList) [.text (trail.flatMap Piece.print)] := by
    refine ⟨.inr ⟨_, _, _, rfl, by decide⟩, ?_, ?_, by decide⟩
    · rintro _ ⟨⟩
      decide
    · rintro _ ⟨⟩
      decide
  have hinner : WellFormed [.text (trail.flatMap Piece.print)] :=
    .text (by decide) (by decide) nofun .nil
  have hlead : (lead kind).flatMap Piece.print ≠ [] ∧
      Unmarked ((lead kind).flatMap Piece.print) := by
    cases kind <;> decide +kernel
  refine .text hlead.1 hlead.2 nofun (.block ?_ hencloses hinner .nil)
  exact ⟨by decide, List.all_eq_true.mp (by decide)⟩

theorem readable_lead (kind : AssertionKind) : ∀ p ∈ lead kind, p.Readable := by
  cases kind <;> decide +kernel

end Catalog

/-- What messages end with: the function in which the value is checked, if it has a
name. -/
def Subject.suffix (subject : Subject) : String :=
  match subject.caller with
  | none => ""
  | some caller => if caller = "" then "" else " in " ++ caller

section Render

variable {context : Context} {subject : Subject}

/-- A token that is text stands for the text. -/
theorem standsFor_string {name text : String} (hname : BuiltIn.ofName? name = none)
    (h : context.get? name = some (.string text)) : StandsFor context name text.toList := by
  refine standsFor_of_expansion? ?_
  rw [expansion?, hname, h]
  rfl

/-- The block at the end of a template leaves pieces that give the end of the message. -/
theorem exists_trail (hcaller : context.get? "funName" = subject.caller.map Value.string) :
    ∃ kept : List Piece,
      (Node.block (.bare "funName".toList)
        [.text (Catalog.trail.flatMap Piece.print)]).denote context = kept.flatMap Piece.print ∧
      (∀ p ∈ kept, p.Readable) ∧ Fills context kept subject.suffix.toList := by
  have hholds : (WrittenExpression.bare "funName".toList).denote.holds context =
      (context.value "funName").isTruthy := rfl
  rw [Node.denote, hholds, Context.value, hcaller, Subject.suffix]
  -- An empty name does not count as true, so the block goes as if there were no name.
  cases hsubject : subject.caller with
  | none => exact ⟨[], rfl, List.forall_mem_nil _, .nil⟩
  | some caller =>
      by_cases hempty : caller = ""
      · subst hempty
        exact ⟨[], rfl, List.forall_mem_nil _, .nil⟩
      · have hname : StandsFor context "funName" caller.toList :=
          standsFor_string (by decide) (by rw [hcaller, hsubject]; rfl)
        have htrail : Fills context Catalog.trail (" in " ++ caller).toList := by
          have hfills : Fills context Catalog.trail (" in ".toList ++ (caller.toList ++ [])) :=
            .text (.placeholder hname .nil)
          rwa [List.append_nil, ← String.toList_append] at hfills
        refine ⟨Catalog.trail, ?_, by decide, ?_⟩
        · simp [Value.isTruthy, hempty, denoteAll, Node.denote]
        · simpa [hempty] using htrail

/-- The message of a built-in template is what its pieces are filled in with. -/
theorem render_builtIn {kind : AssertionKind} {t : List Char}
    (hcaller : context.get? "funName" = subject.caller.map Value.string)
    (hlead : Fills context (Catalog.lead kind) t) :
    render (Catalog.builtIn.template kind) context = String.ofList t ++ subject.suffix := by
  obtain ⟨kept, hdenote, hreadable, htrail⟩ := exists_trail hcaller
  have hresolve : resolve context (Catalog.builtIn.template kind).toList =
      (Catalog.lead kind ++ kept).flatMap Piece.print := by
    rw [Catalog.template_builtIn, String.toList_ofList,
      resolve_printAll (Catalog.wellFormed_trees kind), Catalog.trees, denoteAll, denoteAll,
      hdenote, List.flatMap_append]
    simp [Node.denote, denoteAll]
  have hall : ∀ p ∈ Catalog.lead kind ++ kept, p.Readable :=
    List.forall_mem_append.mpr ⟨Catalog.readable_lead kind, hreadable⟩
  rw [render, hresolve, substitute_print hall (hlead.append htrail), String.ofList_append,
    String.ofList_toList]

end Render

/-! ## The tokens of a message -/

/-- A context has the tokens that every message shows. -/
structure Shows (assert : Assert) (subject : Subject) (context : Context) : Prop where
  /-- The name of the value, or the one of values without a name. -/
  name : context.get? "varName" = some (.string (subject.name.getD assert.defaultName))
  /-- The function in which the value is checked. -/
  caller : context.get? "funName" = subject.caller.map Value.string

section Tokens

variable {assert : Assert} {subject : Subject} {context : Context}

theorem shows_context : Shows assert subject (assert.context subject) := by
  constructor <;> simp [Assert.context]

theorem Shows.insert (h : Shows assert subject context) {key : String}
    (hkey : key ≠ "varName" ∧ key ≠ "funName") (v : Value) :
    Shows assert subject (context.insert key v) := by
  constructor
  · rw [Context.get?_insert, if_neg hkey.1, h.name]
  · rw [Context.get?_insert, if_neg hkey.2, h.caller]

theorem shows_failureContext (v : Value) (failure : Failure) :
    Shows assert subject (assert.failureContext subject v failure) :=
  ((shows_context.insert (by decide) v).insert (by decide) _).insert (by decide) _

theorem Shows.standsFor_name (h : Shows assert subject context) :
    StandsFor context "varName" (subject.name.getD assert.defaultName).toList :=
  standsFor_string (by decide) h.name

theorem standsFor_type {v : Value} (h : context.get? "value" = some v) :
    StandsFor context "_TYPE_" v.typeTag.toList := by
  have htype : StandsFor context "_TYPE_" (context.value "value").typeTag.toList := .builtIn .type
  rwa [Context.value, h] at htype

theorem standsFor_actual {v : Value} (h : context.get? "actual" = some v) :
    StandsFor context "_ACTUAL_" v.quoted.toList := by
  have hactual : StandsFor context "_ACTUAL_" (context.value "actual").quoted.toList :=
    .builtIn .actual
  rwa [Context.value, h] at hactual

end Tokens

end ValueAssertions
