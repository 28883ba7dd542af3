import ValueAssertions.Template.Block
import ValueAssertions.Template.Placeholder

/-!
# Rendering

A template is rendered in two steps.  First its blocks are resolved: a block whose
expression holds leaves its message, resolved in turn, and any other block leaves
nothing.  Then placeholders are replaced, in one pass, so that nothing that comes
from a token is read as a template.

Resolving ends because the message of a block is at least four characters shorter
than the text around the block (`bodyMessage_length_add_four_le`).
-/

namespace ValueAssertions.Template

theorem mem_consText {body : List Char} {c : Char} {rest : List Segment}
    (h : Segment.block body ∈ consText c rest) : Segment.block body ∈ rest := by
  unfold consText at h
  split at h <;> simp_all

/-- A block of a text is at least four characters longer than what stands between
its markers. -/
theorem segments_block_length {s body : List Char} (h : .block body ∈ segments s) :
    body.length + 4 ≤ s.length := by
  induction s using segments.induct with
  | case1 => simp [segments] at h
  | case2 rest b after hsplit ih =>
    rw [segments, hsplit] at h
    have := congrArg List.length (splitAtClose?_eq_some hsplit)
    simp only [List.length_append, List.length_cons] at this
    rcases List.mem_cons.mp h with heq | hmem
    · cases heq
      simp only [List.length_cons]
      omega
    · have := ih hmem
      simp only [List.length_cons]
      omega
  | case3 rest hsplit =>
    rw [segments, hsplit] at h
    simp at h
  | case4 c rest hne ih =>
    rw [segments] at h
    · have := ih (mem_consText h)
      simp only [List.length_cons]
      omega
    · exact hne

/-- The message of a block is at least four characters shorter than the text around
the block. -/
theorem bodyMessage_length_add_four_le {s body : List Char} (h : .block body ∈ segments s) :
    (bodyMessage body).length + 4 ≤ s.length := by
  have := segments_block_length h
  have := bodyMessage_length_le body
  omega

/-- The text with its blocks resolved, at every depth. -/
def resolve (context : Context) (s : List Char) : List Char :=
  (segments s).attach.flatMap fun ⟨segment, _h⟩ =>
    match segment with
    | .text t => t
    | .block body =>
      if (bodyExpression body).holds context then resolve context (bodyMessage body) else []
termination_by s.length
decreasing_by
  have := bodyMessage_length_add_four_le _h
  omega

/-- The text of a template in a context. -/
def render (template : String) (context : Context) : String :=
  String.ofList (substitute context (resolve context template.toList))

end ValueAssertions.Template
