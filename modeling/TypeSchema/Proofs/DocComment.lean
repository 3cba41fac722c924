import TypeSchema.DocComment
import TypeSchema.Proofs.Text.Line
import TypeSchema.Proofs.Text.Trim

/-!
Comments laid out again: every line of a layout is ended, and none is empty.
-/

namespace TypeSchema

namespace DocComment

open Text

theorem layoutLine_wholeLines {indent line : List Char} (indented : Paragraph indent)
    (first : Bool) (oneLine : '\n' ∉ line) : WholeLines (layoutLine indent first line) := by
  have inside : Inline (trim line) :=
    inline_of_oneLine fun listed => oneLine ((trim_sublist line).subset listed)
  refine ((indented.append ?_).append inside).ended
  split
  · rfl
  · rfl

theorem layoutLines_wholeLines {indent : List Char} (indented : Paragraph indent) (first : Bool)
    {text : List (List Char)} (oneLine : ∀ line ∈ text, '\n' ∉ line) :
    WholeLines (layoutLines indent first text) := by
  induction text generalizing first with
  | nil => rfl
  | cons line others induction =>
      obtain ⟨head, tail⟩ := List.forall_mem_cons.mp oneLine
      exact (layoutLine_wholeLines indented first head).append (induction false tail)

theorem layout_wholeLines {indent : List Char} (indented : Paragraph indent) (comment : String) :
    WholeLines (layout indent comment) :=
  layoutLines_wholeLines indented true (lines_oneLine _)

end DocComment

end TypeSchema
