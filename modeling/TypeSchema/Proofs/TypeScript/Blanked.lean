import TypeSchema.TypeScript.Token

/-!
Comments with white space in their place. The line ends of a comment stay; a blank stands for every
other character.
-/

namespace TypeSchema.TypeScript

/-- What stands in the place of a character of a comment. -/
def blankChar (c : Char) : Char :=
  if isLineEnd c then c else ' '

/-- Whether a text is a comment from one end to the other. -/
def IsComment (text : List Char) : Prop :=
  text.head? = some '/' ∧ tokens text = [⟨.comment, text⟩]

/-- Whether a text is another with white space in the place of some comments. -/
inductive Blanked : List Char → List Char → Prop
  | nil : Blanked [] []
  | kept (c : Char) {text blanked : List Char} :
      Blanked text blanked → Blanked (c :: text) (c :: blanked)
  | comment {comment text blanked : List Char} : IsComment comment → Blanked text blanked →
      Blanked (comment ++ text) (comment.map blankChar ++ blanked)

namespace Blanked

variable {text blanked : List Char}

theorem keptAll (start : List Char) (rest : Blanked text blanked) :
    Blanked (start ++ text) (start ++ blanked) := by
  induction start with
  | nil => exact rest
  | cons c start induction => exact .kept c induction

theorem refl (text : List Char) : Blanked text text := by
  simpa using keptAll text .nil

theorem append {others blankedOthers : List Char} (first : Blanked text blanked)
    (second : Blanked others blankedOthers) :
    Blanked (text ++ others) (blanked ++ blankedOthers) := by
  induction first with
  | nil => exact second
  | kept c _ induction => exact .kept c induction
  | comment isComment _ induction =>
      rw [List.append_assoc, List.append_assoc]
      exact .comment isComment induction

/-- A text without slashes has no comments in it. -/
theorem eq_of_slashless (both : Blanked text blanked) (slashless : '/' ∉ text) :
    blanked = text := by
  induction both with
  | nil => rfl
  | kept c _ induction => rw [induction (List.not_mem_of_not_mem_cons slashless)]
  | comment isComment _ _ =>
      exact absurd (List.mem_append_left _ (List.mem_of_head? isComment.1)) slashless

/-- A text without blanks stands for no comments. -/
theorem eq_of_blankless (both : Blanked text blanked) (blankless : ' ' ∉ blanked) :
    blanked = text := by
  induction both with
  | nil => rfl
  | kept c _ induction => rw [induction (List.not_mem_of_not_mem_cons blankless)]
  | comment isComment _ _ =>
      have blank : ' ' ∈ List.map blankChar _ :=
        List.mem_map.mpr ⟨'/', List.mem_of_head? isComment.1, rfl⟩
      exact absurd (List.mem_append_left _ blank) blankless

/-- Whether a text is a certain one without slashes and blanks does not depend on comments. -/
theorem eq_iff (both : Blanked text blanked) {plain : List Char} (slashless : '/' ∉ plain)
    (blankless : ' ' ∉ plain) : text = plain ↔ blanked = plain := by
  constructor
  · rintro rfl
    exact both.eq_of_slashless slashless
  · rintro rfl
    exact (both.eq_of_blankless blankless).symm

end Blanked

/-- Whether a text is another but for white space in the place of some comments. -/
def BlankedText (text blanked : String) : Prop :=
  Blanked text.toList blanked.toList

theorem BlankedText.eq_iff {text blanked : String} (both : BlankedText text blanked)
    {plain : String} (slashless : '/' ∉ plain.toList) (blankless : ' ' ∉ plain.toList) :
    text = plain ↔ blanked = plain := by
  rw [← String.toList_inj, ← String.toList_inj]
  exact Blanked.eq_iff both slashless blankless

theorem BlankedText.between {text blanked : String} (both : BlankedText text blanked)
    {start last : String} : BlankedText (start ++ text ++ last) (start ++ blanked ++ last) := by
  simp only [BlankedText, String.toList_append]
  exact ((Blanked.refl _).append both).append (.refl _)

end TypeSchema.TypeScript
