import TypeSchema.Text.Trim

/-!
Lines of a text. A text without empty lines is cut off whole by the empty lines around it, so that
texts of this kind that are put together with empty lines between them can be taken apart again.
-/

namespace TypeSchema.Text

/-- Whether a text ends where a line starts, if no line in it is empty. The text itself begins where
a line starts if `fresh`. -/
def endsFresh? (fresh : Bool) : List Char → Option Bool
  | [] => some fresh
  | c :: rest =>
    if c = '\n' then
      if fresh then none else endsFresh? true rest
    else endsFresh? false rest

theorem endsFresh_append (fresh : Bool) (text more : List Char) :
    endsFresh? fresh (text ++ more) = (endsFresh? fresh text).bind (endsFresh? · more) := by
  induction text generalizing fresh with
  | nil => rfl
  | cons c text induction =>
      rw [List.cons_append, endsFresh?, endsFresh?]
      split
      · cases fresh with
        | true => rfl
        | false => exact induction true
      · exact induction false

/-- A piece of a text that begins and ends inside of lines. -/
def Inline (text : List Char) : Prop :=
  endsFresh? false text = some false

/-- Lines of a text, each ended and none empty. -/
def WholeLines (text : List Char) : Prop :=
  endsFresh? true text = some true

/-- Lines of a text, none empty and the last not ended. -/
def Paragraph (text : List Char) : Prop :=
  endsFresh? true text = some false

variable {c : Char} {text more : List Char}

theorem inline_nil : Inline [] := rfl

theorem wholeLines_nil : WholeLines [] := rfl

theorem endsFresh_cons (fresh : Bool) (onLine : c ≠ '\n') :
    endsFresh? fresh (c :: text) = endsFresh? false text :=
  if_neg onLine

theorem Inline.append (first : Inline text) (second : Inline more) : Inline (text ++ more) := by
  rw [Inline, endsFresh_append, first]
  exact second

theorem Inline.cons (onLine : c ≠ '\n') (inline : Inline text) : Inline (c :: text) :=
  (endsFresh_cons false onLine).trans inline

theorem inline_of_oneLine (oneLine : '\n' ∉ text) : Inline text := by
  induction text with
  | nil => rfl
  | cons c text induction =>
      obtain ⟨onLine, rest⟩ := List.ne_and_not_mem_of_not_mem_cons oneLine
      exact (induction rest).cons onLine.symm

theorem Inline.paragraph (onLine : c ≠ '\n') (inline : Inline text) : Paragraph (c :: text) :=
  (endsFresh_cons true onLine).trans inline

theorem Paragraph.append (paragraph : Paragraph text) (inline : Inline more) :
    Paragraph (text ++ more) := by
  rw [Paragraph, endsFresh_append, paragraph]
  exact inline

theorem Paragraph.ended (paragraph : Paragraph text) : WholeLines (text ++ ['\n']) := by
  rw [WholeLines, endsFresh_append, paragraph]
  rfl

theorem WholeLines.append (first : WholeLines text) (second : WholeLines more) :
    WholeLines (text ++ more) := by
  rw [WholeLines, endsFresh_append, first]
  exact second

theorem WholeLines.paragraph (lines : WholeLines text) (last : Paragraph more) :
    Paragraph (text ++ more) := by
  rw [Paragraph, endsFresh_append, lines]
  exact last

theorem Paragraph.inline (paragraph : Paragraph text) : Inline ('\n' :: text) :=
  paragraph

theorem inline_flatMap {α : Type} {items : List α} {write : α → List Char}
    (each : ∀ item ∈ items, Inline (write item)) : Inline (items.flatMap write) := by
  induction items with
  | nil => exact inline_nil
  | cons item items induction =>
      obtain ⟨head, tail⟩ := List.forall_mem_cons.mp each
      rw [List.flatMap_cons]
      exact head.append (induction tail)

theorem splitOn_of_endsFresh {fresh : Bool} (ends : endsFresh? fresh text = some false) :
    ∃ line others, text.splitOn '\n' = line :: others ∧ (fresh = true → line ≠ []) ∧
      [] ∉ others := by
  induction text generalizing fresh with
  | nil =>
      obtain rfl := Option.some.inj ends
      exact ⟨[], [], rfl, nofun, List.not_mem_nil⟩
  | cons c text induction =>
      rw [List.splitOn_eq_splitOnP] at induction ⊢
      rw [List.splitOnP_cons_eq_if_modifyHead]
      rw [endsFresh?] at ends
      by_cases ended : c = '\n'
      · rw [if_pos ended] at ends
        obtain ⟨stale, ends⟩ := Option.ite_none_left_eq_some.mp ends
        obtain ⟨line, others, split, filled, othersFilled⟩ := induction ends
        refine ⟨[], line :: others, ?_, fun fresh => absurd fresh stale, ?_⟩
        · rw [if_pos (beq_iff_eq.mpr ended), split]
        · exact List.not_mem_cons_of_ne_of_not_mem (filled rfl).symm othersFilled
      · rw [if_neg ended] at ends
        obtain ⟨line, others, split, -, othersFilled⟩ := induction ends
        refine ⟨c :: line, others, ?_, fun _ => List.cons_ne_nil c line, othersFilled⟩
        rw [if_neg (by simpa using ended), split, List.modifyHead_cons]

theorem Paragraph.no_empty_line (paragraph : Paragraph text) : [] ∉ text.splitOn '\n' := by
  obtain ⟨line, others, split, filled, othersFilled⟩ := splitOn_of_endsFresh paragraph
  rw [split]
  exact List.not_mem_cons_of_ne_of_not_mem (filled rfl).symm othersFilled

/-- The pieces of a text between each two line feeds that follow one another. -/
def splitAtEmptyLines : List Char → List (List Char)
  | [] => [[]]
  | '\n' :: '\n' :: rest => [] :: splitAtEmptyLines rest
  | c :: rest => (splitAtEmptyLines rest).modifyHead (c :: ·)

theorem splitAtEmptyLines_cons {rest : List Char} (apart : c = '\n' → rest.head? ≠ some '\n') :
    splitAtEmptyLines (c :: rest) = (splitAtEmptyLines rest).modifyHead (c :: ·) := by
  rw [splitAtEmptyLines]
  rintro others rfl rfl
  exact apart rfl rfl

theorem splitAtEmptyLines_append {fresh : Bool} {tail : List Char} {pieces : List (List Char)}
    (ends : endsFresh? fresh text = some false) (split : splitAtEmptyLines tail = [] :: pieces) :
    splitAtEmptyLines (text ++ tail) = text :: pieces := by
  induction text generalizing fresh with
  | nil => exact split
  | cons c text induction =>
      rw [endsFresh?] at ends
      by_cases ended : c = '\n'
      · rw [if_pos ended] at ends
        have after := (Option.ite_none_left_eq_some.mp ends).2
        -- A line that has just ended is followed by one that is not empty.
        have apart : (text ++ tail).head? ≠ some '\n' := by
          cases text with
          | nil => cases after
          | cons d text =>
              intro same
              obtain rfl := Option.some.inj same
              cases after
        rw [List.cons_append, splitAtEmptyLines_cons fun _ => apart, induction after,
          List.modifyHead_cons]
      · rw [if_neg ended] at ends
        rw [List.cons_append, splitAtEmptyLines_cons fun same => absurd same ended, induction ends,
          List.modifyHead_cons]

/-- Paragraphs with empty lines between them are taken apart again. -/
theorem splitAtEmptyLines_intercalate {pieces : List (List Char)}
    (each : ∀ piece ∈ pieces, Paragraph piece) (nonempty : pieces ≠ []) :
    splitAtEmptyLines (['\n', '\n'].intercalate pieces) = pieces := by
  induction pieces with
  | nil => exact absurd rfl nonempty
  | cons piece others induction =>
      obtain ⟨paragraph, othersEach⟩ := List.forall_mem_cons.mp each
      cases others with
      | nil =>
          have alone : splitAtEmptyLines (piece ++ []) = [piece] :=
            splitAtEmptyLines_append paragraph rfl
          rw [List.append_nil] at alone
          rw [List.intercalate_singleton, alone]
      | cons next more =>
          rw [List.intercalate_cons_cons, List.append_assoc]
          refine splitAtEmptyLines_append paragraph ?_
          rw [List.cons_append, List.cons_append, List.nil_append, splitAtEmptyLines,
            induction othersEach (List.cons_ne_nil next more)]

end TypeSchema.Text
