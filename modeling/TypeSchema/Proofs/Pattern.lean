import TypeSchema.Pattern
import TypeSchema.Proofs.Text.Backslash

/-!
Regular expression literals. Made fit to stand between slashes, a pattern has no slash left that could
be taken for the closing one, so that the literal shows where it ends.
-/

namespace TypeSchema.Pattern

open Text

/-- Whether a text stands for itself between slashes: none of its slashes is free of a backslash
before it, and its last character is no backslash that would free the closing one. -/
def fits (pending : Bool) : List Char → Bool
  | [] => !pending
  | c :: rest => (pending || c != '/') && fits (!pending && c == '\\') rest

theorem fits_cancel {pending : Bool} {first second rest others : List Char}
    (firstFits : fits pending first = true) (secondFits : fits pending second = true)
    (same : first ++ '/' :: rest = second ++ '/' :: others) : first = second ∧ rest = others := by
  induction first generalizing pending second with
  | nil =>
      cases second with
      | nil => exact ⟨rfl, (List.cons.inj same).2⟩
      | cons c second =>
          obtain ⟨rfl, -⟩ := List.cons.inj same
          cases pending
          · cases secondFits
          · cases firstFits
  | cons c first induction =>
      cases second with
      | nil =>
          obtain ⟨rfl, -⟩ := List.cons.inj same
          cases pending
          · cases firstFits
          · cases secondFits
      | cons d second =>
          obtain ⟨rfl, tails⟩ := List.cons.inj same
          obtain ⟨rfl, rests⟩ := induction (Bool.and_eq_true_iff.mp firstFits).2
            (Bool.and_eq_true_iff.mp secondFits).2 tails
          exact ⟨rfl, rests⟩

theorem fits_terminatorEscape {c : Char} {letters : List Char}
    (terminates : terminatorEscape? c = some letters) (rest : List Char) :
    fits true (letters ++ rest) = fits false rest := by
  unfold terminatorEscape? at terminates
  split at terminates <;> cases terminates <;> rfl

theorem endsEscaped_terminator {c : Char} {letters : List Char}
    (terminates : terminatorEscape? c = some letters) (pending : Bool) (rest : List Char) :
    endsEscaped pending (c :: rest) = endsEscaped false rest := by
  unfold terminatorEscape? at terminates
  split at terminates <;> cases terminates <;> cases pending <;> rfl

theorem fits_escapeDelimiters (pending : Bool) (text : List Char) :
    fits pending (escapeDelimiters pending text) = !endsEscaped pending text := by
  induction text generalizing pending with
  | nil => rfl
  | cons c rest induction =>
      unfold escapeDelimiters
      split
      next letters terminates =>
        rw [endsEscaped_terminator terminates, ← induction]
        cases pending with
        | true => exact fits_terminatorEscape terminates _
        | false => exact fits_terminatorEscape terminates _
      next =>
        cases pending with
        | true => exact induction false
        | false =>
            by_cases backslash : c = '\\'
            · subst backslash
              exact induction true
            · have plain : (c == '\\') = false := beq_false_of_ne backslash
              by_cases slash : c = '/'
              · subst slash
                exact induction false
              · simp only [Bool.false_eq_true, backslash, slash, if_false, fits, endsEscaped, plain,
                  Bool.and_false, Bool.false_or, bne_iff_ne.mpr slash, Bool.true_and, induction]

def settled (pattern : Pattern) : Pattern :=
  ⟨String.ofList (escapeDelimiters false pattern.source.toList)⟩

/-- A regular expression literal shows what stands between its slashes, and where it ends. -/
theorem literal_cancel {first second : Pattern} {rest others : List Char}
    (firstEnds : endsEscaped false first.source.toList = false)
    (secondEnds : endsEscaped false second.source.toList = false)
    (same : first.literal ++ rest = second.literal ++ others) :
    first.settled = second.settled ∧ rest = others := by
  simp only [literal, List.cons_append, List.append_assoc, List.nil_append] at same
  obtain ⟨texts, rests⟩ := fits_cancel (by rw [fits_escapeDelimiters, firstEnds]; rfl)
    (by rw [fits_escapeDelimiters, secondEnds]; rfl) (List.cons.inj same).2
  exact ⟨by rw [settled, settled, texts], rests⟩

end TypeSchema.Pattern

namespace TypeSchema.TemplateLiteral

open Text

theorem pattern_ends {template : TemplateLiteral} {pattern : Pattern}
    (compiled : template.pattern = .ok pattern) :
    endsEscaped false pattern.source.toList = false := by
  unfold TemplateLiteral.pattern at compiled
  cases spans : spanSource template.spans with
  | error error =>
      rw [spans] at compiled
      cases compiled
  | ok source =>
      rw [spans] at compiled
      cases compiled
      rw [String.toList_ofList, endsEscaped_append, endsEscaped, endsEscaped]
      exact Bool.and_false _

end TypeSchema.TemplateLiteral
