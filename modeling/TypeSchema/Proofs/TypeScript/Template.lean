import Mathlib.Data.List.Basic
import TypeSchema.Proofs.Text.Backslash
import TypeSchema.TypeScript.Template

/-!
The delimiters of template literal types. One test counts the backslashes before the last backtick, the
other goes through a text of escapes and looks for a backtick or a hole. Both agree with one reading
from left to right, in which a backslash takes the character after it along.
-/

namespace TypeSchema.TypeScript.Template

open Text

/-- A template is closed by a backtick that no backslash takes along. -/
theorem isClosed_backticks (body : List Char) :
    isClosed ('\x60' :: body ++ ['\x60']) = !endsEscaped false body := by
  have split : ['\x60'].isSuffixOf? (body ++ ['\x60']) = some body :=
    List.isSuffixOf?_eq_some_iff_append_eq.mpr rfl
  rw [List.cons_append, isClosed, split, ← odd_backslashes_eq_endsEscaped]
  dsimp only
  rcases Nat.mod_two_eq_zero_or_one (body.reverse.takeWhile (· == '\\')).length with even | odd
  · rw [even]
    rfl
  · rw [odd]
    rfl

theorem exists_body_of_isClosed {text : List Char} (closed : isClosed text = true) :
    ∃ body, text = '\x60' :: body ++ ['\x60'] := by
  unfold isClosed at closed
  split at closed
  next rest =>
    cases ends : ['\x60'].isSuffixOf? rest with
    | none =>
        rw [ends] at closed
        cases closed
    | some body =>
        have joined : body ++ ['\x60'] = rest := List.isSuffixOf?_eq_some_iff_append_eq.mp ends
        exact ⟨body, congrArg ('\x60' :: ·) joined.symm⟩
  next => cases closed

theorem isClosed_iff (text : List Char) :
    isClosed text = true ↔
      ∃ body, text = '\x60' :: body ++ ['\x60'] ∧ endsEscaped false body = false := by
  constructor
  · intro closed
    obtain ⟨body, rfl⟩ := exists_body_of_isClosed closed
    rw [isClosed_backticks, Bool.not_eq_true'] at closed
    exact ⟨body, rfl, closed⟩
  · rintro ⟨body, rfl, ends⟩
    rw [isClosed_backticks, ends]
    rfl

theorem isPlain_iff (text : List Char) :
    isPlain text = true ↔
      ¬ StandsUnescaped false ['\x60'] text ∧ ¬ StandsUnescaped false ['$', '{'] text := by
  -- The test takes an escape at once and so is outside of the escapes at each of its steps: what it
  -- looks for in front of it is what stands there unescaped.
  fun_induction isPlain text with
  | case1 => simp [not_standsUnescaped_nil]
  | case2 c rest induction => simpa [standsUnescaped_cons] using induction
  | case3 rest => simp [standsUnescaped_cons]
  | case4 rest => simp [standsUnescaped_cons]
  | case5 c rest notEscape notHole notBacktick induction =>
      by_cases backslash : c = '\\'
      · -- A backslash that begins no escape is the last character.
        subst backslash
        cases rest with
        | nil => simp [standsUnescaped_cons, not_standsUnescaped_nil, isPlain]
        | cons d others => exact (notEscape d others rfl rfl).elim
      · have noBacktick : ¬ ['\x60'] <+: c :: rest := by
          rintro ⟨after, same⟩
          exact notBacktick (List.cons.inj same).1.symm
        have noHole : ¬ ['$', '{'] <+: c :: rest := by
          rintro ⟨after, same⟩
          obtain ⟨dollar, others⟩ := List.cons.inj same
          exact notHole after dollar.symm others.symm
        have outside : (c == '\\') = false := beq_false_of_ne backslash
        simp [standsUnescaped_cons, outside, noBacktick, noHole, induction]

theorem isEscapeRun_iff (text : List Char) :
    isEscapeRun text = true ↔ text.head? = some '\\' ∧
      ¬ StandsUnescaped false ['\x60'] text ∧ ¬ StandsUnescaped false ['$', '{'] text := by
  rw [isEscapeRun, Bool.and_eq_true, beq_iff_eq, isPlain_iff]

/-- A text is a closed template exactly when it is two backticks around a body that does not end on a
backslash waiting for a character, and a run of escapes exactly when it begins with a backslash and has
no backtick and no `$` directly before a brace outside of its escapes. -/
theorem delimiters_iff (text : List Char) :
    (isClosed text = true ↔
      ∃ body, text = '\x60' :: body ++ ['\x60'] ∧ endsEscaped false body = false) ∧
    (isEscapeRun text = true ↔ text.head? = some '\\' ∧
      ¬ StandsUnescaped false ['\x60'] text ∧ ¬ StandsUnescaped false ['$', '{'] text) :=
  ⟨isClosed_iff text, isEscapeRun_iff text⟩

example : isClosed "\x60\\\\\x60".toList = true ∧ isClosed "\x60\\\\\\\x60".toList = false ∧
    isEscapeRun "\\$\x7b$\\\x7b\\".toList = true ∧ isEscapeRun "\\\\$\x7b".toList = false := by
  decide

end TypeSchema.TypeScript.Template
