import Mathlib.Data.List.Basic
import TypeSchema.Proofs.Pattern.Literal

/-!
Patterns read from left to right, a backslash together with the character after it. In these units
escaping is a substitution: it replaces slashes and line terminators and nothing else, so that a
second escaping finds nothing to replace. The main statement also tells that counting the backslashes
at the end of a pattern decides whether this reading ends inside a unit.
-/

namespace TypeSchema

namespace Pattern

open RegexLiteral Text

/-- What a reading of a pattern takes at a time. -/
inductive SourceUnit where
  /-- A character by itself, a backslash only if the text ends after it. -/
  | single (c : Char)
  /-- A backslash and the character after it. -/
  | escaped (c : Char)
deriving DecidableEq

namespace SourceUnit

def text : SourceUnit → List Char
  | single c => [c]
  | escaped c => ['\\', c]

/-- The character that a unit ends with. -/
def last : SourceUnit → Char
  | single c => c
  | escaped c => c

/-- The escape of a line terminator. -/
def ofTerminator? (c : Char) : Option (List SourceUnit) :=
  match c with
  | '\n' => some [escaped 'n']
  | '\r' => some [escaped 'r']
  | '\u2028' => some [escaped 'u', single '2', single '0', single '2', single '8']
  | '\u2029' => some [escaped 'u', single '2', single '0', single '2', single '9']
  | _ => none

/-- What stands for a unit between slashes. -/
def fitted (unit : SourceUnit) : List SourceUnit :=
  (ofTerminator? unit.last).getD (if unit = single '/' then [escaped '/'] else [unit])

end SourceUnit

open SourceUnit

def sourceUnits : List Char → List SourceUnit
  | [] => []
  | '\\' :: c :: rest => escaped c :: sourceUnits rest
  | c :: rest => single c :: sourceUnits rest

/-- Whether the reading of a text ends on a backslash that waits for a character. -/
def EndsPending (source : List Char) : Prop :=
  (sourceUnits source).getLast? = some (single '\\')

variable {unit : SourceUnit} {rest : List Char}

theorem sourceUnits_text (alone : unit = single '\\' → rest = []) :
    sourceUnits (unit.text ++ rest) = unit :: sourceUnits rest := by
  cases unit with
  | escaped c => rfl
  | single c =>
      rw [text, List.singleton_append, sourceUnits]
      rintro d others rfl rfl
      cases alone rfl

/-- A text is read one unit after the other. -/
theorem sourceUnits_induct {motive : List Char → Prop} (nil : motive [])
    (cons : ∀ (unit : SourceUnit) (rest : List Char), (unit = single '\\' → rest = []) →
      motive rest → motive (unit.text ++ rest))
    (source : List Char) : motive source := by
  fun_induction sourceUnits source with
  | case1 => exact nil
  | case2 c rest induction => exact cons (escaped c) rest nofun induction
  | case3 c rest notPair induction =>
      refine cons (single c) rest ?_ induction
      rintro ⟨⟩
      cases rest with
      | nil => rfl
      | cons d others => exact (notPair d others rfl rfl).elim

theorem flatMap_text_sourceUnits (source : List Char) :
    (sourceUnits source).flatMap SourceUnit.text = source := by
  induction source using sourceUnits_induct with
  | nil => rfl
  | cons unit rest alone induction =>
      rw [sourceUnits_text alone, List.flatMap_cons, induction]

/-! What a unit becomes. -/

theorem terminatorEscape_eq_none {c : Char} (other : ofTerminator? c = none) :
    terminatorEscape? c = none := by
  unfold ofTerminator? at other
  unfold terminatorEscape?
  split at other <;> simp_all

theorem escapeDelimiters_text (alone : unit = single '\\' → rest = []) :
    escapeDelimiters false (unit.text ++ rest) =
      unit.fitted.flatMap SourceUnit.text ++ escapeDelimiters false rest := by
  cases replaced : ofTerminator? unit.last with
  | some units =>
      unfold ofTerminator? at replaced
      rw [fitted]
      cases unit <;> split at replaced <;> cases replaced <;> cases ‹last _ = _› <;> rfl
  | none =>
      have plain : terminatorEscape? unit.last = none := terminatorEscape_eq_none replaced
      rw [fitted, replaced, Option.getD_none]
      cases unit with
      | escaped c =>
          have backslash : terminatorEscape? '\\' = none := rfl
          rw [last] at plain
          simp [SourceUnit.text, escapeDelimiters, plain, backslash]
      | single c =>
          rw [last] at plain
          by_cases slash : c = '/'
          · subst slash
            rfl
          · by_cases backslash : c = '\\'
            · subst backslash
              rw [alone rfl]
              rfl
            · simp [SourceUnit.text, escapeDelimiters, plain, slash, backslash]

theorem escapeDelimiters_eq (source : List Char) :
    escapeDelimiters false source =
      ((sourceUnits source).flatMap fitted).flatMap SourceUnit.text := by
  induction source using sourceUnits_induct with
  | nil => rfl
  | cons unit rest alone induction =>
      rw [escapeDelimiters_text alone, sourceUnits_text alone, List.flatMap_cons, List.flatMap_append,
        induction]

theorem ofTerminator_settled {c : Char} {units : List SourceUnit}
    (replaced : ofTerminator? c = some units) :
    ∀ part ∈ units, part.fitted = [part] ∧ part ≠ single '\\' := by
  unfold ofTerminator? at replaced
  split at replaced <;> cases replaced <;> decide

/-- Escaping changes nothing in what stands for a unit, and leaves a backslash by itself only where
one was. -/
theorem settled_of_mem_fitted {part : SourceUnit} (listed : part ∈ unit.fitted) :
    part.fitted = [part] ∧ (part = single '\\' → unit = single '\\') := by
  unfold fitted at listed
  cases replaced : ofTerminator? unit.last with
  | some units =>
      rw [replaced, Option.getD_some] at listed
      obtain ⟨settled, closed⟩ := ofTerminator_settled replaced part listed
      exact ⟨settled, fun pending => absurd pending closed⟩
  | none =>
      rw [replaced, Option.getD_none] at listed
      split at listed
      next =>
        obtain rfl := List.mem_singleton.mp listed
        exact ⟨rfl, nofun⟩
      next other =>
        obtain rfl := List.mem_singleton.mp listed
        refine ⟨?_, id⟩
        rw [fitted, replaced, Option.getD_none, if_neg other]

theorem sourceUnits_flatMap_text {units : List SourceUnit}
    (closed : single '\\' ∉ units) (rest : List Char) :
    sourceUnits (units.flatMap SourceUnit.text ++ rest) = units ++ sourceUnits rest := by
  induction units with
  | nil => rfl
  | cons unit others induction =>
      obtain ⟨notPending, othersClosed⟩ := List.ne_and_not_mem_of_not_mem_cons closed
      rw [List.flatMap_cons, List.append_assoc,
        sourceUnits_text fun same => absurd same.symm notPending, induction othersClosed,
        List.cons_append]

theorem sourceUnits_fitted (alone : unit = single '\\' → rest = []) :
    sourceUnits (unit.fitted.flatMap SourceUnit.text ++ rest) = unit.fitted ++ sourceUnits rest := by
  by_cases pending : unit = single '\\'
  · rw [alone pending, pending]
    rfl
  · exact sourceUnits_flatMap_text (fun listed => pending ((settled_of_mem_fitted listed).2 rfl)) rest

/-- Unit by unit, escaping puts for each what stands for it. -/
theorem sourceUnits_escapeDelimiters (source : List Char) :
    sourceUnits (escapeDelimiters false source) = (sourceUnits source).flatMap fitted := by
  induction source using sourceUnits_induct with
  | nil => rfl
  | cons unit rest alone induction =>
      have aloneAfter : unit = single '\\' → escapeDelimiters false rest = [] := by
        intro pending
        rw [alone pending]
        rfl
      rw [escapeDelimiters_text alone, sourceUnits_fitted aloneAfter, induction,
        sourceUnits_text alone, List.flatMap_cons]

theorem settled_of_mem_escapeDelimiters {source : List Char}
    (listed : unit ∈ sourceUnits (escapeDelimiters false source)) : unit.fitted = [unit] := by
  rw [sourceUnits_escapeDelimiters] at listed
  obtain ⟨given, -, stands⟩ := List.mem_flatMap.mp listed
  exact (settled_of_mem_fitted stands).1

theorem slash_not_mem_escapeDelimiters (source : List Char) :
    single '/' ∉ sourceUnits (escapeDelimiters false source) :=
  fun listed => absurd (settled_of_mem_escapeDelimiters listed) (by decide)

theorem escapeDelimiters_idempotent (source : List Char) :
    escapeDelimiters false (escapeDelimiters false source) = escapeDelimiters false source := by
  have settled : (sourceUnits (escapeDelimiters false source)).flatMap fitted =
      (sourceUnits (escapeDelimiters false source)).flatMap ([·]) :=
    List.flatMap_congr fun _ => settled_of_mem_escapeDelimiters
  rw [escapeDelimiters_eq (escapeDelimiters false source), settled, List.flatMap_singleton',
    flatMap_text_sourceUnits]

/-! Backslashes that wait for a character. -/

/-- Only the last unit can be a backslash by itself. -/
theorem endsPending_iff_mem (source : List Char) :
    EndsPending source ↔ single '\\' ∈ sourceUnits source := by
  refine ⟨List.mem_of_getLast?, fun listed => ?_⟩
  induction source using sourceUnits_induct with
  | nil => cases listed
  | cons unit rest alone induction =>
      rw [EndsPending, sourceUnits_text alone] at *
      obtain same | later := List.mem_cons.mp listed
      · rw [alone same.symm, same]
        rfl
      · rw [List.getLast?_cons, induction later, Option.getD_some]

theorem endsPending_escapeDelimiters (source : List Char) :
    EndsPending (escapeDelimiters false source) ↔ EndsPending source := by
  rw [endsPending_iff_mem, endsPending_iff_mem, sourceUnits_escapeDelimiters, List.mem_flatMap]
  constructor
  · rintro ⟨unit, listed, stands⟩
    rwa [(settled_of_mem_fitted stands).2 rfl] at listed
  · exact fun listed => ⟨_, listed, List.mem_singleton.mpr rfl⟩

theorem endsPending_iff_endsEscaped (source : List Char) :
    EndsPending source ↔ endsEscaped false source = true := by
  rw [endsPending_iff_mem]
  induction source using sourceUnits_induct with
  | nil => exact iff_of_false List.not_mem_nil nofun
  | cons unit rest alone induction =>
      rw [sourceUnits_text alone, endsEscaped_append, List.mem_cons]
      by_cases pending : unit = single '\\'
      · rw [alone pending, pending]
        exact iff_of_true (.inl rfl) rfl
      · have closed : endsEscaped false unit.text = false := by
          cases unit with
          | escaped c => rfl
          | single c => exact beq_false_of_ne fun same => pending (congrArg single same)
        rw [closed, induction, or_iff_right fun same => pending same.symm]

theorem pattern_eq_none_iff (argument : List Char) :
    Refinement.pattern? argument = none ↔ argument = [] ∨ EndsPending argument := by
  rw [endsPending_iff_endsEscaped, ← odd_backslashes_eq_endsEscaped, Refinement.pattern?]
  simp only [ite_eq_left_iff, reduceCtorEq, imp_false, Decidable.not_not, Bool.or_eq_true,
    List.isEmpty_iff]
  rfl

/-- Escaping leaves no line terminator and no slash by itself, replaces these and no other unit, ends
inside a unit only if the pattern does, and changes nothing when done again. A directive refuses an
argument as a pattern exactly when it is empty or ends inside a unit. -/
theorem escapeDelimiters_substitutes :
    (∀ source : List Char,
      (∀ c ∈ escapeDelimiters false source, c ∉ lineTerminators) ∧
      single '/' ∉ sourceUnits (escapeDelimiters false source) ∧
      sourceUnits (escapeDelimiters false source) = (sourceUnits source).flatMap fitted ∧
      (EndsPending (escapeDelimiters false source) ↔ EndsPending source) ∧
      escapeDelimiters false (escapeDelimiters false source) = escapeDelimiters false source) ∧
    ∀ argument : List Char,
      Refinement.pattern? argument = none ↔ argument = [] ∨ EndsPending argument := by
  refine ⟨fun source => ?_, pattern_eq_none_iff⟩
  exact ⟨escapeDelimiters_onLine false source, slash_not_mem_escapeDelimiters source,
    sourceUnits_escapeDelimiters source, endsPending_escapeDelimiters source,
    escapeDelimiters_idempotent source⟩

example : sourceUnits (escapeDelimiters false "/\\/\\\n\\".toList) =
    [escaped '/', escaped '/', escaped 'n', single '\\'] := by decide

end Pattern

end TypeSchema
