import Mathlib.Tactic.SplitIfs
import TypeSchema.Proofs.Pattern
import TypeSchema.Refinement
import TypeSchema.Schema.Render

/-!
Regular expression literals in source code. Source code is cut into tokens by a grammar of its own:
a slash ends a literal unless a backslash or the brackets of a class hold it, and a slash or a star
after the first slash opens a comment. The main statement tells which patterns of directives are cut
off as one literal, from their first slash to their last.
-/

namespace TypeSchema

namespace RegexLiteral

/-- The characters that end a line of source code. -/
def lineTerminators : List Char :=
  ['\n', '\r', '\u2028', '\u2029']

/-- What stands between the brackets of a class. -/
inductive ClassText : List Char → Prop
  | nil : ClassText []
  | plain {c : Char} {rest : List Char} (onLine : c ∉ lineTerminators) (notClose : c ≠ ']')
      (notEscape : c ≠ '\\') (more : ClassText rest) : ClassText (c :: rest)
  | escaped {c : Char} {rest : List Char} (onLine : c ∉ lineTerminators) (more : ClassText rest) :
      ClassText ('\\' :: c :: rest)

/-- What stands between the slashes of a literal. -/
inductive Body : List Char → Prop
  | nil : Body []
  | plain {c : Char} {rest : List Char} (onLine : c ∉ lineTerminators) (notClose : c ≠ '/')
      (notEscape : c ≠ '\\') (notClass : c ≠ '[') (more : Body rest) : Body (c :: rest)
  | escaped {c : Char} {rest : List Char} (onLine : c ∉ lineTerminators) (more : Body rest) :
      Body ('\\' :: c :: rest)
  | bracketed {inside rest : List Char} (isClass : ClassText inside) (more : Body rest) :
      Body ('[' :: inside ++ ']' :: rest)

end RegexLiteral

/-- A regular expression literal without flags. -/
inductive RegexLiteral : List Char → Prop
  | mk {body : List Char} (nonempty : body ≠ []) (notComment : body.head? ≠ some '*')
      (isBody : RegexLiteral.Body body) : RegexLiteral ('/' :: body ++ ['/'])

namespace RegexLiteral

/-- Whatever code follows a text, a literal is cut off exactly where the text ends. -/
def TakenWhole (text : List Char) : Prop :=
  ∀ code literal rest, (RegexLiteral literal ∧ text ++ code = literal ++ rest) ↔
    literal = text ∧ rest = code

/-- Whether a text that begins inside a class (`inClass`) or after a backslash (`pending`) ends
outside of both, without a slash that would close the literal before. -/
def closes (inClass pending : Bool) : List Char → Bool
  | [] => !inClass && !pending
  | c :: rest =>
    if pending then closes inClass false rest
    else if c = '\\' then closes inClass true rest
    else if inClass then closes (c != ']') false rest
    else c != '/' && closes (c == '[') false rest

theorem ClassText.closes_append {inside : List Char} (isClass : ClassText inside)
    (rest : List Char) : closes true false (inside ++ ']' :: rest) = closes false false rest := by
  induction isClass with
  | nil => rfl
  | plain onLine notClose notEscape more induction =>
      simp only [List.cons_append, closes, Bool.false_eq_true, if_false, notEscape, if_true,
        bne_iff_ne.mpr notClose, induction]
  | escaped onLine more induction => exact induction

theorem Body.closes {body : List Char} (isBody : Body body) :
    RegexLiteral.closes false false body = true := by
  induction isBody with
  | nil => rfl
  | plain onLine notClose notEscape notClass more induction =>
      simp only [RegexLiteral.closes, Bool.false_eq_true, if_false, notEscape,
        bne_iff_ne.mpr notClose, beq_false_of_ne notClass, induction, Bool.and_self]
  | escaped onLine more induction => exact induction
  | bracketed isClass more induction =>
      exact (isClass.closes_append _).trans induction

/-- The rest of a literal's body, from where a reading of it stands. -/
def BodyRest : Bool → Bool → List Char → Prop
  | false, false, text => Body text
  | true, false, text =>
    ∃ inside rest, text = inside ++ ']' :: rest ∧ ClassText inside ∧ Body rest
  | false, true, text => ∃ c rest, text = c :: rest ∧ Body rest
  | true, true, text =>
    ∃ c inside rest, text = c :: inside ++ ']' :: rest ∧ ClassText inside ∧ Body rest

theorem bodyRest_of_closes {text : List Char} (onLine : ∀ c ∈ text, c ∉ lineTerminators)
    (inClass pending : Bool) (closing : closes inClass pending text = true) :
    BodyRest inClass pending text := by
  induction text generalizing inClass pending with
  | nil =>
      cases inClass with
      | true => cases closing
      | false =>
          cases pending with
          | true => cases closing
          | false => exact .nil
  | cons c text induction =>
      obtain ⟨cOnLine, textOnLine⟩ := List.forall_mem_cons.mp onLine
      cases pending with
      | true =>
          have after := induction textOnLine inClass false closing
          cases inClass with
          | false => exact ⟨c, text, rfl, after⟩
          | true =>
              obtain ⟨inside, rest, rfl, isClass, isBody⟩ := after
              exact ⟨c, inside, rest, rfl, isClass, isBody⟩
      | false =>
          by_cases escape : c = '\\'
          · subst escape
            have after := induction textOnLine inClass true closing
            cases inClass with
            | false =>
                obtain ⟨d, rest, rfl, isBody⟩ := after
                exact .escaped (textOnLine d List.mem_cons_self) isBody
            | true =>
                obtain ⟨d, inside, rest, rfl, isClass, isBody⟩ := after
                exact ⟨'\\' :: d :: inside, rest, rfl,
                  .escaped (textOnLine d List.mem_cons_self) isClass, isBody⟩
          · simp only [closes, Bool.false_eq_true, if_false, escape] at closing
            cases inClass with
            | true =>
                have after := induction textOnLine _ false closing
                by_cases close : c = ']'
                · subst close
                  exact ⟨[], text, rfl, .nil, after⟩
                · rw [bne_iff_ne.mpr close] at after
                  obtain ⟨inside, rest, rfl, isClass, isBody⟩ := after
                  exact ⟨c :: inside, rest, rfl, .plain cOnLine close escape isClass, isBody⟩
            | false =>
                obtain ⟨notClose, closing⟩ := Bool.and_eq_true_iff.mp closing
                have after := induction textOnLine _ false closing
                by_cases opens : c = '['
                · subst opens
                  obtain ⟨inside, rest, rfl, isClass, isBody⟩ := after
                  exact .bracketed isClass isBody
                · rw [beq_false_of_ne opens] at after
                  exact .plain cOnLine (bne_iff_ne.mp notClose) escape opens after

theorem closes_cancel {inClass pending : Bool} {first second rest others : List Char}
    (firstCloses : closes inClass pending first = true)
    (secondCloses : closes inClass pending second = true)
    (same : first ++ '/' :: rest = second ++ '/' :: others) : first = second ∧ rest = others := by
  -- Where one text ends, both readings stand outside of classes: a slash ends the other one too.
  have slash_ends {inClass pending : Bool} {text : List Char}
      (outside : closes inClass pending [] = true) :
      closes inClass pending ('/' :: text) = false := by
    cases inClass with
    | true => cases outside
    | false =>
        cases pending with
        | true => cases outside
        | false => rfl
  induction first generalizing inClass pending second with
  | nil =>
      cases second with
      | nil => exact ⟨rfl, (List.cons.inj same).2⟩
      | cons c second =>
          obtain ⟨rfl, -⟩ := List.cons.inj same
          rw [slash_ends firstCloses] at secondCloses
          cases secondCloses
  | cons c first induction =>
      cases second with
      | nil =>
          obtain ⟨rfl, -⟩ := List.cons.inj same
          rw [slash_ends secondCloses] at firstCloses
          cases firstCloses
      | cons d second =>
          obtain ⟨rfl, tails⟩ := List.cons.inj same
          have after : first = second ∧ rest = others := by
            simp only [closes] at firstCloses secondCloses
            split_ifs at firstCloses secondCloses
            · exact induction firstCloses secondCloses tails
            · exact induction firstCloses secondCloses tails
            · exact induction firstCloses secondCloses tails
            · exact induction (Bool.and_eq_true_iff.mp firstCloses).2
                (Bool.and_eq_true_iff.mp secondCloses).2 tails
          exact ⟨by rw [after.1], after.2⟩

theorem body_iff_closes {body : List Char} (onLine : ∀ c ∈ body, c ∉ lineTerminators) :
    Body body ↔ closes false false body = true :=
  ⟨Body.closes, bodyRest_of_closes onLine false false⟩

theorem iff_body (body : List Char) :
    RegexLiteral ('/' :: body ++ ['/']) ↔ body ≠ [] ∧ body.head? ≠ some '*' ∧ Body body := by
  refine ⟨fun isLiteral => ?_, fun ⟨nonempty, notComment, isBody⟩ => ⟨nonempty, notComment, isBody⟩⟩
  generalize whole : '/' :: body ++ ['/'] = text at isLiteral
  obtain ⟨nonempty, notComment, isBody⟩ := isLiteral
  obtain rfl := List.append_cancel_right (List.cons.inj whole).2
  exact ⟨nonempty, notComment, isBody⟩

theorem takenWhole_iff (text : List Char) : TakenWhole text ↔ RegexLiteral text := by
  constructor
  · intro taken
    exact ((taken [] text []).mpr ⟨rfl, rfl⟩).1
  · intro isLiteral code literal rest
    refine ⟨?_, fun same => ⟨same.1 ▸ isLiteral, by rw [same.1, same.2]⟩⟩
    rintro ⟨⟨_, _, otherBody⟩, same⟩
    obtain ⟨_, _, isBody⟩ := isLiteral
    simp only [List.cons_append, List.append_assoc, List.nil_append] at same
    obtain ⟨rfl, rfl⟩ := closes_cancel isBody.closes otherBody.closes (List.cons.inj same).2
    exact ⟨rfl, rfl⟩

end RegexLiteral

namespace Pattern

open RegexLiteral Text

/-- Whether a pattern leaves a class open at its end. -/
def leavesOpen (inClass pending : Bool) : List Char → Bool
  | [] => inClass
  | c :: rest =>
    if pending then leavesOpen inClass false rest
    else if c = '\\' then leavesOpen inClass true rest
    else if inClass then leavesOpen (c != ']') false rest
    else leavesOpen (c == '[') false rest

theorem onLine_of_plain {c : Char} (plain : terminatorEscape? c = none) :
    c ∉ lineTerminators := by
  intro listed
  simp only [lineTerminators, List.mem_cons, List.not_mem_nil, or_false] at listed
  rcases listed with rfl | rfl | rfl | rfl <;> cases plain

theorem terminatorEscape_onLine {c : Char} {letters : List Char}
    (terminates : terminatorEscape? c = some letters) : ∀ d ∈ letters, d ∉ lineTerminators := by
  unfold terminatorEscape? at terminates
  split at terminates <;> cases terminates <;> simp [lineTerminators]

theorem escapeDelimiters_onLine (pending : Bool) (text : List Char) :
    ∀ c ∈ escapeDelimiters pending text, c ∉ lineTerminators := by
  induction text generalizing pending with
  | nil => exact fun c member => absurd member List.not_mem_nil
  | cons c rest induction =>
      have backslash : '\\' ∉ lineTerminators := by decide
      unfold escapeDelimiters
      split
      next letters terminates =>
        have written := terminatorEscape_onLine terminates
        refine List.forall_mem_append.mpr ⟨?_, induction false⟩
        split
        · exact written
        · exact List.forall_mem_cons.mpr ⟨backslash, written⟩
      next plain =>
        have onLine := onLine_of_plain plain
        split_ifs
        · exact List.forall_mem_cons.mpr ⟨onLine, induction false⟩
        · exact List.forall_mem_cons.mpr ⟨onLine, induction true⟩
        · refine List.forall_mem_cons.mpr ⟨backslash, ?_⟩
          exact List.forall_mem_cons.mpr ⟨onLine, induction false⟩
        · exact List.forall_mem_cons.mpr ⟨onLine, induction false⟩

theorem closes_terminatorEscape {c : Char} {letters : List Char}
    (terminates : terminatorEscape? c = some letters) (inClass : Bool) (rest : List Char) :
    closes inClass true (letters ++ rest) = closes inClass false rest := by
  unfold terminatorEscape? at terminates
  split at terminates <;> cases terminates <;> cases inClass <;> rfl

theorem leavesOpen_terminator {c : Char} {letters : List Char}
    (terminates : terminatorEscape? c = some letters) (inClass pending : Bool) (rest : List Char) :
    leavesOpen inClass pending (c :: rest) = leavesOpen inClass false rest := by
  unfold terminatorEscape? at terminates
  split at terminates <;> cases terminates <;> cases inClass <;> cases pending <;> rfl

/-- Escaping leaves no slash that would close the literal; only what the pattern itself leaves open
at its end stays open. -/
theorem closes_escapeDelimiters (inClass pending : Bool) (text : List Char) :
    closes inClass pending (escapeDelimiters pending text) =
      (!leavesOpen inClass pending text && !endsEscaped pending text) := by
  induction text generalizing inClass pending with
  | nil => rfl
  | cons c rest induction =>
      unfold escapeDelimiters
      split
      next letters terminates =>
        rw [leavesOpen_terminator terminates, endsEscaped_terminator terminates, ← induction]
        cases pending with
        | true => exact closes_terminatorEscape terminates inClass _
        | false => exact closes_terminatorEscape terminates inClass _
      next =>
        cases pending with
        | true => exact induction inClass false
        | false =>
            by_cases backslash : c = '\\'
            · subst backslash
              exact induction inClass true
            · have plain : (c == '\\') = false := beq_false_of_ne backslash
              by_cases slash : c = '/'
              · subst slash
                cases inClass with
                | true => exact induction true false
                | false => exact induction false false
              · simp only [Bool.false_eq_true, if_false, backslash, slash, closes, leavesOpen,
                  endsEscaped, plain, Bool.not_false, Bool.true_and, bne_iff_ne.mpr slash,
                  induction]
                split <;> rfl

theorem escapeDelimiters_cons (c : Char) (rest : List Char) :
    ∃ first more, escapeDelimiters false (c :: rest) = first :: more ∧ (first = '*' ↔ c = '*') := by
  have escaped : c ≠ '*' → ('\\' = '*' ↔ c = '*') := fun other => iff_of_false (by decide) other
  unfold escapeDelimiters
  split
  next letters terminates =>
    refine ⟨'\\', _, rfl, escaped ?_⟩
    rintro rfl
    cases terminates
  next =>
    simp only [Bool.false_eq_true, if_false]
    split_ifs with backslash slash
    · exact ⟨c, _, rfl, Iff.rfl⟩
    · refine ⟨'\\', _, rfl, escaped ?_⟩
      rintro rfl
      exact absurd slash (by decide)
    · exact ⟨c, _, rfl, Iff.rfl⟩

/-- A pattern whose last backslash escapes something is cut off as one literal unless it is empty,
starts with a star or leaves a class open. -/
theorem takenWhole_literal_iff {pattern : Pattern}
    (ends : endsEscaped false pattern.source.toList = false) :
    TakenWhole pattern.literal ↔ pattern.source.toList ≠ [] ∧
      pattern.source.toList.head? ≠ some '*' ∧
      leavesOpen false false pattern.source.toList = false := by
  rw [takenWhole_iff, literal, iff_body, body_iff_closes (escapeDelimiters_onLine false _),
    closes_escapeDelimiters, ends, Bool.not_false, Bool.and_true, Bool.not_eq_true']
  cases pattern.source.toList with
  | nil => exact iff_of_false (fun whole => whole.1 rfl) (fun whole => whole.1 rfl)
  | cons c rest =>
      obtain ⟨first, more, written, star⟩ := escapeDelimiters_cons c rest
      simp only [written, List.head?_cons, Option.some.injEq, ne_eq, reduceCtorEq, star]

end Pattern

namespace Directive

open RegexLiteral

theorem refinement_pattern (argument : String) :
    refinement? ⟨"pattern", argument⟩ = Refinement.pattern? (Text.trim argument.toList) := rfl

/-- The call that a directive adds for a pattern is written around a literal that is cut off whole,
unless the pattern starts with a star or leaves a class open. -/
theorem pattern_takenWhole_iff {argument : String} {call : Call}
    (adds : refinement? ⟨"pattern", argument⟩ = some call) :
    ∃ pattern : Pattern, pattern.source.toList = Text.trim argument.toList ∧
      (∀ library level,
        call.write library level = "regex(".toList ++ pattern.literal ++ [')']) ∧
      (TakenWhole pattern.literal ↔ (Text.trim argument.toList).head? ≠ some '*' ∧
        Pattern.leavesOpen false false (Text.trim argument.toList) = false) := by
  rw [refinement_pattern] at adds
  obtain ⟨useful, made⟩ := Option.ite_none_left_eq_some.mp adds
  cases made
  simp only [Bool.or_eq_true, not_or, Bool.not_eq_true, List.isEmpty_eq_false_iff] at useful
  obtain ⟨nonempty, settled⟩ := useful
  rw [Refinement.endsPending, Text.odd_backslashes_eq_endsEscaped] at settled
  refine ⟨⟨String.ofList (Text.trim argument.toList)⟩, String.toList_ofList, fun _ _ => rfl, ?_⟩
  rw [Pattern.takenWhole_literal_iff (by rw [String.toList_ofList]; exact settled)]
  simp only [String.toList_ofList, ne_eq, nonempty, not_false_eq_true, true_and]

/-- A class in which a slash stands is cut off with the literal. -/
theorem pattern_takenWhole_class :
    refinement? ⟨"pattern", " [a/*]+$ "⟩ = some ⟨"regex", [.pattern ⟨"[a/*]+$"⟩]⟩ ∧
      ∃ pattern : Pattern, pattern.source = "[a/*]+$" ∧ TakenWhole pattern.literal := by
  have adds : refinement? ⟨"pattern", " [a/*]+$ "⟩ =
      some ⟨"regex", [.pattern ⟨"[a/*]+$"⟩]⟩ := by rfl
  obtain ⟨pattern, source, -, taken⟩ := pattern_takenWhole_iff adds
  exact ⟨adds, pattern, String.toList_inj.mp source, taken.mpr ⟨by decide, by decide⟩⟩

/-- A star at the start of a pattern makes a comment of it, and a class left open lets it run on. -/
theorem pattern_opens_comment :
    (refinement? ⟨"pattern", "*a"⟩ = some ⟨"regex", [.pattern ⟨"*a"⟩]⟩ ∧
      ¬ TakenWhole (Pattern.literal ⟨"*a"⟩)) ∧
    (refinement? ⟨"pattern", "[a"⟩ = some ⟨"regex", [.pattern ⟨"[a"⟩]⟩ ∧
      ¬ TakenWhole (Pattern.literal ⟨"[a"⟩)) := by
  refine ⟨⟨by rfl, fun taken => ?_⟩, by rfl, fun taken => ?_⟩
  · exact ((Pattern.takenWhole_literal_iff (by decide)).mp taken).2.1 (by decide)
  · exact absurd ((Pattern.takenWhole_literal_iff (by decide)).mp taken).2.2 (by decide)

end Directive

end TypeSchema
