import Mathlib.Data.List.Basic
import TypeSchema.Proofs.Text.Trim

/-!
The texts of lines, white space around each line aside. They do not depend on how lines are indented
and ended, and what is cut off from the ends of a text shows in them alone.
-/

namespace TypeSchema.Text

open Unicode

/-- Every text is one line, or a line, a line feed and a text. -/
theorem feed_induct {motive : List Char → Prop}
    (single : ∀ line, '\n' ∉ line → motive line)
    (feed : ∀ line rest, '\n' ∉ line → motive rest → motive (line ++ '\n' :: rest))
    (text : List Char) : motive text := by
  by_cases broken : '\n' ∈ text
  · obtain ⟨line, rest, split, oneLine⟩ := List.eq_append_cons_of_mem broken
    have shorter : rest.length < text.length := by
      rw [split, List.length_append, List.length_cons]
      omega
    rw [split]
    exact feed line rest oneLine (feed_induct single feed rest)
  · exact single text broken
termination_by text.length

section

variable {line rest text : List Char}

/-! Lines and what stands between line feeds. -/

theorem lines_single (oneLine : '\n' ∉ line) (filled : line ≠ []) : lines line = [line] := by
  induction line with
  | nil => exact absurd rfl filled
  | cons c others induction =>
      obtain ⟨notFeed, othersOneLine⟩ := List.ne_and_not_mem_of_not_mem_cons oneLine
      rw [lines]
      · cases others with
        | nil => rfl
        | cons d more => rw [induction othersOneLine (List.cons_ne_nil d more)]
      · exact notFeed.symm
      · rintro more - rfl
        exact othersOneLine List.mem_cons_self

/-- A line feed ends a line, and takes a carriage return before it along. -/
theorem lines_feed (oneLine : '\n' ∉ line) (rest : List Char) :
    ∃ chomped, lines (line ++ '\n' :: rest) = chomped :: lines rest ∧
      (chomped = line ∨ chomped ++ ['\r'] = line) := by
  induction line with
  | nil => exact ⟨[], rfl, .inl rfl⟩
  | cons c others induction =>
      obtain ⟨notFeed, othersOneLine⟩ := List.ne_and_not_mem_of_not_mem_cons oneLine
      by_cases pair : c = '\r' ∧ others = []
      · obtain ⟨rfl, rfl⟩ := pair
        exact ⟨[], rfl, .inr rfl⟩
      · obtain ⟨chomped, split, same⟩ := induction othersOneLine
        refine ⟨c :: chomped, ?_, ?_⟩
        · rw [List.cons_append, lines, split]
          · exact notFeed.symm
          · rintro more rfl follows
            cases others with
            | nil => exact pair ⟨rfl, rfl⟩
            | cons d others =>
                obtain ⟨rfl, -⟩ := List.cons.inj follows
                exact othersOneLine List.mem_cons_self
        · rcases same with rfl | rfl
          · exact .inl rfl
          · exact .inr rfl

/-- The texts between line feeds, without the white space around each. -/
def lineTexts (text : List Char) : List (List Char) :=
  (text.splitOn '\n').map trim

theorem lineTexts_single (oneLine : '\n' ∉ line) : lineTexts line = [trim line] := by
  rw [lineTexts, List.splitOn_eq_singleton oneLine]
  rfl

theorem lineTexts_feed (first second : List Char) :
    lineTexts (first ++ '\n' :: second) = lineTexts first ++ lineTexts second := by
  rw [lineTexts, List.splitOn_append_cons_self, List.map_append]
  rfl

theorem lineTexts_ended (text : List Char) : lineTexts (text ++ ['\n']) = lineTexts text ++ [[]] :=
  lineTexts_feed text []

theorem trim_chomped {chomped : List Char} (same : chomped = line ∨ chomped ++ ['\r'] = line) :
    trim chomped = trim line := by
  rcases same with rfl | rfl
  · rfl
  · exact (trim_append_blanks (List.forall_mem_singleton.mpr rfl) chomped).symm

/-- Unless a text ends with a line feed, the texts are those of its lines. -/
theorem lineTexts_eq_map_lines (filled : text ≠ []) (ends : text.getLast? ≠ some '\n') :
    lineTexts text = (lines text).map trim := by
  induction text using feed_induct with
  | single line oneLine =>
      rw [lineTexts_single oneLine, lines_single oneLine filled]
      rfl
  | feed line rest oneLine induction =>
      obtain ⟨chomped, split, same⟩ := lines_feed oneLine rest
      cases rest with
      | nil => exact absurd List.getLast?_concat ends
      | cons c others =>
          have later : (c :: others).getLast? ≠ some '\n' := by
            intro final
            refine ends ?_
            rw [List.getLast?_append, List.getLast?_cons_cons, final]
            rfl
          rw [lineTexts_feed, lineTexts_single oneLine, split, List.map_cons, trim_chomped same,
            induction (List.cons_ne_nil c others) later]
          rfl

/-- What is read from lines without regard to the white space around them, and never from an empty
line, is read from their texts. -/
theorem filterMap_lineTexts {α : Type} {read : List Char → Option α}
    (spaced : ∀ line, read (trim line) = read line) (empty : read [] = none) (text : List Char) :
    (lineTexts text).filterMap read = (lines text).filterMap read := by
  induction text using feed_induct with
  | single line oneLine =>
      rw [lineTexts_single oneLine]
      by_cases filled : line = []
      · subst filled
        exact List.filterMap_cons_none empty
      · rw [lines_single oneLine filled]
        simp only [List.filterMap_cons, spaced]
  | feed line rest oneLine induction =>
      obtain ⟨chomped, split, same⟩ := lines_feed oneLine rest
      rw [lineTexts_feed, lineTexts_single oneLine, split, List.singleton_append,
        ← trim_chomped same]
      simp only [List.filterMap_cons, spaced, induction]

/-! Cutting off what a text starts or ends with. -/

theorem lineTexts_blanks_append {blanks : List Char} (blank : ∀ c ∈ blanks, isBlank c = true)
    (oneLine : '\n' ∉ blanks) (text : List Char) : lineTexts (blanks ++ text) = lineTexts text := by
  induction text using feed_induct with
  | single line lineOneLine =>
      rw [lineTexts_single lineOneLine, lineTexts_single (by simp [oneLine, lineOneLine]),
        trim_blanks_append blank]
  | feed line rest lineOneLine _ =>
      rw [← List.append_assoc, lineTexts_feed, lineTexts_feed, lineTexts_single lineOneLine,
        lineTexts_single (by simp [oneLine, lineOneLine]), trim_blanks_append blank]

theorem lineTexts_reverse (text : List Char) :
    lineTexts text.reverse = ((lineTexts text).map List.reverse).reverse := by
  induction text using feed_induct with
  | single line oneLine =>
      have reversed : '\n' ∉ line.reverse := fun listed => oneLine (List.mem_reverse.mp listed)
      rw [lineTexts_single oneLine, lineTexts_single reversed, trim_reverse]
      rfl
  | feed line rest oneLine induction =>
      have reversed : '\n' ∉ line.reverse := fun listed => oneLine (List.mem_reverse.mp listed)
      rw [List.reverse_append, List.reverse_cons, List.append_assoc, List.singleton_append,
        lineTexts_feed, lineTexts_feed, induction, lineTexts_single oneLine,
        lineTexts_single reversed, trim_reverse, List.map_append, List.reverse_append]
      rfl

variable {start : List Char}

theorem dropStart_eq_self (absent : ¬start <+: text) : dropStart start text = text := by
  cases found : start.isPrefixOf? text with
  | none => rw [dropStart, found, Option.getD_none]
  | some rest =>
      exact absurd ⟨rest, List.isPrefixOf?_eq_some_iff_append_eq.mp found⟩ absent

theorem dropStart_append (rest : List Char) : dropStart start (start ++ rest) = rest := by
  rw [dropStart, List.isPrefixOf?_eq_some_iff_append_eq.mpr rfl, Option.getD_some]

theorem dropStart_suffix (text : List Char) : dropStart start text <:+ text := by
  by_cases present : start <+: text
  · obtain ⟨rest, rfl⟩ := present
    rw [dropStart_append]
    exact List.suffix_append start rest
  · exact ⟨[], dropStart_eq_self present⟩

/-- A text that does not start with something does not start with it either when more follows that
cannot go on with it. -/
theorem isPrefix_append_iff {more : List Char} (apart : ∀ c ∈ more.head?, c ∉ start)
    (text : List Char) : start <+: text ++ more ↔ start <+: text := by
  refine ⟨?_, fun present => present.trans (List.prefix_append text more)⟩
  rintro ⟨rest, split⟩
  rcases List.append_eq_append_iff.mp split with ⟨between, whole, -⟩ | ⟨between, whole, after⟩
  · exact ⟨between, whole.symm⟩
  · cases between with
    | nil => exact ⟨[], by rw [whole, List.append_nil, List.append_nil]⟩
    | cons c between =>
        have follows : c ∈ more.head? := by
          rw [after]
          rfl
        have listed : c ∈ start := by
          rw [whole]
          exact List.mem_append_right text List.mem_cons_self
        exact absurd listed (apart c follows)

theorem dropStart_append_of_apart {more : List Char} (apart : ∀ c ∈ more.head?, c ∉ start)
    (text : List Char) : dropStart start (text ++ more) = dropStart start text ++ more := by
  by_cases present : start <+: text
  · obtain ⟨rest, rfl⟩ := present
    rw [List.append_assoc, dropStart_append, dropStart_append]
  · rw [dropStart_eq_self present,
      dropStart_eq_self fun whole => present ((isPrefix_append_iff apart text).mp whole)]

/-- The first line of a text, and what follows it. -/
theorem exists_first_line (text : List Char) : ∃ line more, text = line ++ more ∧ '\n' ∉ line ∧
    ∀ c ∈ more.head?, c = '\n' := by
  refine ⟨text.takeWhile (· != '\n'), text.dropWhile (· != '\n'),
    List.takeWhile_append_dropWhile.symm, fun listed => ?_, fun c first => ?_⟩
  · exact absurd (List.all_eq_true.mp List.all_takeWhile '\n' listed) (by decide)
  · have stops := List.head?_dropWhile_not (· != '\n') text
    rw [first] at stops
    simpa using stops

theorem lineTexts_append (oneLine : '\n' ∉ line) {more : List Char}
    (ends : ∀ c ∈ more.head?, c = '\n') :
    lineTexts (line ++ more) = trim line :: (lineTexts more).tail := by
  cases more with
  | nil =>
      rw [List.append_nil, lineTexts_single oneLine]
      rfl
  | cons c rest =>
      obtain rfl := ends c rfl
      rw [lineTexts_feed, lineTexts_single oneLine, ← List.nil_append ('\n' :: rest), lineTexts_feed]
      rfl

section

variable (startSolid : ∀ c ∈ start, isBlank c = false) (solid : ∀ c ∈ text.head?, isBlank c = false)

include startSolid solid

/-- The white space after a trimmed text cannot go on with `start`. -/
theorem exists_trim_append : ∃ after, text = trim text ++ after ∧
    (∀ c ∈ after, isBlank c = true) ∧ ∀ c ∈ after.head?, c ∉ start := by
  obtain ⟨before, after, blankBefore, blankAfter, split⟩ := trim_split text
  refine ⟨after, ?_, blankAfter, fun c first listed => ?_⟩
  · cases before with
    | nil => exact split
    | cons c more =>
        have isSolid := solid c (by rw [split]; rfl)
        rw [blankBefore c List.mem_cons_self] at isSolid
        cases isSolid
  · have isSolid := startSolid c listed
    rw [blankAfter c (List.mem_of_head? first)] at isSolid
    cases isSolid

theorem isPrefix_trim_iff : start <+: trim text ↔ start <+: text := by
  obtain ⟨after, split, -, apart⟩ := exists_trim_append startSolid solid
  rw [← isPrefix_append_iff apart (trim text), ← split]

theorem trim_dropStart : trim (dropStart start (trim text)) = trim (dropStart start text) := by
  obtain ⟨after, split, blankAfter, apart⟩ := exists_trim_append startSolid solid
  have dropped : dropStart start text = dropStart start (trim text) ++ after := by
    rw [← dropStart_append_of_apart apart, ← split]
  rw [dropped, trim_append_blanks blankAfter]

/-- The first line of a text, after which `start` does not go on. -/
theorem exists_start_line : ∃ line more, text = line ++ more ∧ '\n' ∉ line ∧
    (∀ c ∈ line.head?, isBlank c = false) ∧ (∀ c ∈ more.head?, c = '\n') ∧
      ∀ c ∈ more.head?, c ∉ start := by
  obtain ⟨line, more, rfl, oneLine, ends⟩ := exists_first_line text
  refine ⟨line, more, rfl, oneLine, fun c first => ?_, ends, fun c first listed => ?_⟩
  · refine solid c ?_
    rw [List.head?_append, first]
    rfl
  · have isSolid := startSolid c listed
    rw [ends c first] at isSolid
    cases isSolid

/-- What a text starts with shows in the text of its first line. -/
theorem isPrefix_lineTexts_iff :
    (∃ line ∈ (lineTexts text).head?, start <+: line) ↔ start <+: text := by
  obtain ⟨line, more, rfl, oneLine, lineSolid, ends, apart⟩ := exists_start_line startSolid solid
  rw [lineTexts_append oneLine ends, isPrefix_append_iff apart,
    ← isPrefix_trim_iff startSolid lineSolid]
  exact ⟨by rintro ⟨_, ⟨⟩, present⟩; exact present, fun present => ⟨_, rfl, present⟩⟩

/-- What a text starts with is cut off from the text of its first line. -/
theorem lineTexts_dropStart : lineTexts (dropStart start text) =
    (lineTexts text).modifyHead fun line => trim (dropStart start line) := by
  obtain ⟨line, more, rfl, oneLine, lineSolid, ends, apart⟩ := exists_start_line startSolid solid
  have kept : '\n' ∉ dropStart start line :=
    fun listed => oneLine ((dropStart_suffix line).subset listed)
  rw [dropStart_append_of_apart apart, lineTexts_append kept ends, lineTexts_append oneLine ends,
    List.modifyHead_cons, trim_dropStart startSolid lineSolid]

end

theorem dropEnd_append (text ending : List Char) : dropEnd ending (text ++ ending) = text := by
  rw [dropEnd, List.isSuffixOf?_eq_some_iff_append_eq.mpr rfl, Option.getD_some]

theorem dropEnd_eq_reverse (ending text : List Char) :
    dropEnd ending text = (dropStart ending.reverse text.reverse).reverse := by
  rw [dropEnd, dropStart, List.isSuffixOf?]
  cases List.isPrefixOf? ending.reverse text.reverse with
  | none => exact (List.reverse_reverse text).symm
  | some rest => rfl

/-- What is left of a text without its start and its ending shows in the texts of its lines. -/
theorem lineTexts_dropEnd_dropStart {first second ending : List Char}
    (startSolid : ∀ c ∈ start, isBlank c = false) (endingSolid : ∀ c ∈ ending, isBlank c = false)
    (firstTrimmed : Trimmed first) (secondTrimmed : Trimmed second)
    (same : lineTexts first = lineTexts second) :
    lineTexts (dropEnd ending (dropStart start first)) =
      lineTexts (dropEnd ending (dropStart start second)) := by
  have reversedSolid : ∀ c ∈ ending.reverse, isBlank c = false :=
    fun c listed => endingSolid c (List.mem_reverse.mp listed)
  have lastSolid {text : List Char} (trimmed : Trimmed text) :
      ∀ c ∈ (dropStart start text).reverse.head?, isBlank c = false := by
    intro c last
    rw [List.head?_reverse] at last
    have kept : dropStart start text <:+ text := dropStart_suffix text
    obtain ⟨before, whole⟩ := kept
    refine trimmed.last c ?_
    rw [← whole, List.getLast?_append, last]
    rfl
  rw [dropEnd_eq_reverse, dropEnd_eq_reverse, lineTexts_reverse, lineTexts_reverse,
    lineTexts_dropStart reversedSolid (lastSolid firstTrimmed),
    lineTexts_dropStart reversedSolid (lastSolid secondTrimmed), lineTexts_reverse,
    lineTexts_reverse, lineTexts_dropStart startSolid firstTrimmed.head,
    lineTexts_dropStart startSolid secondTrimmed.head, same]

end

end TypeSchema.Text
