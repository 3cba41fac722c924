import TypeSchema.Proofs.DocComment.Layout

/-!
Directives written into a comment, one to a line and with prose between them, are read back, and no
comment gives a directive that could not be written so.
-/

namespace TypeSchema

open Text Unicode

/-- A directive that one line can carry. -/
structure Directive.OnLine (directive : Directive) : Prop where
  tag_ne_nil : directive.tag.toList ≠ []
  tag_solid : ∀ c ∈ directive.tag.toList, isBlank c = false
  argument_trimmed : trim directive.argument.toList = directive.argument.toList
  argument_oneLine : '\n' ∉ directive.argument.toList

namespace DocComment

/-- A line between the marks that open and close a comment. -/
inductive Line where
  | directive (directive : Directive)
  | prose (text : String)

namespace Line

def text : Line → List Char
  | directive given => " * @".toList ++ (given.tag.toList ++ ' ' :: given.argument.toList)
  | prose text => " * ".toList ++ text.toList

def directive? : Line → Option Directive
  | directive given => some given
  | prose _ => none

/-- Whether a line is one line, of prose only if it does not look like a directive. -/
def Plain : Line → Prop
  | directive given => given.OnLine
  | prose text => '\n' ∉ text.toList ∧ (lineText text.toList).head? ≠ some '@'

end Line

/-- What stands at the end of a line. -/
inductive LineEnd where
  | feed
  | carriageFeed

/-- What stands before the line feed. -/
def LineEnd.before : LineEnd → List Char
  | feed => []
  | carriageFeed => ['\r']

def Line.ended (line : Line × LineEnd) : List Char :=
  line.1.text ++ line.2.before ++ ['\n']

/-- A comment with these lines, whose first line ends with `opening`. -/
def write (opening : LineEnd) (lines : List (Line × LineEnd)) : List Char :=
  "/**".toList ++ (opening.before ++ '\n' :: (lines.flatMap Line.ended ++ " */".toList))

/-! Reading one line. -/

theorem lineText_starred (text : List Char) : lineText (' ' :: '*' :: ' ' :: text) = trim text := by
  have blank : ∀ c ∈ [' '], isBlank c = true := List.forall_mem_singleton.mpr rfl
  have margin : trim (' ' :: '*' :: ' ' :: text) = '*' :: trimEnd (' ' :: text) :=
    (trim_blanks_append blank ('*' :: ' ' :: text)).trans (trim_cons rfl _)
  have star : (trimEnd (' ' :: text)).dropWhile (· == '*') = trimEnd (' ' :: text) := by
    obtain ⟨after, split, -⟩ := trimEnd_split (' ' :: text)
    cases stays : trimEnd (' ' :: text) with
    | nil => rfl
    | cons c more =>
        rw [stays] at split
        obtain ⟨rfl, -⟩ := List.cons.inj split
        rfl
  rw [lineText, margin, List.dropWhile_cons_of_pos rfl, star, trim_trimEnd]
  exact trim_blanks_append blank text

theorem splitAtBlank_append {tag : List Char} (solid : ∀ c ∈ tag, isBlank c = false)
    {more : List Char} (ends : ∀ c ∈ more.head?, isBlank c = true) :
    splitAtBlank (tag ++ more) = (tag, more.drop 1) := by
  have inside : ∀ c ∈ tag, (!isBlank c) = true := by
    intro c listed
    rw [solid c listed]
    rfl
  rw [splitAtBlank, List.takeWhile_append_of_pos inside, List.dropWhile_append_of_pos inside]
  cases more with
  | nil => rw [List.takeWhile_nil, List.append_nil, List.dropWhile_nil]
  | cons c rest => simp [ends c rfl]

/-- After the tag comes nothing, or a blank and what is left of the argument. -/
theorem trim_drop_trimEnd {argument : List Char} (trimmed : trim argument = argument) :
    trim ((trimEnd (' ' :: argument)).drop 1) = argument := by
  obtain ⟨after, split, blank⟩ := trimEnd_split (' ' :: argument)
  cases stays : trimEnd (' ' :: argument) with
  | nil =>
      rw [stays, List.nil_append] at split
      have blanks : ∀ c ∈ argument, isBlank c = true := fun c listed =>
        blank c (by rw [← split]; exact List.mem_cons_of_mem ' ' listed)
      exact (trim_append_blanks blanks []).symm.trans trimmed
  | cons c more =>
      rw [stays, List.cons_append] at split
      obtain ⟨-, ended⟩ := List.cons.inj split
      rw [List.drop_one, List.tail_cons, ← trim_append_blanks blank, ← ended, trimmed]

theorem readDirective_tagged {given : Directive} (onLine : given.OnLine) :
    readDirective? (" * @".toList ++ (given.tag.toList ++ ' ' :: given.argument.toList)) =
      some given := by
  have read : lineText (" * @".toList ++ (given.tag.toList ++ ' ' :: given.argument.toList)) =
      '@' :: (given.tag.toList ++ trimEnd (' ' :: given.argument.toList)) := by
    rw [← trimEnd_append onLine.tag_solid, ← trim_cons rfl]
    exact lineText_starred _
  have ends : ∀ c ∈ (trimEnd (' ' :: given.argument.toList)).head?, isBlank c = true := by
    obtain ⟨after, split, -⟩ := trimEnd_split (' ' :: given.argument.toList)
    intro c first
    have head : (' ' :: given.argument.toList).head? = some c := by
      rw [split, List.head?_append, first]
      rfl
    obtain rfl := Option.some.inj head
    rfl
  have named : given.tag.toList.isEmpty = false := List.isEmpty_eq_false_iff.mpr onLine.tag_ne_nil
  rw [readDirective?, read]
  simp only [splitAtBlank_append onLine.tag_solid ends, named,
    trim_drop_trimEnd onLine.argument_trimmed, String.ofList_toList]
  rfl

theorem readDirective_text {line : Line} (plain : line.Plain) :
    readDirective? line.text = line.directive? := by
  cases line with
  | directive given => exact readDirective_tagged plain
  | prose text =>
      have read : lineText (" * ".toList ++ text.toList) = trim text.toList := lineText_starred _
      rw [Line.text, readDirective?, read]
      split
      next rest found =>
        refine absurd ?_ plain.2
        rw [lineText, found, List.dropWhile_cons_of_neg (by decide), ← found, trim_trim, found]
        rfl
      next => rfl

/-! Reading a comment. -/

theorem lineEnd_before_blank (ending : LineEnd) : ∀ c ∈ ending.before, isBlank c = true := by
  cases ending with
  | feed => exact List.forall_mem_nil _
  | carriageFeed => exact List.forall_mem_singleton.mpr rfl

theorem lineEnd_before_oneLine (ending : LineEnd) : '\n' ∉ ending.before := by
  cases ending <;> decide

theorem Line.Plain.oneLine {line : Line} (plain : line.Plain) : '\n' ∉ line.text := by
  cases line with
  | directive given =>
      obtain ⟨-, solid, -, argumentOneLine⟩ := plain
      have tagOneLine : '\n' ∉ given.tag.toList := fun listed => absurd (solid _ listed) (by decide)
      simp [Line.text, tagOneLine, argumentOneLine]
  | prose text => simp [Line.text, plain.1]

theorem lineTexts_lines {lines : List (Line × LineEnd)} (each : ∀ line ∈ lines, line.1.Plain)
    (rest : List Char) :
    lineTexts (lines.flatMap Line.ended ++ rest) =
      lines.map (fun line => trim line.1.text) ++ lineTexts rest := by
  induction lines with
  | nil => rfl
  | cons line others induction =>
      obtain ⟨plain, othersPlain⟩ := List.forall_mem_cons.mp each
      have inside : '\n' ∉ line.1.text ++ line.2.before := by
        rw [List.mem_append, not_or]
        exact ⟨plain.oneLine, lineEnd_before_oneLine line.2⟩
      rw [List.flatMap_cons, Line.ended, List.append_assoc, List.append_assoc _ ['\n'],
        List.singleton_append, lineTexts_feed, lineTexts_single inside,
        trim_append_blanks (lineEnd_before_blank line.2), induction othersPlain]
      rfl

/-- Between its marks a comment has an empty line, its lines, and an empty line. -/
theorem body_write (opening : LineEnd) (lines : List (Line × LineEnd)) :
    body (write opening lines) =
      opening.before ++ '\n' :: (lines.flatMap Line.ended ++ [' ']) := by
  have trimmed : Trimmed (write opening lines) := by
    constructor
    · rintro _ ⟨⟩
      rfl
    · intro c last
      rw [write, List.getLast?_append, List.getLast?_append, List.getLast?_cons,
        List.getLast?_append] at last
      obtain rfl := Option.some.inj last
      rfl
  have marks : write opening lines = ['/', '*', '*'] ++
      ((opening.before ++ '\n' :: (lines.flatMap Line.ended ++ [' '])) ++ ['*', '/']) := by
    simp [write]
  rw [body, trimmed.trim_eq, marks, dropStart_append, dropEnd_append]

theorem onLine_of_readDirective {line : List Char} (oneLine : '\n' ∉ line) {read : Directive}
    (reads : readDirective? line = some read) : read.OnLine := by
  have kept : (lineText line).Sublist line :=
    (trim_sublist _).trans ((List.dropWhile_sublist _).trans (trim_sublist line))
  unfold readDirective? at reads
  split at reads
  next rest found =>
    obtain ⟨named, made⟩ := Option.ite_none_left_eq_some.mp reads
    obtain rfl := Option.some.inj made
    have argumentKept : (trim (splitAtBlank rest).2).Sublist line := by
      have inRest : (splitAtBlank rest).2.Sublist rest :=
        (List.drop_sublist 1 _).trans (List.dropWhile_sublist _)
      rw [found] at kept
      exact (trim_sublist _).trans (inRest.trans ((List.sublist_cons_self '@' rest).trans kept))
    constructor
    · rw [String.toList_ofList]
      exact fun nothing => named (List.isEmpty_iff.mpr nothing)
    · rw [String.toList_ofList]
      intro c listed
      simpa using List.all_eq_true.mp List.all_takeWhile c listed
    · rw [String.toList_ofList, trim_trim]
    · rw [String.toList_ofList]
      exact fun listed => oneLine (argumentKept.subset listed)
  next => cases reads

/-- What is written is read back, and what is read could be written. -/
theorem directives_write {lines : List (Line × LineEnd)} (each : ∀ line ∈ lines, line.1.Plain)
    (opening : LineEnd) :
    directives (String.ofList (write opening lines)) =
        lines.filterMap (fun line => line.1.directive?) ∧
      ∀ comment, ∀ read ∈ directives comment, read.OnLine := by
  constructor
  · have texts : lineTexts (body (write opening lines)) =
        [] :: (lines.map (fun line => trim line.1.text) ++ [[]]) := by
      rw [body_write, lineTexts_feed, lineTexts_single (lineEnd_before_oneLine opening),
        lineTexts_lines each]
      cases opening <;> rfl
    rw [directives_eq, String.toList_ofList, texts, List.filterMap_cons_none rfl,
      List.filterMap_append, List.filterMap_cons_none rfl, List.filterMap_nil, List.append_nil,
      List.filterMap_map]
    refine List.filterMap_congr fun line listed => ?_
    rw [Function.comp, readDirective_trim]
    exact readDirective_text (each line listed)
  · intro comment read listed
    obtain ⟨line, isLine, reads⟩ := List.mem_filterMap.mp listed
    exact onLine_of_readDirective (lines_oneLine _ line isLine) reads

/-- Stars, marks and carriage returns in arguments and prose are no obstacle. -/
theorem directives_write_marks :
    ∃ lines : List (Line × LineEnd),
      lines = [(.prose "* Neither */ ends nor @tags", .feed),
        (.directive ⟨"pattern", "*\r@ */"⟩, .carriageFeed), (.directive ⟨"@*/", ""⟩, .feed)] ∧
      (∀ line ∈ lines, line.1.Plain) ∧
      directives (String.ofList (write .carriageFeed lines)) =
        [⟨"pattern", "*\r@ */"⟩, ⟨"@*/", ""⟩] := by
  refine ⟨_, rfl, ?_⟩
  have solid {tag : List Char} (all : tag.all (!isBlank ·) = true) :
      ∀ c ∈ tag, isBlank c = false := by
    simpa using all
  have each : ∀ line ∈ [(Line.prose "* Neither */ ends nor @tags", LineEnd.feed),
      (.directive ⟨"pattern", "*\r@ */"⟩, .carriageFeed), (.directive ⟨"@*/", ""⟩, .feed)],
      line.1.Plain := by
    refine List.forall_mem_cons.mpr ⟨⟨by decide, by decide⟩, List.forall_mem_cons.mpr ⟨?_, ?_⟩⟩
    · exact ⟨by decide, solid (by decide), by decide, by decide⟩
    · exact List.forall_mem_singleton.mpr ⟨by decide, solid (by decide), by decide, by decide⟩
  exact ⟨each, (directives_write each .carriageFeed).1⟩

end DocComment

end TypeSchema
