import TypeSchema.Proofs.DocComment.BlockComment
import TypeSchema.Proofs.Text.LineText
import TypeSchema.Schema.Render

/-!
Comments laid out more than once. A layout depends on the texts of the lines of a comment alone and
keeps them, and so do the directives of the comment and the marks that open and close it: a comment
that is taken from generated code and laid out again at any level changes no further.
-/

namespace TypeSchema

theorem indentation_blank (level : Nat) : ∀ c ∈ indentation level, Unicode.isBlank c = true := by
  intro c listed
  rw [List.eq_of_mem_replicate listed]
  rfl

theorem indentation_oneLine (level : Nat) : '\n' ∉ indentation level :=
  fun listed => absurd (List.eq_of_mem_replicate listed) (by decide)

namespace DocComment

open Text TypeScript Unicode

/-! What depends on the texts of lines alone. -/

theorem readDirective_trim (line : List Char) :
    readDirective? (trim line) = readDirective? line := by
  unfold readDirective? lineText
  rw [trim_trim]

theorem directives_eq (comment : String) :
    directives comment = (lineTexts (body comment.toList)).filterMap readDirective? :=
  (filterMap_lineTexts readDirective_trim rfl _).symm

theorem closing_solid : ∀ c ∈ ['*', '/'], isBlank c = false :=
  List.forall_mem_cons.mpr ⟨rfl, List.forall_mem_singleton.mpr rfl⟩

theorem opening_solid : ∀ c ∈ ['/', '*', '*'], isBlank c = false :=
  List.forall_mem_cons.mpr
    ⟨rfl, List.forall_mem_cons.mpr ⟨rfl, List.forall_mem_singleton.mpr rfl⟩⟩

theorem directives_eq_of_lineTexts_eq {first second : String}
    (same : lineTexts (trim first.toList) = lineTexts (trim second.toList)) :
    directives first = directives second := by
  have kept : lineTexts (body first.toList) = lineTexts (body second.toList) :=
    lineTexts_dropEnd_dropStart opening_solid closing_solid (trimmed_trim _) (trimmed_trim _) same
  rw [directives_eq, directives_eq, kept]

theorem layoutLines_trim (indent : List Char) (first : Bool) (lines : List (List Char)) :
    layoutLines indent first (lines.map trim) = layoutLines indent first lines := by
  induction lines generalizing first with
  | nil => rfl
  | cons line others induction =>
      rw [List.map_cons, layoutLines, layoutLines, layoutLine, layoutLine, trim_trim, induction]

section

variable {comment : String}

theorem lineTexts_trim_eq (filled : trim comment.toList ≠ []) :
    lineTexts (trim comment.toList) = (lines (trim comment.toList)).map trim := by
  refine lineTexts_eq_map_lines filled fun final => ?_
  exact absurd ((trimmed_trim comment.toList).last '\n' final) (by decide)

theorem layout_eq (filled : trim comment.toList ≠ []) (indent : List Char) :
    layout indent comment = layoutLines indent true (lineTexts (trim comment.toList)) := by
  rw [lineTexts_trim_eq filled, layoutLines_trim, layout]

/-! What a layout keeps. -/

variable {indent : List Char} (blank : ∀ c ∈ indent, isBlank c = true)

include blank

theorem layout_around (filled : trim comment.toList ≠ []) :
    layout indent comment = indent ++ (trim (layout indent comment) ++ ['\n']) ∧
      trim (layout indent comment) ≠ [] := by
  obtain ⟨core, shape, trimmed, nonempty⟩ := layout_shape indent filled
  have inside : trim (layout indent comment) = core := by
    rw [shape]
    exact trim_of_split blank (List.forall_mem_singleton.mpr rfl) trimmed
  rw [inside]
  exact ⟨shape, nonempty⟩

/-- Laying a comment out changes no mark that opens or closes a block. -/
theorem isBlock_trim_layout_iff :
    IsBlock (trim (layout indent comment)) ↔ IsBlock (trim comment.toList) := by
  have alone := layout_standsAlone_iff blank comment
  by_cases filled : trim comment.toList = []
  · rw [layout, filled]
    rfl
  · obtain ⟨shape, nonempty⟩ := layout_around blank filled
    rw [StandsAlone, OnlyBlock, or_iff_right filled, shape] at alone
    rw [← alone, or_iff_right (by simp)]
    constructor
    · exact fun isBlock => ⟨_, isBlock, rfl⟩
    · rintro ⟨block, isBlock, same⟩
      rw [List.append_cancel_left_eq, List.append_cancel_right_eq] at same
      rwa [same]

variable (oneLine : '\n' ∉ indent)

include oneLine

/-- Before the text of a line stand its indent and its margin. -/
theorem layoutLine_shape (first : Bool) (line : List Char) : ∃ blanks,
    layoutLine indent first line = blanks ++ trim line ++ ['\n'] ∧
      (∀ c ∈ blanks, isBlank c = true) ∧ '\n' ∉ blanks := by
  rw [layoutLine]
  split
  · refine ⟨indent ++ [' '], rfl, ?_, ?_⟩
    · exact List.forall_mem_append.mpr ⟨blank, List.forall_mem_singleton.mpr rfl⟩
    · rw [List.mem_append, not_or]
      exact ⟨oneLine, by decide⟩
  · exact ⟨indent, by rw [List.append_nil], blank, oneLine⟩

theorem lineTexts_layoutLines (first : Bool) {lines : List (List Char)}
    (each : ∀ line ∈ lines, '\n' ∉ line) :
    lineTexts (layoutLines indent first lines) = lines.map trim ++ [[]] := by
  induction lines generalizing first with
  | nil => rfl
  | cons line others induction =>
      obtain ⟨lineOneLine, othersOneLine⟩ := List.forall_mem_cons.mp each
      obtain ⟨blanks, shape, blanksBlank, blanksOneLine⟩ :=
        layoutLine_shape blank oneLine first line
      have inside : '\n' ∉ blanks ++ trim line := by
        rw [List.mem_append, not_or]
        exact ⟨blanksOneLine, fun listed => lineOneLine ((trim_sublist line).subset listed)⟩
      rw [layoutLines, shape, List.append_assoc _ ['\n'], List.singleton_append, lineTexts_feed,
        lineTexts_single inside, trim_blanks_append blanksBlank, trim_trim,
        induction false othersOneLine]
      rfl

/-- Laying a comment out keeps the texts of its lines. -/
theorem lineTexts_trim_layout :
    lineTexts (trim (layout indent comment)) = lineTexts (trim comment.toList) := by
  by_cases filled : trim comment.toList = []
  · rw [layout, filled]
    rfl
  · have written : lineTexts (layout indent comment) =
        lineTexts (trim comment.toList) ++ [[]] := by
      rw [lineTexts_trim_eq filled]
      exact lineTexts_layoutLines blank oneLine true (lines_oneLine _)
    obtain ⟨shape, -⟩ := layout_around blank filled
    rw [shape, lineTexts_blanks_append blank oneLine, lineTexts_ended] at written
    exact List.append_cancel_right written

theorem layout_layout (other : List Char) :
    layout other (String.ofList (layout indent comment)) = layout other comment := by
  have kept : lineTexts (trim (layout indent comment)) = lineTexts (trim comment.toList) :=
    lineTexts_trim_layout blank oneLine
  by_cases filled : trim comment.toList = []
  · have nothing : layout indent comment = [] := by
      rw [layout, filled]
      rfl
    rw [nothing, layout, layout, filled]
    rfl
  · have again : trim (String.ofList (layout indent comment)).toList ≠ [] := by
      rw [String.toList_ofList]
      exact (layout_around blank filled).2
    rw [layout_eq again, String.toList_ofList, kept, layout_eq filled]

theorem directives_layout :
    directives (String.ofList (layout indent comment)) = directives comment := by
  refine directives_eq_of_lineTexts_eq ?_
  rw [String.toList_ofList]
  exact lineTexts_trim_layout blank oneLine

end

/-! Single blocks. -/

/-- The first mark that closes a comment is the end of the text. -/
structure Closed (text : List Char) : Prop where
  ends : ∃ before, text = before ++ ['*', '/']
  first : ∀ before after, text = before ++ '*' :: '/' :: after → after = []

theorem closed_cons {c : Char} {text : List Char} (goesOn : ¬['*', '/'] <+: c :: text) :
    Closed (c :: text) ↔ Closed text := by
  constructor
  · rintro ⟨⟨before, split⟩, first⟩
    constructor
    · cases before with
      | nil => exact absurd ⟨[], split.symm⟩ goesOn
      | cons d before => exact ⟨before, (List.cons.inj split).2⟩
    · exact fun before after same => first (c :: before) after (congrArg (List.cons c) same)
  · rintro ⟨⟨before, split⟩, first⟩
    constructor
    · exact ⟨c :: before, congrArg (List.cons c) split⟩
    · intro before after same
      cases before with
      | nil => exact absurd ⟨after, same.symm⟩ goesOn
      | cons d before => exact first before after (List.cons.inj same).2

theorem closed_iff (text : List Char) :
    Closed text ↔ blockCommentLength? text = some text.length := by
  fun_induction blockCommentLength? text with
  | case1 =>
      refine iff_of_false ?_ (Option.some_ne_none _).symm
      rintro ⟨⟨before, split⟩, -⟩
      exact absurd split (by simp)
  | case2 others =>
      constructor
      · rintro ⟨-, first⟩
        rw [first [] others rfl]
        rfl
      · intro length
        obtain rfl : others = [] := List.length_eq_zero_iff.mp (by simpa using length)
        refine ⟨⟨[], rfl⟩, fun before after same => List.length_eq_zero_iff.mp ?_⟩
        have lengths := congrArg List.length same
        simp only [List.length_cons, List.length_nil, List.length_append] at lengths
        omega
  | case3 c others notEnd induction =>
      have goesOn : ¬['*', '/'] <+: c :: others := by
        rintro ⟨more, split⟩
        obtain ⟨rfl, rfl⟩ := List.cons.inj split
        exact notEnd more rfl rfl
      rw [closed_cons goesOn, induction, List.length_cons, Option.map_eq_some_iff]
      constructor
      · exact fun length => ⟨_, length, rfl⟩
      · rintro ⟨length, found, same⟩
        rw [found, Nat.succ.inj same]

/-- One documentation block: the text opens it, and the first mark that closes it ends the text. -/
def IsDocBlock (text : List Char) : Prop :=
  ['/', '*', '*'] <+: text ∧ Closed text

theorem isDocBlock_iff (text : List Char) :
    IsDocBlock text ↔ ['/', '*', '*'] <+: text ∧ IsBlock text := by
  refine and_congr_right fun ⟨rest, split⟩ => ?_
  subst split
  -- The star of the mark that opens the block may not be taken for one that closes it.
  have slash : ¬['*', '/'] <+: '/' :: '*' :: '*' :: rest := by simp
  have star : ¬['*', '/'] <+: '*' :: '*' :: rest := by simp
  rw [List.cons_append, List.cons_append, List.cons_append, List.nil_append, closed_cons slash,
    closed_cons star, closed_iff]
  constructor
  · exact fun length => ⟨'*' :: rest, rfl, length⟩
  · rintro ⟨inside, same, length⟩
    obtain rfl : '*' :: rest = inside := (List.cons.inj (List.cons.inj same).2).2
    exact length

/-- A comment that is laid out again is laid out as it would be at first, with the directives that it
has, and is one documentation block exactly when it was. -/
theorem layout_again (comment : String) (first second : Nat) :
    layout (indentation second) (String.ofList (layout (indentation first) comment)) =
        layout (indentation second) comment ∧
      directives (String.ofList (layout (indentation first) comment)) = directives comment ∧
      (IsDocBlock (trim (layout (indentation first) comment)) ↔
        IsDocBlock (trim comment.toList)) := by
  have blank := indentation_blank first
  have oneLine := indentation_oneLine first
  refine ⟨layout_layout blank oneLine _, directives_layout blank oneLine, ?_⟩
  rw [isDocBlock_iff, isDocBlock_iff, isBlock_trim_layout_iff blank]
  refine and_congr_left fun _ => ?_
  rw [← isPrefix_lineTexts_iff opening_solid (trimmed_trim _).head, lineTexts_trim_layout blank oneLine,
    isPrefix_lineTexts_iff opening_solid (trimmed_trim _).head]

end DocComment

end TypeSchema
