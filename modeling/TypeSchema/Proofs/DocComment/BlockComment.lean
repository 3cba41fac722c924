import TypeSchema.DocComment
import TypeSchema.Proofs.Text.Trim
import TypeSchema.TypeScript.Token

/-!
Comments as tokens. Laying a comment out changes nothing but blanks, and no blank is changed where it
would matter: what is written is one block comment exactly when that is what was given. The proof
reads both texts with the same machine, which takes blanks of any number for one.
-/

namespace TypeSchema

open Unicode

namespace DocComment

open Text TypeScript

/-- One block comment: the text opens it, and the first mark that closes it ends the text. -/
def IsBlock (text : List Char) : Prop :=
  ∃ inside, text = '/' :: '*' :: inside ∧ blockCommentLength? inside = some inside.length

/-- One block comment or none, blanks aside. -/
def OnlyBlock (text : List Char) : Prop :=
  trim text = [] ∨ IsBlock (trim text)

/-- How much of a block comment has been read. -/
inductive Scan where
  /-- Blanks at most. -/
  | outside
  /-- The slash that opens the comment. -/
  | opening
  | inside
  /-- A star that may close the comment. -/
  | closing
  /-- The comment, and blanks at most after it. -/
  | complete
  /-- Something else than a comment. -/
  | broken
deriving DecidableEq

namespace Scan

def step : Scan → Char → Scan
  | outside, c => if isBlank c then outside else if c = '/' then opening else broken
  | opening, c => if c = '*' then inside else broken
  | inside, c => if c = '*' then closing else inside
  | closing, c => if c = '/' then complete else if c = '*' then closing else inside
  | complete, c => if isBlank c then complete else broken
  | broken, _ => broken

def run (state : Scan) (text : List Char) : Scan :=
  text.foldl step state

/-- The state that a blank leads to. -/
def rest : Scan → Scan
  | opening => broken
  | closing => inside
  | state => state

/-- Whether the text may end here. -/
def Accepts (state : Scan) : Prop :=
  state = outside ∨ state = complete

theorem rest_rest (state : Scan) : state.rest.rest = state.rest := by
  cases state <;> rfl

theorem accepts_rest {state : Scan} : state.rest.Accepts ↔ state.Accepts := by
  cases state <;> simp [rest, Accepts]

variable {state : Scan} {text : List Char}

theorem run_append (state : Scan) (first second : List Char) :
    run state (first ++ second) = run (run state first) second :=
  List.foldl_append

theorem step_blank {c : Char} (blank : isBlank c = true) (state : Scan) : step state c = rest state := by
  have star : c ≠ '*' := by
    rintro rfl
    exact absurd blank (by decide)
  have slash : c ≠ '/' := by
    rintro rfl
    exact absurd blank (by decide)
  cases state <;> simp [step, rest, blank, star, slash]

section Blanks

variable {blanks : List Char} (blank : ∀ c ∈ blanks, isBlank c = true)

include blank

theorem rest_run_blanks (state : Scan) : rest (run state blanks) = rest state := by
  induction blanks generalizing state with
  | nil => rfl
  | cons c others induction =>
      obtain ⟨head, tail⟩ := List.forall_mem_cons.mp blank
      rw [run, List.foldl_cons, step_blank head]
      exact (induction tail _).trans (rest_rest state)

theorem run_blanks (rested : state.rest = state) : run state blanks = state := by
  induction blanks with
  | nil => rfl
  | cons c others induction =>
      obtain ⟨head, tail⟩ := List.forall_mem_cons.mp blank
      rw [run, List.foldl_cons, step_blank head, rested]
      exact induction tail

end Blanks

/-- Of the blanks around a text it counts only whether any follow. -/
theorem rest_run_around {before after : List Char} (blankBefore : ∀ c ∈ before, isBlank c = true)
    (blankAfter : ∀ c ∈ after, isBlank c = true) (rested : state.rest = state) :
    rest (run state (before ++ (text ++ after))) = rest (run state text) := by
  rw [run_append, run_append, run_blanks blankBefore rested, rest_run_blanks blankAfter]

theorem rest_run_trim (rested : state.rest = state) (text : List Char) :
    rest (run state (trim text)) = rest (run state text) := by
  obtain ⟨before, after, blankBefore, blankAfter, split⟩ := trim_split text
  have around : rest (run state (before ++ (trim text ++ after))) = rest (run state (trim text)) :=
    rest_run_around blankBefore blankAfter rested
  rw [← split] at around
  exact around.symm

theorem run_lineFeed (state : Scan) (text : List Char) :
    run state (text ++ ['\n']) = rest (run state text) := by
  rw [run_append]
  exact step_blank rfl _

/-- Lines, each of them ended. -/
def ended (lines : List (List Char)) : List Char :=
  lines.flatMap (· ++ ['\n'])

theorem run_ended_cons (state : Scan) (line : List Char) (others : List (List Char)) :
    run state (ended (line :: others)) = run (rest (run state line)) (ended others) := by
  rw [ended, List.flatMap_cons, run_append, run_lineFeed]
  rfl

theorem rest_run_lines (state : Scan) (text : List Char) :
    rest (run state (ended (lines text))) = rest (run state text) := by
  fun_induction lines text generalizing state with
  | case1 => rfl
  | case2 others induction =>
      rw [run_ended_cons, induction]
      exact congrArg (fun start => rest (run start others)) (step_blank rfl state).symm
  | case3 others induction =>
      have pair : rest state = step (step state '\r') '\n' := by
        rw [step_blank rfl, step_blank rfl, rest_rest]
      rw [run_ended_cons, induction]
      exact congrArg (fun start => rest (run start others)) pair
  | case4 c others notEnd notPair none induction =>
      have nothing := induction (step state c)
      rw [none] at nothing
      rw [run_ended_cons]
      exact (rest_rest _).trans nothing
  | case5 c others notEnd notPair line more split induction =>
      have known := induction (step state c)
      rw [split] at known
      exact known

theorem run_layoutLine {indent : List Char} (blank : ∀ c ∈ indent, isBlank c = true) (first : Bool)
    (line : List Char) (rested : state.rest = state) :
    run state (layoutLine indent first line) = rest (run state line) := by
  have margin : ∀ c ∈ indent ++ (if !first && (trim line).head? == some '*' then [' '] else []),
      isBlank c = true := by
    refine List.forall_mem_append.mpr ⟨blank, ?_⟩
    split
    · exact List.forall_mem_singleton.mpr rfl
    · exact fun c listed => absurd listed List.not_mem_nil
  rw [← rest_run_trim rested, layoutLine, run_lineFeed, run_append, run_blanks margin rested]

theorem run_layoutLines {indent : List Char} (blank : ∀ c ∈ indent, isBlank c = true) (first : Bool)
    (lines : List (List Char)) (rested : state.rest = state) :
    run state (layoutLines indent first lines) = run state (ended lines) := by
  induction lines generalizing state first with
  | nil => rfl
  | cons line others induction =>
      rw [layoutLines, run_append, run_layoutLine blank first line rested,
        induction false (rest_rest _), run_ended_cons]

/-- A comment laid out leads to the same state as the comment, but for blanks at the end. -/
theorem rest_run_layout {indent : List Char} (blank : ∀ c ∈ indent, isBlank c = true)
    (comment : String) :
    rest (run outside (layout indent comment)) = rest (run outside comment.toList) := by
  rw [layout, run_layoutLines blank true _ rfl, rest_run_lines, rest_run_trim rfl]

/-! What the machine accepts. -/

theorem run_broken (text : List Char) : run broken text = broken := by
  induction text with
  | nil => rfl
  | cons c others induction => exact induction

theorem run_complete (text : List Char) :
    run complete text = complete ↔ ∀ c ∈ text, isBlank c = true := by
  induction text with
  | nil => exact iff_of_true rfl fun c listed => absurd listed List.not_mem_nil
  | cons c others induction =>
      rw [List.forall_mem_cons, ← induction, run, List.foldl_cons, step]
      split
      next blank => exact (and_iff_right blank).symm
      next solid =>
        have broke : run broken others ≠ complete := by
          rw [run_broken]
          exact nofun
        exact iff_of_false broke fun both => solid both.1

theorem step_closing {c : Char} (other : c ≠ '/') : step closing c = step inside c := by
  rw [step, step, if_neg other]

theorem run_inside (text : List Char) :
    run inside text = complete ↔
      ∃ length, blockCommentLength? text = some length ∧
        ∀ c ∈ text.drop length, isBlank c = true := by
  fun_induction blockCommentLength? text with
  | case1 => exact iff_of_false nofun (by rintro ⟨length, ends, -⟩; cases ends)
  | case2 others =>
      refine (run_complete others).trans ⟨fun blank => ⟨2, rfl, blank⟩, ?_⟩
      rintro ⟨_, ⟨⟩, blank⟩
      exact blank
  | case3 c others notEnd induction =>
      have goesOn : run inside (c :: others) = complete ↔ run inside others = complete := by
        by_cases star : c = '*'
        · cases others with
          | nil => subst star; exact iff_of_false nofun nofun
          | cons d more =>
              have open' : d ≠ '/' := by
                rintro rfl
                exact notEnd _ star rfl
              subst star
              exact Iff.of_eq (congrArg (fun start => run start more = complete) (step_closing open'))
        · have same : step inside c = inside := if_neg star
          exact Iff.of_eq (congrArg (fun start => run start others = complete) same)
      rw [goesOn, induction]
      constructor
      · rintro ⟨length, ends, blank⟩
        exact ⟨length + 1, by rw [ends]; rfl, blank⟩
      · rintro ⟨_, ends, blank⟩
        obtain ⟨length, found, rfl⟩ := Option.map_eq_some_iff.mp ends
        exact ⟨length, found, blank⟩

theorem step_ne_outside (left : state ≠ outside) (c : Char) : step state c ≠ outside := by
  cases state <;> grind [step]

theorem run_ne_outside (left : state ≠ outside) (text : List Char) : run state text ≠ outside := by
  induction text generalizing state with
  | nil => exact left
  | cons c others induction => exact induction (step_ne_outside left c)

theorem blockCommentLength_le {length : Nat} (ends : blockCommentLength? text = some length) :
    length ≤ text.length := by
  fun_induction blockCommentLength? text generalizing length with
  | case1 => cases ends
  | case2 others =>
      cases ends
      exact Nat.le_add_left 2 _
  | case3 c others notEnd induction =>
      obtain ⟨before, found, rfl⟩ := Option.map_eq_some_iff.mp ends
      exact Nat.succ_le_succ (induction found)

theorem length_of_blank_drop {length : Nat} (last : ∀ c ∈ text.getLast?, isBlank c = false)
    (blank : ∀ c ∈ text.drop length, isBlank c = true) : text.length ≤ length := by
  refine Nat.le_of_not_lt fun short => ?_
  have final : (text.drop length).getLast? = text.getLast? := by
    rw [List.getLast?_drop, if_neg (Nat.not_le.mpr short)]
  cases found : text.getLast? with
  | none =>
      rw [List.getLast?_eq_none_iff.mp found] at short
      exact absurd short (Nat.not_lt_zero length)
  | some c =>
      rw [found] at final
      have solid := last c found
      rw [blank c (List.mem_of_getLast? final)] at solid
      cases solid

/-- What may follow the mark that opens a comment, if the text ends with no blank. -/
theorem run_inside_accepts_iff (last : ∀ c ∈ text.getLast?, isBlank c = false) :
    (run inside text).Accepts ↔ blockCommentLength? text = some text.length := by
  rw [Accepts, or_iff_right (run_ne_outside (by decide) text), run_inside]
  constructor
  · rintro ⟨length, ends, blank⟩
    rw [ends, Nat.le_antisymm (blockCommentLength_le ends) (length_of_blank_drop last blank)]
  · intro ends
    refine ⟨text.length, ends, fun c listed => ?_⟩
    rw [List.drop_length] at listed
    exact absurd listed List.not_mem_nil

theorem not_accepts_broken (text : List Char) : ¬(run broken text).Accepts := by
  rw [run_broken]
  exact nofun

theorem run_opening_accepts_iff {c : Char} (last : ∀ d ∈ text.getLast?, isBlank d = false) :
    (run opening (c :: text)).Accepts ↔ c = '*' ∧ blockCommentLength? text = some text.length := by
  rw [run, List.foldl_cons, step]
  split
  next star => exact (run_inside_accepts_iff last).trans (and_iff_right star).symm
  next other => exact iff_of_false (not_accepts_broken text) fun both => other both.1

theorem run_outside_accepts_iff (trimmed : Trimmed text) :
    (run outside text).Accepts ↔ text = [] ∨ IsBlock text := by
  cases text with
  | nil => exact iff_of_true (.inl rfl) (.inl rfl)
  | cons c others =>
      have solid : ¬isBlank c = true := Bool.eq_false_iff.mp (trimmed.head c rfl)
      rw [or_iff_right (List.cons_ne_nil c others), run, List.foldl_cons, step, if_neg solid]
      split
      next slash =>
        subst slash
        cases others with
        | nil => exact iff_of_false nofun nofun
        | cons d comment =>
            have last : ∀ e ∈ comment.getLast?, isBlank e = false := by
              cases comment with
              | nil => exact nofun
              | cons e more => exact trimmed.last
            refine (run_opening_accepts_iff last).trans ⟨?_, ?_⟩
            · rintro ⟨rfl, ends⟩
              exact ⟨comment, rfl, ends⟩
            · rintro ⟨inside, same, ends⟩
              cases same
              exact ⟨rfl, ends⟩
      next other =>
        refine iff_of_false (not_accepts_broken others) ?_
        rintro ⟨inside, same, -⟩
        exact other (List.cons.inj same).1

theorem accepts_iff (text : List Char) : (run outside text).Accepts ↔ OnlyBlock text := by
  rw [← accepts_rest, ← rest_run_trim rfl, accepts_rest]
  exact run_outside_accepts_iff (trimmed_trim text)

end Scan

/-- Nothing, or one block comment on lines of its own, the first of them indented. -/
def StandsAlone (indent text : List Char) : Prop :=
  text = [] ∨ ∃ block, IsBlock block ∧ text = indent ++ (block ++ ['\n'])

section

variable {indent : List Char}

theorem getLast?_append_of_some {text more : List Char} {d : Char} (last : more.getLast? = some d) :
    (text ++ more).getLast? = some d := by
  rw [List.getLast?_append, last]
  rfl

theorem layoutLines_last (indent : List Char) {line : List Char} {others : List (List Char)} {d : Char}
    (solid : isBlank d = false)
    (last : ∀ final ∈ (line :: others).getLast?, final.getLast? = some d) (first : Bool) :
    ∃ core, layoutLines indent first (line :: others) = core ++ ['\n'] ∧
      core.getLast? = some d := by
  induction others generalizing line first with
  | nil =>
      refine ⟨_, List.append_nil _, ?_⟩
      exact getLast?_append_of_some (getLast?_trim solid (last line rfl))
  | cons next more induction =>
      obtain ⟨core, text, ends⟩ := induction last false
      refine ⟨layoutLine indent first line ++ core, ?_, getLast?_append_of_some ends⟩
      rw [layoutLines, text, List.append_assoc]

theorem layoutLines_head (line : List Char) (others : List (List Char)) :
    layoutLines indent true (line :: others) =
      indent ++ (trim line ++ '\n' :: layoutLines indent false others) := by
  simp [layoutLines, layoutLine]

/-- A layout is the indent, some text, and a line feed. -/
theorem layout_shape (indent : List Char) {comment : String} (filled : trim comment.toList ≠ []) :
    ∃ core, layout indent comment = indent ++ (core ++ ['\n']) ∧ Trimmed core ∧ core ≠ [] := by
  obtain ⟨head, last⟩ := trimmed_trim comment.toList
  rw [layout]
  generalize trim comment.toList = text at filled head last
  obtain ⟨c, rest, rfl⟩ := List.exists_cons_of_ne_nil filled
  obtain ⟨d, final⟩ : ∃ d, (c :: rest).getLast? = some d := ⟨_, List.getLast?_cons⟩
  have solidHead := head c rfl
  have solidLast := last d final
  obtain ⟨line, others, cut⟩ := lines_cons solidHead rest
  obtain ⟨lastLine, isLast, ends⟩ := lines_last solidLast final
  rw [cut] at isLast ⊢
  have starts : (trim (c :: line)).head? = some c := head?_trim solidHead rfl
  have trimmed {core : List Char} (coreHead : core.head? = some c)
      (coreLast : core.getLast? = some d) : Trimmed core ∧ core ≠ [] := by
    refine ⟨⟨?_, ?_⟩, ?_⟩
    · rw [coreHead]
      rintro _ ⟨⟩
      exact solidHead
    · rw [coreLast]
      rintro _ ⟨⟩
      exact solidLast
    · rintro rfl
      cases coreHead
  rw [layoutLines_head]
  cases others with
  | nil =>
      obtain rfl := Option.some.inj isLast
      exact ⟨trim (c :: line), rfl, trimmed starts (getLast?_trim solidLast ends)⟩
  | cons next more =>
      have lastMore : ∀ final ∈ (next :: more).getLast?, final.getLast? = some d := by
        rintro final known
        obtain rfl := Option.some.inj (known.symm.trans isLast)
        exact ends
      obtain ⟨core, text, coreLast⟩ := layoutLines_last indent solidLast lastMore false
      refine ⟨trim (c :: line) ++ '\n' :: core, ?_, trimmed ?_ ?_⟩
      · rw [text, List.append_assoc, List.cons_append]
      · rw [List.head?_append, starts]
        rfl
      · exact getLast?_append_of_some (by rw [List.getLast?_cons, coreLast, Option.getD_some])

open Scan in
/-- A comment is written as nothing or as one block comment exactly when it is given as that. -/
theorem layout_standsAlone_iff (blank : ∀ c ∈ indent, isBlank c = true) (comment : String) :
    StandsAlone indent (layout indent comment) ↔ OnlyBlock comment.toList := by
  have read : (run outside (layout indent comment)).Accepts ↔ OnlyBlock comment.toList := by
    rw [← accepts_rest, rest_run_layout blank, accepts_rest, accepts_iff]
  rw [← read]
  by_cases filled : trim comment.toList = []
  · rw [layout, filled]
    exact iff_of_true (.inl rfl) (.inl rfl)
  · obtain ⟨core, shape, trimmed, nonempty⟩ := layout_shape indent filled
    have feed : ∀ c ∈ ['\n'], isBlank c = true := List.forall_mem_singleton.mpr rfl
    have around : rest (run outside (indent ++ (core ++ ['\n']))) = rest (run outside core) :=
      rest_run_around blank feed rfl
    rw [shape, ← accepts_rest, around, accepts_rest, run_outside_accepts_iff trimmed,
      or_iff_right nonempty]
    constructor
    · rintro (empty | ⟨block, isBlock, same⟩)
      · exact absurd empty (by simp)
      · rw [List.append_cancel_left_eq, List.append_cancel_right_eq] at same
        rwa [same]
    · exact fun isBlock => .inr ⟨core, isBlock, rfl⟩

end

end DocComment

end TypeSchema
