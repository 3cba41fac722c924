import TypeSchema.Proofs.TypeScript.Blanked
import TypeSchema.Proofs.TypeScript.Delimited

/-!
Texts with white space in the place of some comments. What a text starts with up to the first slash
or blank stays, and a slash that starts no regular expression on its line starts none afterwards.
-/

namespace TypeSchema.TypeScript

/-- Whether a line ends where a text begins. -/
def AtLineEnd (text : List Char) : Prop :=
  ∀ c ∈ text.head?, isLineEnd c = true

/-- Whether a text is on one line, which ends where another text begins. -/
structure LineBefore (body rest : List Char) : Prop where
  line : ∀ c ∈ body, isLineEnd c = false
  ends : AtLineEnd rest

theorem atLineEnd_nil : AtLineEnd [] :=
  fun c none => absurd none (Option.not_mem_none c)

theorem LineBefore.exists_append (text : List Char) :
    ∃ body rest, text = body ++ rest ∧ LineBefore body rest := by
  refine ⟨text.takeWhile (!isLineEnd ·), text.dropWhile (!isLineEnd ·), ?_, ?_, ?_⟩
  · rw [List.takeWhile_append_dropWhile]
  · intro c taken
    simpa using List.all_eq_true.mp List.all_takeWhile c taken
  · intro c starts
    have last := List.head?_dropWhile_not (!isLineEnd ·) text
    rw [starts] at last
    simpa using last

theorem LineBefore.takeWhile {body rest : List Char} (before : LineBefore body rest) :
    (body ++ rest).takeWhile (!isLineEnd ·) = body := by
  have stops : rest.takeWhile (!isLineEnd ·) = [] := by
    cases rest with
    | nil => rfl
    | cons c rest => exact List.takeWhile_cons_of_neg (by simp [before.ends c rfl])
  rw [List.takeWhile_append_of_pos (by simpa using before.line), stops, List.append_nil]

/-- Whether a text is a comment that ends where another text begins. -/
inductive CommentBefore : List Char → List Char → Prop
  | line {body rest : List Char} : LineBefore body rest → CommentBefore ('/' :: '/' :: body) rest
  | block {body rest : List Char} : blockCommentLength? body = some body.length →
      CommentBefore ('/' :: '*' :: body) rest

/-- Whether a text is another with white space in the place of some comments, of which none stands
after a backslash. -/
inductive Cleared : List Char → List Char → Prop
  | nil : Cleared [] []
  | kept {c : Char} {text cleared : List Char} : c ≠ '\\' → Cleared text cleared →
      Cleared (c :: text) (c :: cleared)
  | escaped (c : Char) {text cleared : List Char} : Cleared text cleared →
      Cleared ('\\' :: c :: text) ('\\' :: c :: cleared)
  | backslash : Cleared ['\\'] ['\\']
  | comment {comment text cleared : List Char} : CommentBefore comment text → Cleared text cleared →
      Cleared (comment ++ text) (comment.map blankChar ++ cleared)

theorem CommentBefore.head {comment rest : List Char} (isComment : CommentBefore comment rest) :
    ∃ body, comment = '/' :: body := by
  cases isComment <;> exact ⟨_, rfl⟩

namespace Cleared

variable {text cleared : List Char}

theorem solidPart_eq (both : Cleared text cleared) : solidPart cleared = solidPart text := by
  induction both with
  | nil => rfl
  | kept _ _ induction => rw [solidPart_cons, solidPart_cons, induction]
  | escaped c _ induction => simp only [solidPart_cons, induction]
  | backslash => rfl
  | comment isComment _ _ =>
      obtain ⟨body, rfl⟩ := isComment.head
      rfl

theorem atLineEnd (both : Cleared text cleared) (ends : AtLineEnd text) : AtLineEnd cleared := by
  cases both with
  | comment isComment _ =>
      obtain ⟨body, rfl⟩ := isComment.head
      exact absurd (ends '/' rfl) (by decide)
  | _ => exact ends

end Cleared

/-! Regular expressions: a slash that starts none on its line starts none when comments are
cleared. -/

/-- Whether no slash on a line closes a regular expression, read one character at a time; `escaped`
tells that a backslash stands before. -/
def staysOpen (escaped inClass : Bool) : List Char → Bool
  | [] => true
  | c :: rest =>
    if isLineEnd c then true
    else if escaped then staysOpen false inClass rest
    else if c = '\\' then staysOpen true inClass rest
    else if c = '/' ∧ !inClass then false
    else staysOpen false (if c = '[' then true else if c = ']' then false else inClass) rest

theorem regexLength_eq_none_iff (inClass : Bool) (text : List Char) :
    regexLength? inClass text = none ↔ staysOpen false inClass text = true := by
  fun_induction regexLength? inClass text with
  | case1 => simp [staysOpen]
  | case2 inClass c rest ends => simp [staysOpen, ends, show isLineEnd '\\' = false from rfl]
  | case3 inClass c rest ends induction =>
      simp [staysOpen, ends, show isLineEnd '\\' = false from rfl, induction]
  | case4 inClass c rest _ ends => simp [staysOpen, ends]
  | case5 inClass c rest _ ends closes =>
      obtain ⟨rfl, outside⟩ := closes
      simp [staysOpen, ends, outside]
  | case6 inClass c rest single ends closes induction =>
      by_cases backslash : c = '\\'
      · subst backslash
        cases rest with
        | nil => simp [regexLength?, staysOpen]
        | cons d more => exact absurd rfl (single d more rfl)
      · rw [staysOpen, if_neg ends, if_neg Bool.false_ne_true, if_neg backslash, if_neg closes,
          Option.map_eq_none_iff]
        exact induction

/-- Brackets that are open keep more slashes from closing. -/
theorem staysOpen_inClass (text : List Char) (escaped : Bool)
    (stays : staysOpen escaped false text = true) : staysOpen escaped true text = true := by
  induction text generalizing escaped with
  | nil => rfl
  | cons c text induction => grind [staysOpen]

theorem staysOpen_of_lineEnd {c : Char} (ends : isLineEnd c = true) (escaped inClass : Bool)
    (rest : List Char) : staysOpen escaped inClass (c :: rest) = true := by
  rw [staysOpen, if_pos ends]

/-- White space closes nothing, so it stays open what stays open after it. -/
theorem staysOpen_blanks (inClass : Bool) (comment : List Char) {rest : List Char}
    (stays : (∃ c ∈ comment, isLineEnd c = true) ∨ staysOpen false inClass rest = true) :
    staysOpen false inClass (comment.map blankChar ++ rest) = true := by
  induction comment with
  | nil => simpa using stays
  | cons c comment induction =>
      rw [List.map_cons, List.cons_append]
      by_cases ends : isLineEnd c = true
      · exact staysOpen_of_lineEnd (by rw [blankChar, if_pos ends]; exact ends) _ _ _
      · have blank : blankChar c = ' ' := if_neg ends
        have step : staysOpen false inClass (' ' :: (comment.map blankChar ++ rest)) =
            staysOpen false inClass (comment.map blankChar ++ rest) := by
          simp [staysOpen, isLineEnd]
        rw [blank, step]
        refine induction (stays.imp_left ?_)
        rintro ⟨d, listed, ends'⟩
        obtain rfl | listed := List.mem_cons.mp listed
        · exact absurd ends' ends
        · exact ⟨d, listed, ends'⟩

/-- After a slash nothing is escaped. -/
theorem staysOpen_after_slash (text rest : List Char) (escaped inClass : Bool)
    (stays : staysOpen escaped inClass (text ++ '/' :: rest) = true) :
    (∃ c ∈ text, isLineEnd c = true) ∨ ∃ inClass, staysOpen false inClass rest = true := by
  induction text generalizing escaped inClass with
  | nil =>
      right
      cases escaped with
      | true => exact ⟨inClass, by simpa [staysOpen, isLineEnd] using stays⟩
      | false => exact ⟨inClass, (by simpa [staysOpen, isLineEnd] using stays : _ ∧ _).2⟩
  | cons c text induction =>
      by_cases ends : isLineEnd c = true
      · exact .inl ⟨c, List.mem_cons_self, ends⟩
      · have next : ∃ escaped inClass, staysOpen escaped inClass (text ++ '/' :: rest) = true := by
          grind [staysOpen]
        obtain ⟨escaped, inClass, stays⟩ := next
        exact (induction escaped inClass stays).imp_left fun ⟨d, listed, ends⟩ =>
          ⟨d, List.mem_cons_of_mem c listed, ends⟩

theorem blockComment_ends {body : List Char}
    (length : blockCommentLength? body = some body.length) : ∃ start, body = start ++ ['/'] := by
  fun_induction blockCommentLength? body with
  | case1 => cases length
  | case2 rest =>
      cases rest with
      | nil => exact ⟨['*'], rfl⟩
      | cons c rest => simp at length
  | case3 c rest _ induction =>
      obtain ⟨start, rfl⟩ := induction (by simpa using length)
      exact ⟨c :: start, rfl⟩

theorem Cleared.staysOpen {text cleared : List Char} (both : Cleared text cleared) (inClass : Bool)
    (stays : TypeScript.staysOpen false inClass text = true) :
    TypeScript.staysOpen false inClass cleared = true := by
  induction both generalizing inClass with
  | nil => rfl
  | kept plain _ induction => grind [TypeScript.staysOpen]
  | escaped c _ induction => grind [TypeScript.staysOpen]
  | backslash => rfl
  | @comment comment text cleared isComment both induction =>
      obtain ⟨rest, starts⟩ := isComment.head
      have opened : inClass = true := by
        rw [starts] at stays
        exact (by simpa [TypeScript.staysOpen, isLineEnd] using stays : _ ∧ _).1
      subst opened
      refine staysOpen_blanks true comment ?_
      cases isComment with
      | line before =>
          right
          have ends := both.atLineEnd before.ends
          cases cleared with
          | nil => rfl
          | cons c cleared => exact staysOpen_of_lineEnd (ends c rfl) _ _ _
      | block length =>
          obtain ⟨start, rfl⟩ := blockComment_ends length
          have whole : '/' :: '*' :: (start ++ ['/']) ++ text =
              ('/' :: '*' :: start) ++ '/' :: text := by simp
          rw [whole] at stays
          obtain ⟨c, listed, ends⟩ | ⟨inClass, stays⟩ := staysOpen_after_slash _ text _ _ stays
          · refine .inl ⟨c, ?_, ends⟩
            have member := List.mem_append_left ['/'] listed
            simpa using member
          · right
            refine induction true ?_
            cases inClass with
            | true => exact stays
            | false => exact staysOpen_inClass text false stays

end TypeSchema.TypeScript
