import TypeSchema.Proofs.TypeScript.Cleared
import TypeSchema.Proofs.TypeScript.PlainToken

/-!
The first token of a text. What it is depends on the text up to where the token ends, and on no
comments after it.
-/

namespace TypeSchema.TypeScript

/-- The first token of a text that starts with a character, and what follows the token. -/
def firstToken (state : LexicalState) (c : Char) (rest : List Char) : Token × List Char :=
  let found := lexeme state c rest
  (⟨found.1, c :: rest.take (found.2 - 1)⟩, rest.drop (found.2 - 1))

theorem tokensFrom_step (fuel : Nat) (state : LexicalState) (c : Char) (rest : List Char) :
    tokensFrom (fuel + 1) state (c :: rest) =
      (firstToken state c rest).1 ::
        tokensFrom fuel (state.after (firstToken state c rest).1) (firstToken state c rest).2 := by
  unfold firstToken
  rfl

variable (state : LexicalState)

theorem firstToken_eq {kind : TokenKind} {length : Nat} {c : Char} {rest : List Char}
    (taken : lexeme state c rest = (kind, length)) : firstToken state c rest =
      (⟨kind, c :: rest.take (length - 1)⟩, rest.drop (length - 1)) := by
  unfold firstToken
  rw [taken]

theorem firstToken_mark {c : Char} {rest : List Char} (taken : lexeme state c rest = (.mark, 1)) :
    firstToken state c rest = (⟨.mark, [c]⟩, rest) :=
  firstToken_eq state taken

theorem firstToken_of {kind : TokenKind} {c : Char} {front after : List Char}
    (taken : lexeme state c (front ++ after) = (kind, front.length + 1)) :
    firstToken state c (front ++ after) = (⟨kind, c :: front⟩, after) := by
  rw [firstToken_eq state taken]
  simp

theorem Cleared.eq_nil {cleared : List Char} (both : Cleared [] cleared) : cleared = [] := by
  generalize empty : ([] : List Char) = text at both
  cases both with
  | nil => rfl
  | comment isComment _ =>
      obtain ⟨body, rfl⟩ := isComment.head
      cases empty
  | _ => cases empty

/-- Neither a slash nor a star comes to the front when comments are cleared. -/
theorem Cleared.head_ne {text cleared : List Char} (both : Cleared text cleared) {c : Char}
    (blank : c ≠ ' ') (other : text.head? ≠ some c) : cleared.head? ≠ some c := by
  cases both with
  | comment isComment _ =>
      obtain ⟨body, rfl⟩ := isComment.head
      exact fun same => blank (Option.some.inj same).symm
  | _ => exact other

theorem solidPart_append_congr (front : List Char) {first second : List Char}
    (same : solidPart first = solidPart second) :
    solidPart (front ++ first) = solidPart (front ++ second) := by
  simp only [solidPart, List.takeWhile_append] at same ⊢
  rw [same]

/-- What is known of a token that is neither a blank nor a comment: no comment after it counts for
it, and it does not keep a comment after it from being one. -/
structure Solid (state : LexicalState) (token : Token) (after : List Char) : Prop where
  valid : token.kind ≠ .invalid
  solid : token.isTrivia = false
  delimited : ∃ c rest, token.text = c :: rest ∧ c ≠ '\\' ∧ (c = '\x60' → rest ≠ [])
  closed : token.text.getLast? = some '\\' → after = []
  again : ∀ c front cleared, token.text = c :: front → Cleared after cleared →
    firstToken state c (front ++ cleared) = (token, cleared)

/-- What the first token of a text is. -/
inductive Found (state : LexicalState) : Token × List Char → Prop
  | invalid (text after : List Char) : Found state (⟨.invalid, text⟩, after)
  | blank {text : List Char} (after : List Char) : (∀ c ∈ text, isSpace c = true) →
      Found state (⟨.blank, text⟩, after)
  | comment {text after : List Char} : CommentBefore text after →
      Found state (⟨.comment, text⟩, after)
  | solid {token : Token} {after : List Char} : Solid state token after → Found state (token, after)

/-- A token that ends with its own delimiter is solid. -/
theorem Solid.of_delimiter {kind : TokenKind} {c last : Char} {front after : List Char}
    (valid : kind ≠ .invalid) (solid : Token.isTrivia ⟨kind, []⟩ = false) (first : c ≠ '\\')
    (ends : front.getLast? = some last) (other : last ≠ '\\')
    (again : ∀ cleared, Cleared after cleared →
      lexeme state c (front ++ cleared) = (kind, front.length + 1)) :
    Solid state ⟨kind, c :: front⟩ after where
  valid := valid
  solid := solid
  delimited := by
    refine ⟨c, front, rfl, first, fun _ empty => ?_⟩
    rw [empty] at ends
    cases ends
  closed := by
    intro backslash
    rw [List.getLast?_cons, ends] at backslash
    exact absurd (Option.some.inj backslash) other
  again := by
    rintro d text cleared ⟨⟩ both
    exact firstToken_of state (again cleared both)

/-- A mark of one character is solid. -/
theorem Solid.mark {c : Char} {after : List Char} (slash : c ≠ '\\') (backtick : c ≠ '\x60')
    (again : ∀ cleared, Cleared after cleared → lexeme state c cleared = (.mark, 1)) :
    Solid state ⟨.mark, [c]⟩ after where
  valid := show TokenKind.mark ≠ .invalid by decide
  solid := rfl
  delimited := ⟨c, [], rfl, slash, fun same => absurd same backtick⟩
  closed := fun same => absurd (Option.some.inj same) slash
  again := by
    rintro d text cleared ⟨⟩ both
    exact firstToken_mark state (again cleared both)

/-- What is taken from the front is taken again when comments after it are cleared. -/
theorem Cleared.take_again {rest cleared : List Char} {count : Nat}
    (both : Cleared (rest.drop count) cleared) :
    (rest.take count ++ cleared).take count = rest.take count ∧
      (rest.take count ++ cleared).drop count = cleared := by
  obtain long | short := Nat.le_total count rest.length
  · have length : (rest.take count).length = count := List.length_take_of_le long
    exact ⟨List.take_left' length, List.drop_left' length⟩
  · rw [List.drop_of_length_le short] at both
    obtain rfl := both.eq_nil
    rw [List.append_nil, List.take_take, Nat.min_self, List.take_of_length_le short]
    exact ⟨rfl, List.drop_of_length_le short⟩

theorem Found.plain {c : Char} (space : isSpace c = false) (delimiter : c ∉ delimiters)
    (rest : List Char) : Found state (firstToken state c rest) := by
  have first : c ≠ '\x60' := by
    rintro rfl
    exact delimiter (by decide)
  cases taken : lexeme state c rest with
  | mk kind length =>
  by_cases valid : kind = .invalid
  · rw [firstToken_eq state taken, valid]
    exact .invalid _ _
  have slash : c ≠ '\\' := by
    rintro rfl
    exact valid ((congrArg Prod.fst taken).symm.trans (not_valid_backslash state rest))
  obtain ⟨solid, backslash⟩ := lexeme_takesPlain state space delimiter (by rwa [taken])
  rw [taken] at solid backslash
  rw [firstToken_eq state taken]
  refine .solid {
    valid := valid
    solid := solid
    delimited := ⟨c, _, rfl, slash, fun same => absurd same first⟩
    closed := fun last => ?_
    again := ?_ }
  · obtain same | inside := List.mem_cons.mp (List.mem_of_getLast? last)
    · exact absurd same.symm slash
    · exact absurd inside backslash
  · rintro d text cleared ⟨⟩ both
    have same : solidPart (rest.take (length - 1) ++ cleared) = solidPart rest := by
      rw [solidPart_append_congr _ both.solidPart_eq, List.take_append_drop]
    have retaken : lexeme state c (rest.take (length - 1) ++ cleared) = (kind, length) := by
      rw [← lexeme_solidPart state space delimiter, same, lexeme_solidPart state space delimiter,
        taken]
    rw [firstToken_eq state retaken, both.take_again.1, both.take_again.2]

theorem lexeme_lineComment (text : List Char) : lexeme state '/' ('/' :: text) =
    (.comment, 2 + countWhile (!isLineEnd ·) text) := by
  unfold lexeme
  rw [if_neg (by decide), if_neg (by decide), if_neg (by decide)]
  rfl

theorem lexeme_blockComment (text : List Char) : lexeme state '/' ('*' :: text) =
    match blockCommentLength? text with
    | some length => (.comment, length + 2)
    | none => (.invalid, text.length + 2) := by
  unfold lexeme
  rw [if_neg (by decide), if_neg (by decide), if_neg (by decide)]
  rfl

theorem lexeme_slash {rest : List Char} (line : rest.head? ≠ some '/')
    (block : rest.head? ≠ some '*') :
    lexeme state '/' rest =
      if state.regexAllowed then
        match regexLength? false rest with
        | some length => (.regex, length + 1)
        | none => (.mark, 1)
      else (.mark, 1) := by
  unfold lexeme
  rw [if_neg (by decide), if_neg (by decide), if_neg (by decide)]
  split
  next => exact absurd rfl line
  next => exact absurd rfl block
  next => rfl
  -- the other branches are those of other characters
  all_goals contradiction

theorem CommentBefore.lexeme {c : Char} {front after : List Char}
    (isComment : CommentBefore (c :: front) after) :
    TypeScript.lexeme state c (front ++ after) = (.comment, front.length + 1) := by
  cases isComment with
  | line before =>
      rw [List.cons_append, lexeme_lineComment, countWhile, before.takeWhile, Nat.add_comm]
      rfl
  | block length =>
      rw [List.cons_append, lexeme_blockComment, blockCommentLength_append length]
      rfl

theorem Found.slash (rest : List Char) : Found state (firstToken state '/' rest) := by
  by_cases line : rest.head? = some '/'
  · obtain ⟨text, rfl⟩ := List.head?_eq_some_iff.mp line
    obtain ⟨body, after, rfl, before⟩ := LineBefore.exists_append text
    have isComment : CommentBefore ('/' :: '/' :: body) after := .line before
    rw [← List.cons_append, firstToken_of state (isComment.lexeme state)]
    exact .comment isComment
  by_cases block : rest.head? = some '*'
  · obtain ⟨text, rfl⟩ := List.head?_eq_some_iff.mp block
    cases taken : blockCommentLength? text with
    | none =>
        have unended : lexeme state '/' ('*' :: text) = (.invalid, text.length + 2) := by
          rw [lexeme_blockComment, taken]
        rw [firstToken_eq state unended]
        exact .invalid _ _
    | some length =>
        obtain ⟨body, after, rfl, rfl, again⟩ := blockCommentLength_ends taken
        have isComment : CommentBefore ('/' :: '*' :: body) after := .block again
        rw [← List.cons_append, firstToken_of state (isComment.lexeme state)]
        exact .comment isComment
  by_cases regex : state.regexAllowed = true
  · cases taken : regexLength? false rest with
    | none =>
        rw [firstToken_mark state]
        · refine .solid (.mark state (by decide) (by decide) fun cleared both => ?_)
          have stays := both.staysOpen false ((regexLength_eq_none_iff false rest).mp taken)
          rw [lexeme_slash state (both.head_ne (by decide) line)
            (both.head_ne (by decide) block), if_pos regex,
            (regexLength_eq_none_iff false cleared).mpr stays]
        · rw [lexeme_slash state line block, if_pos regex, taken]
    | some length =>
        obtain ⟨start, flags, after, rfl, rfl, words, again⟩ := regexLength_ends taken
        obtain ⟨d, more, front⟩ : ∃ d more, start ++ '/' :: flags = d :: more :=
          List.exists_cons_of_ne_nil (by simp)
        obtain ⟨last, ends, other⟩ : ∃ last, (d :: more).getLast? = some last ∧ last ≠ '\\' := by
          obtain ⟨last, ends⟩ : ∃ last, ('/' :: flags).getLast? = some last :=
            ⟨_, List.getLast?_cons⟩
          refine ⟨last, by rw [← front, List.getLast?_append, ends, Option.some_or], ?_⟩
          rintro rfl
          obtain same | word := List.mem_cons.mp (List.mem_of_getLast? ends)
          · exact absurd same (by decide)
          · exact absurd (words _ word) (by decide)
        rw [front] at line block again ⊢
        have regexToken : ∀ cleared, solidPart cleared = solidPart after →
            lexeme state '/' (d :: more ++ cleared) = (.regex, (d :: more).length + 1) := by
          intro cleared same
          rw [lexeme_slash state (by exact line) (by exact block), if_pos regex, again cleared same]
        rw [firstToken_of state (regexToken after rfl)]
        exact .solid (.of_delimiter state (by decide) rfl (by decide) ends other
          fun cleared both => regexToken cleared both.solidPart_eq)
  · rw [firstToken_mark state]
    · refine .solid (.mark state (by decide) (by decide) fun cleared both => ?_)
      rw [lexeme_slash state (both.head_ne (by decide) line)
            (both.head_ne (by decide) block), if_neg regex]
    · rw [lexeme_slash state line block, if_neg regex]

theorem lexeme_string {quote : Char} (isQuote : quote = '"' ∨ quote = '\'') (rest : List Char) :
    lexeme state quote rest =
      match stringLength? quote 0 rest with
      | some length => (.string, length + 1)
      | none => (.invalid, 1) := by
  unfold lexeme
  obtain rfl | rfl := isQuote <;>
    rw [if_neg (by decide), if_neg (by decide), if_neg (by decide)] <;> rfl

theorem Found.quote {quote : Char} (isQuote : quote = '"' ∨ quote = '\'') (rest : List Char) :
    Found state (firstToken state quote rest) := by
  cases taken : stringLength? quote 0 rest with
  | none =>
      have unended : lexeme state quote rest = (.invalid, 1) := by
        rw [lexeme_string state isQuote, taken]
      rw [firstToken_eq state unended]
      exact .invalid _ _
  | some length =>
      obtain ⟨start, after, rfl, rfl, -, again⟩ := stringLength_ends taken
      have string : ∀ other, lexeme state quote ((start ++ [quote]) ++ other) =
          (.string, (start ++ [quote]).length + 1) := by
        intro other
        rw [lexeme_string state isQuote, List.append_assoc, List.singleton_append, again,
          List.length_append]
        rfl
      have whole : start ++ quote :: after = (start ++ [quote]) ++ after := by simp
      have other : quote ≠ '\\' := by rcases isQuote with rfl | rfl <;> decide
      rw [whole, firstToken_of state (string after)]
      exact .solid (.of_delimiter state (by decide) rfl other List.getLast?_concat other
        fun cleared _ => string cleared)

theorem lexeme_backtick (rest : List Char) :
    lexeme state '\x60' rest = templateToken .template .templateHead rest := by
  unfold lexeme
  rw [if_neg (by decide), if_neg (by decide), if_neg (by decide)]
  rfl

theorem lexeme_brace (rest : List Char) : lexeme state '}' rest =
    if state.holes.head? = some true then templateToken .templateTail .templateMiddle rest
    else (.mark, 1) := by
  unfold lexeme
  rw [if_neg (by decide), if_neg (by decide), if_neg (by decide)]
  rfl

theorem Found.template {c : Char} {closed opened : TokenKind}
    (first : c = '\x60' ∨ c = '}')
    (template : ∀ rest, lexeme state c rest = templateToken closed opened rest)
    (closes : closed ≠ .invalid ∧ Token.isTrivia ⟨closed, []⟩ = false)
    (opens : opened ≠ .invalid ∧ Token.isTrivia ⟨opened, []⟩ = false) (rest : List Char) :
    Found state (firstToken state c rest) := by
  have slash : c ≠ '\\' := by rcases first with rfl | rfl <;> decide
  obtain ⟨⟨length, ending⟩, taken⟩ : ∃ found, templateLength rest = found := ⟨_, rfl⟩
  obtain ⟨rfl, rfl⟩ | ⟨ended, start, last, after, rfl, rfl, lasts, again⟩ :=
    templateLength_ends taken
  · have shape : lexeme state c rest = if rest.getLast? = some '\x60' then
        (.openTemplate, rest.length + 1) else (.invalid, rest.length + 1) := by
      rw [template, templateToken, taken]
    by_cases backtick : rest.getLast? = some '\x60'
    · rw [if_pos backtick] at shape
      have whole : rest = rest ++ [] := (List.append_nil rest).symm
      have opens : lexeme state c (rest ++ []) = (.openTemplate, rest.length + 1) := by
        rw [← whole, shape]
      rw [whole, firstToken_of state opens]
      refine .solid (.of_delimiter state (by decide) rfl slash backtick (by decide)
        fun cleared both => ?_)
      rw [both.eq_nil, opens]
    · rw [if_neg backtick] at shape
      rw [firstToken_eq state shape]
      exact .invalid _ _
  · obtain ⟨d, ends, other⟩ : ∃ d, (start ++ last).getLast? = some d ∧ d ≠ '\\' := by
      rcases lasts with rfl | rfl
      · exact ⟨'\x60', by simp, by decide⟩
      · exact ⟨'\x7b', by simp, by decide⟩
    obtain ⟨kind, ⟨valid, solid⟩, steady⟩ : ∃ kind,
        (kind ≠ .invalid ∧ Token.isTrivia ⟨kind, []⟩ = false) ∧ ∀ more,
          lexeme state c (start ++ last ++ more) = (kind, (start ++ last).length + 1) := by
      cases ending with
      | backtick => exact ⟨closed, closes, fun more => by rw [template, templateToken, again]⟩
      | hole => exact ⟨opened, opens, fun more => by rw [template, templateToken, again]⟩
      | source => exact absurd rfl ended
    rw [firstToken_of state (steady after)]
    exact .solid (.of_delimiter state valid solid slash ends other fun cleared _ => steady cleared)

/-- Every text that starts with a character has a first token, of one of these sorts. -/
theorem found_firstToken (c : Char) (rest : List Char) : Found state (firstToken state c rest) := by
  by_cases space : isSpace c = true
  · rw [firstToken_eq state (lexeme_space state space rest), Nat.add_sub_cancel_left]
    exact .blank _ (List.forall_mem_cons.mpr ⟨space, forall_take_countWhile isSpace rest⟩)
  rw [Bool.not_eq_true] at space
  by_cases delimiter : c ∈ delimiters
  · simp only [delimiters, List.mem_cons, List.not_mem_nil, or_false] at delimiter
    obtain rfl | rfl | rfl | rfl | rfl := delimiter
    · exact .slash state rest
    · exact .quote state (.inl rfl) rest
    · exact .quote state (.inr rfl) rest
    · exact .template state (.inl rfl) (lexeme_backtick state) ⟨by decide, rfl⟩
        ⟨by decide, rfl⟩ rest
    · by_cases hole : state.holes.head? = some true
      · have template : ∀ rest, lexeme state '}' rest =
            templateToken .templateTail .templateMiddle rest :=
          fun rest => by rw [lexeme_brace, if_pos hole]
        exact .template state (.inr rfl) template ⟨by decide, rfl⟩ ⟨by decide, rfl⟩ rest
      · rw [firstToken_mark state]
        · refine .solid (.mark state (by decide) (by decide) fun cleared _ => ?_)
          rw [lexeme_brace, if_neg hole]
        · rw [lexeme_brace, if_neg hole]
  · exact .plain state space delimiter rest

end TypeSchema.TypeScript
