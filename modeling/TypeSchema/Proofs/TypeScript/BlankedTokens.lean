import TypeSchema.Proofs.TypeScript.BlankedLowering
import TypeSchema.Proofs.TypeScript.FirstToken

/-!
The tokens of a source with white space in the place of some comments. They are those of the source,
but for white space, which is one token where it stands together.
-/

namespace TypeSchema.TypeScript

/-! Comments by their numbers, from the front of a source on. -/

/-- Whether a token is a comment; the line in front of a source that tells how to run it is none. -/
def Token.isComment (token : Token) : Bool :=
  token.kind == .comment && token.text.head? == some '/'

/-- Tokens with the numbers of the comments, which are counted up to the first text that starts no
token. -/
def countComments : Nat → List Token → List (Token × Option Nat)
  | _, [] => []
  | number, token :: tokens =>
    if token.kind = .invalid then (token :: tokens).map fun token => (token, none)
    else if token.isComment then (token, some number) :: countComments (number + 1) tokens
    else (token, none) :: countComments number tokens

theorem countComments_kept (number : Nat) {token : Token} (valid : token.kind ≠ .invalid)
    (other : token.isComment = false) (tokens : List Token) :
    countComments number (token :: tokens) = (token, none) :: countComments number tokens := by
  rw [countComments, if_neg valid, if_neg (by simp [other])]

theorem countComments_comment (number : Nat) {token : Token} (isComment : token.isComment = true)
    (tokens : List Token) : countComments number (token :: tokens) =
      (token, some number) :: countComments (number + 1) tokens := by
  have valid : token.kind ≠ .invalid := by
    intro invalid
    simp [Token.isComment, invalid] at isComment
  rw [countComments, if_neg valid, if_pos isComment]

/-- A comment that is numbered is as long as the comments up to it are many. -/
def numberedToken : Token × Option Nat → Token
  | (_, some number) => ⟨.comment, List.replicate (number + 1) '*'⟩
  | (token, none) => token

/-- What stands for a token in a version, in which some comments are chosen to be blanked. -/
def Version.token (chosen : Nat → Bool) : Version → Token × Option Nat → Token
  | .written, (token, _) => token
  | .numbered, cell => numberedToken cell
  | .blanked, (token, some number) =>
    if chosen number then ⟨.blank, token.text.map blankChar⟩ else token
  | .blanked, (token, none) => token

variable (chosen : Nat → Bool)

/-- Tokens with blanks in the place of the comments that are chosen. -/
def blankedFrom (number : Nat) (tokens : List Token) : List Token :=
  (countComments number tokens).map (Version.blanked.token chosen)

theorem blankedFrom_invalid (number : Nat) {token : Token} (invalid : token.kind = .invalid)
    (tokens : List Token) : blankedFrom chosen number (token :: tokens) = token :: tokens := by
  rw [blankedFrom, countComments, if_pos invalid, List.map_map]
  exact List.map_id _

theorem blankedFrom_kept (number : Nat) {token : Token} (valid : token.kind ≠ .invalid)
    (other : token.isComment = false) (tokens : List Token) :
    blankedFrom chosen number (token :: tokens) = token :: blankedFrom chosen number tokens := by
  rw [blankedFrom, countComments_kept number valid other]
  rfl

theorem blankedFrom_comment (number : Nat) {token : Token} (isComment : token.isComment = true)
    (tokens : List Token) : blankedFrom chosen number (token :: tokens) =
      (if chosen number then ⟨.blank, token.text.map blankChar⟩ else token) ::
        blankedFrom chosen (number + 1) tokens := by
  rw [blankedFrom, countComments_comment number isComment]
  rfl

/-! What the tokens of a text are, one after the other. -/

inductive Tokenized : LexicalState → List Char → List Token → Prop
  | nil (state : LexicalState) : Tokenized state [] []
  | cons {state : LexicalState} {c : Char} {rest after : List Char} {token : Token}
      {tokens : List Token} : firstToken state c rest = (token, after) →
        Tokenized (state.after token) after tokens → Tokenized state (c :: rest) (token :: tokens)

theorem firstToken_text (state : LexicalState) (c : Char) (rest : List Char) :
    (firstToken state c rest).1.text ++ (firstToken state c rest).2 = c :: rest := by
  unfold firstToken
  rw [List.cons_append, List.take_append_drop]

theorem firstToken_starts {state : LexicalState} {c : Char} {rest after : List Char} {token : Token}
    (taken : firstToken state c rest = (token, after)) : ∃ front, token.text = c :: front := by
  have first : token = (firstToken state c rest).1 := (congrArg Prod.fst taken).symm
  unfold firstToken at first
  exact ⟨_, congrArg Token.text first⟩

theorem length_firstToken (state : LexicalState) (c : Char) (rest : List Char) :
    (firstToken state c rest).2.length ≤ rest.length := by
  unfold firstToken
  rw [List.length_drop]
  exact Nat.sub_le _ _

theorem tokenized_of_le {fuel : Nat} {text : List Char} (enough : text.length ≤ fuel)
    (state : LexicalState) : Tokenized state text (tokensFrom fuel state text) := by
  induction fuel generalizing state text with
  | zero =>
      obtain rfl := List.length_eq_zero_iff.mp (Nat.le_zero.mp enough)
      exact .nil state
  | succ fuel induction =>
      cases text with
      | nil => exact .nil state
      | cons c rest =>
          rw [tokensFrom_step]
          refine .cons rfl (induction ?_ _)
          exact Nat.le_trans (length_firstToken state c rest) (Nat.le_of_succ_le_succ enough)

namespace Tokenized

variable {state : LexicalState} {text : List Char} {tokens : List Token}

theorem tokensFrom_eq (each : Tokenized state text tokens) {fuel : Nat}
    (enough : text.length ≤ fuel) : tokensFrom fuel state text = tokens := by
  induction each generalizing fuel with
  | nil state => cases fuel <;> rfl
  | @cons state c rest after token tokens taken _ induction =>
      obtain ⟨fuel, rfl⟩ : ∃ count, fuel = count + 1 :=
        Nat.exists_eq_add_of_le' (Nat.le_trans (by simp) enough)
      have shorter := length_firstToken state c rest
      rw [taken] at shorter
      rw [tokensFrom_step, taken, induction (Nat.le_trans shorter (Nat.le_of_succ_le_succ enough))]

theorem texts (each : Tokenized state text tokens) : tokens.flatMap (·.text) = text := by
  induction each with
  | nil => rfl
  | @cons state c rest after token tokens taken _ induction =>
      have whole := firstToken_text state c rest
      rw [taken] at whole
      rw [List.flatMap_cons, induction, whole]

end Tokenized

theorem after_trivia (state : LexicalState) {token : Token} (trivia : token.isTrivia = true) :
    state.after token = state :=
  if_pos trivia

theorem firstToken_space (state : LexicalState) {c : Char} (space : isSpace c = true)
    (rest : List Char) : firstToken state c rest =
      (⟨.blank, c :: rest.takeWhile isSpace⟩, rest.dropWhile isSpace) := by
  have whole := firstToken_text state c rest
  have found := firstToken_eq state (lexeme_space state space rest)
  rw [Nat.add_sub_cancel_left, take_countWhile] at found
  rw [found] at whole ⊢
  have parts : rest.takeWhile isSpace ++ rest.dropWhile isSpace = rest :=
    List.takeWhile_append_dropWhile
  rw [List.cons_append, List.cons.injEq] at whole
  exact congrArg (Prod.mk _) (List.append_cancel_left (whole.2.trans parts.symm))

/-- Whether tokens are others of which some blanks that follow each other are put together. -/
inductive Joined : List Token → List Token → Prop
  | nil : Joined [] []
  | kept (token : Token) {tokens joined : List Token} : Joined tokens joined →
      Joined (token :: tokens) (token :: joined)
  | blanks (text more : List Char) {tokens joined : List Token} :
      Joined tokens (⟨.blank, more⟩ :: joined) →
        Joined (⟨.blank, text⟩ :: tokens) (⟨.blank, text ++ more⟩ :: joined)

theorem Joined.refl : (tokens : List Token) → Joined tokens tokens
  | [] => .nil
  | token :: tokens => .kept token (.refl tokens)

/-- White space before a text is a token of its own, or one with the white space that follows. -/
theorem Tokenized.blanks {state : LexicalState} {rest : List Char} {tokens : List Token}
    (each : Tokenized state rest tokens) {text : List Char} (solid : text ≠ [])
    (spaces : ∀ c ∈ text, isSpace c = true) :
    ∃ joined, Tokenized state (text ++ rest) joined ∧
      ∀ others, Joined others tokens → Joined (⟨.blank, text⟩ :: others) joined := by
  obtain ⟨c, blanks, rfl⟩ := List.exists_cons_of_ne_nil solid
  obtain ⟨space, spaces⟩ := List.forall_mem_cons.mp spaces
  have taken := firstToken_space state space (blanks ++ rest)
  rw [List.takeWhile_append_of_pos spaces, List.dropWhile_append_of_pos spaces] at taken
  have apart (stops : rest.takeWhile isSpace = []) (stays : rest.dropWhile isSpace = rest) :
      ∃ joined, Tokenized state (c :: blanks ++ rest) joined ∧
        ∀ others, Joined others tokens → Joined (⟨.blank, c :: blanks⟩ :: others) joined := by
    rw [stops, stays, List.append_nil] at taken
    exact ⟨⟨.blank, c :: blanks⟩ :: tokens, .cons taken (by rwa [after_trivia state rfl]),
      fun others both => .kept _ both⟩
  cases each with
  | nil => exact apart rfl rfl
  | @cons _ d more after token tokens next each =>
      by_cases space : isSpace d = true
      · rw [firstToken_space state space, Prod.mk.injEq] at next
        obtain ⟨rfl, rfl⟩ := next
        rw [List.takeWhile_cons_of_pos space, List.dropWhile_cons_of_pos space] at taken
        rw [after_trivia state rfl] at each
        exact ⟨_, .cons taken (by rwa [after_trivia state rfl]),
          fun others both => .blanks _ _ both⟩
      · exact apart (List.takeWhile_cons_of_neg space) (List.dropWhile_cons_of_neg space)

/-! What a text is cleared to when its comments are blanked. -/

theorem Cleared.refl : (text : List Char) → Cleared text text
  | [] => .nil
  | [c] => by
    by_cases slash : c = '\\'
    · subst slash
      exact .backslash
    · exact .kept slash .nil
  | c :: d :: rest => by
    by_cases slash : c = '\\'
    · subst slash
      exact .escaped d (.refl rest)
    · exact .kept slash (.refl (d :: rest))

/-- What ends with no backslash, or only at the end of a line, stays before what is cleared. -/
theorem Cleared.keptAll {text cleared : List Char} (both : Cleared text cleared) :
    (front : List Char) →
      (front.getLast? = some '\\' → AtLineEnd text) →
        Cleared (front ++ text) (front ++ cleared)
  | [], _ => both
  | [c], closed => by
    by_cases slash : c = '\\'
    · subst slash
      have ends := closed rfl
      cases both with
      | nil => exact .backslash
      | kept _ rest => exact .escaped _ rest
      | escaped _ _ => exact absurd (ends _ rfl) (by decide)
      | backslash => exact absurd (ends _ rfl) (by decide)
      | comment isComment _ =>
          obtain ⟨body, rfl⟩ := isComment.head
          exact absurd (ends _ rfl) (by decide)
    · exact .kept slash both
  | c :: d :: rest, closed => by
    by_cases slash : c = '\\'
    · subst slash
      refine .escaped d (both.keptAll rest fun last => closed ?_)
      rw [List.getLast?_cons, List.getLast?_cons, last]
      rfl
    · refine .kept slash (both.keptAll (d :: rest) fun last => closed ?_)
      rw [List.getLast?_cons, last]
      rfl

theorem CommentBefore.isComment {text after : List Char} (comment : CommentBefore text after) :
    Token.isComment ⟨.comment, text⟩ = true := by
  obtain ⟨body, rfl⟩ := comment.head
  rfl

/-- A comment ends with no backslash, or at the end of a line. -/
theorem CommentBefore.closed {text after : List Char} (comment : CommentBefore text after)
    (last : text.getLast? = some '\\') : AtLineEnd after := by
  cases comment with
  | line before => exact before.ends
  | block length =>
      obtain ⟨start, rfl⟩ := blockComment_ends length
      have ends : ('/' :: '*' :: start ++ ['/']).getLast? = some '/' := List.getLast?_concat
      exact absurd (ends.symm.trans last) (by decide)

/-- A comment stays one when comments after it are cleared. -/
theorem CommentBefore.cleared {text after cleared : List Char} (comment : CommentBefore text after)
    (both : Cleared after cleared) : CommentBefore text cleared := by
  cases comment with
  | line before => exact .line ⟨before.line, both.atLineEnd before.ends⟩
  | block length => exact .block length

theorem Solid.isComment {state : LexicalState} {token : Token} {after : List Char}
    (solid : Solid state token after) : token.isComment = false := by
  have other := (Bool.or_eq_false_iff.mp solid.solid).2
  rw [Token.isComment, other, Bool.false_and]

theorem isSpace_blankChar (c : Char) : isSpace (blankChar c) = true := by
  unfold blankChar
  split
  next ends =>
    simp only [isLineEnd, Bool.or_eq_true, beq_iff_eq] at ends
    obtain ((rfl | rfl) | rfl) | rfl := ends <;> rfl
  next => rfl

theorem Tokenized.cleared {state : LexicalState} {text : List Char} {tokens : List Token}
    (each : Tokenized state text tokens) (number : Nat) :
    Cleared text ((blankedFrom chosen number tokens).flatMap (·.text)) := by
  induction each generalizing number with
  | nil => exact .nil
  | @cons state c rest after token tokens taken each induction =>
      have whole := firstToken_text state c rest
      have first := found_firstToken state c rest
      rw [taken] at whole first
      rw [← whole]
      cases first with
      | invalid text =>
          rw [blankedFrom_invalid chosen number rfl, List.flatMap_cons, each.texts]
          exact .refl _
      | @blank text after spaces =>
          rw [blankedFrom_kept chosen number (by simp) rfl, List.flatMap_cons]
          refine (induction number).keptAll text fun last => ?_
          exact absurd (spaces _ (List.mem_of_getLast? last)) (by decide)
      | comment comment =>
          rw [blankedFrom_comment chosen number comment.isComment, List.flatMap_cons]
          split
          · exact .comment comment (induction (number + 1))
          · exact (induction (number + 1)).keptAll _ comment.closed
      | solid solid =>
          rw [blankedFrom_kept chosen number solid.valid solid.isComment, List.flatMap_cons]
          refine (induction number).keptAll token.text fun last => ?_
          rw [solid.closed last]
          exact atLineEnd_nil

/-- The tokens of a text in which comments are blanked. -/
theorem Tokenized.blanked {state : LexicalState} {text : List Char} {tokens : List Token}
    (each : Tokenized state text tokens) (number : Nat) :
    ∃ joined, Tokenized state ((blankedFrom chosen number tokens).flatMap (·.text)) joined ∧
      Joined (blankedFrom chosen number tokens) joined := by
  induction each generalizing number with
  | nil state => exact ⟨[], .nil state, .nil⟩
  | @cons state c rest after token tokens taken each induction =>
      have whole := firstToken_text state c rest
      have first := found_firstToken state c rest
      obtain ⟨front, starts⟩ := firstToken_starts taken
      rw [taken] at whole first
      cases first with
      | invalid text =>
          rw [blankedFrom_invalid chosen number rfl, List.flatMap_cons, each.texts, whole]
          exact ⟨_, .cons taken each, .refl _⟩
      | @blank text after spaces =>
          rw [blankedFrom_kept chosen number (by simp) rfl, List.flatMap_cons]
          obtain ⟨joined, others, both⟩ := induction number
          rw [after_trivia state rfl] at others
          obtain rfl : text = c :: front := starts
          obtain ⟨joined, all, join⟩ := others.blanks (List.cons_ne_nil c front) spaces
          exact ⟨joined, all, join _ both⟩
      | @comment text after comment =>
          rw [blankedFrom_comment chosen number comment.isComment, List.flatMap_cons]
          obtain ⟨joined, others, both⟩ := induction (number + 1)
          obtain rfl : text = c :: front := starts
          split
          · rw [after_trivia state rfl] at others
            have spaces : ∀ d ∈ (c :: front).map blankChar, isSpace d = true :=
              List.forall_mem_map.mpr fun d _ => isSpace_blankChar d
            obtain ⟨joined, all, join⟩ := others.blanks (List.cons_ne_nil _ _) spaces
            exact ⟨joined, all, join _ both⟩
          · have again := comment.cleared (each.cleared chosen (number + 1))
            exact ⟨_, .cons (firstToken_of state (again.lexeme state)) others, .kept _ both⟩
      | solid solid =>
          rw [blankedFrom_kept chosen number solid.valid solid.isComment, List.flatMap_cons, starts]
          obtain ⟨joined, others, both⟩ := induction number
          have again := solid.again c front _ starts (each.cleared chosen number)
          exact ⟨_, .cons again others, .kept _ both⟩

/-! The line in front of a source that tells how to run it. -/

theorem runLine_eq (rest : List Char) :
    runLine ('#' :: '!' :: rest) = '#' :: '!' :: rest.takeWhile (!isLineEnd ·) :=
  rfl

theorem runLine_none {source : List Char} (other : ∀ rest, source ≠ '#' :: '!' :: rest) :
    runLine source = [] := by
  unfold runLine
  split
  · exact absurd rfl (other _)
  · rfl

theorem tokens_none {source : List Char} (other : ∀ rest, source ≠ '#' :: '!' :: rest) :
    tokens source = tokensFrom source.length ⟨[], true⟩ source := by
  rw [tokens, runLine_none other]
  rfl

theorem tokens_runLine {body after : List Char} (before : LineBefore body after) :
    tokens ('#' :: '!' :: body ++ after) = ⟨.comment, '#' :: '!' :: body⟩ ::
      tokensFrom ('#' :: '!' :: body ++ after).length ⟨[], true⟩ after := by
  have first : runLine ('#' :: '!' :: body ++ after) = '#' :: '!' :: body := by
    rw [List.cons_append, List.cons_append, runLine_eq, before.takeWhile]
  rw [tokens, first, List.drop_left]
  rfl

theorem Cleared.starts {text cleared rest : List Char} (both : Cleared text cleared)
    (starts : cleared = '#' :: '!' :: rest) : ∃ more, text = '#' :: '!' :: more := by
  have same := both.solidPart_eq
  rw [starts, solidPart_cons_of_solid rfl, solidPart_cons_of_solid rfl] at same
  obtain ⟨more, whole⟩ : solidPart text <+: text := List.takeWhile_prefix _
  rw [← whole, ← same]
  exact ⟨_, rfl⟩

/-- A source starts with a line that tells how to run it, or it does not. -/
theorem runLine_cases (source : List Char) :
    (∃ body after, source = '#' :: '!' :: body ++ after ∧ LineBefore body after) ∨
      ∀ rest, source ≠ '#' :: '!' :: rest := by
  by_cases run : ∃ rest, source = '#' :: '!' :: rest
  · obtain ⟨rest, rfl⟩ := run
    obtain ⟨body, after, rfl, before⟩ := LineBefore.exists_append rest
    exact .inl ⟨body, after, rfl, before⟩
  · exact .inr fun rest same => run ⟨rest, same⟩

/-- The tokens of a source in which comments are blanked. -/
theorem tokens_blanked (source : List Char) : Joined (blankedFrom chosen 0 (tokens source))
    (tokens ((blankedFrom chosen 0 (tokens source)).flatMap (·.text))) := by
  obtain ⟨body, after, rfl, before⟩ | other := runLine_cases source
  · have later := List.suffix_append ('#' :: '!' :: body) after
    have each := tokenized_of_le later.length_le ⟨[], true⟩
    obtain ⟨joined, others, both⟩ := each.blanked chosen 0
    have cleared := (each.cleared chosen 0).atLineEnd before.ends
    rw [tokens_runLine before, blankedFrom_kept chosen 0 (by simp) rfl, List.flatMap_cons,
      tokens_runLine ⟨before.line, cleared⟩,
      others.tokensFrom_eq (List.suffix_append _ _).length_le]
    exact .kept _ both
  · rw [tokens_none other]
    have each := tokenized_of_le (Nat.le_refl source.length) ⟨[], true⟩
    obtain ⟨joined, others, both⟩ := each.blanked chosen 0
    have plain : ∀ rest, (blankedFrom chosen 0 (tokensFrom source.length ⟨[], true⟩ source)).flatMap
        (·.text) ≠ '#' :: '!' :: rest := by
      intro rest same
      obtain ⟨more, starts⟩ := (each.cleared chosen 0).starts same
      exact other more starts
    rw [tokens_none plain, others.tokensFrom_eq (Nat.le_refl _)]
    exact both

end TypeSchema.TypeScript
