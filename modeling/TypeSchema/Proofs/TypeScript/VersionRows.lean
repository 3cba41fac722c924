import TypeSchema.Proofs.TypeScript.BlankedTokens

/-!
The lexemes of a source in its versions: as it is written, with its comments numbered, and with some
comments blanked.
-/

namespace TypeSchema.TypeScript

theorem isEmpty_append {α : Type} (list more : List α) :
    (list ++ more).isEmpty = (list.isEmpty && more.isEmpty) := by
  cases list <;> rfl

/-! What a lexeme shows of the blanks and comments before it. -/

/-- A lexeme without the bounds of the blanks before it. -/
def Lexeme.outline (lexeme : Lexeme) : Token × List String × List Char × Bool × Bool :=
  (lexeme.token, lexeme.comments, lexeme.leadingText, lexeme.startsLine, lexeme.before.isEmpty)

/-- Whether the same shows of some blanks and comments and of others. -/
def SameOutline (before others : List Token) : Prop :=
  ∀ token, Lexeme.outline ⟨before, token⟩ = Lexeme.outline ⟨others, token⟩

theorem SameOutline.refl (before : List Token) : SameOutline before before :=
  fun _ => rfl

theorem SameOutline.append {before others : List Token} (same : SameOutline before others)
    (more : List Token) : SameOutline (before ++ more) (others ++ more) := by
  intro token
  have parts := same token
  simp only [Lexeme.outline, Lexeme.comments, Lexeme.leadingText, Lexeme.startsLine,
    Prod.mk.injEq, true_and] at parts ⊢
  obtain ⟨comments, leading, starts, empty⟩ := parts
  simp only [List.filter_append, List.map_append, List.flatMap_append, List.any_append,
    isEmpty_append, comments, leading, starts, empty, and_self]

theorem SameOutline.join (before : List Token) (text more : List Char) :
    SameOutline (before ++ [⟨.blank, text⟩] ++ [⟨.blank, more⟩])
      (before ++ [⟨.blank, text ++ more⟩]) := by
  intro token
  simp [Lexeme.outline, Lexeme.comments, Lexeme.leadingText, Lexeme.startsLine, isEmpty_append]

theorem lexemesAfter_outline {before others : List Token} (same : SameOutline before others)
    (tokens : List Token) : (lexemesAfter before tokens).map Lexeme.outline =
      (lexemesAfter others tokens).map Lexeme.outline := by
  induction tokens generalizing before others with
  | nil => rfl
  | cons token tokens induction =>
      rw [lexemesAfter, lexemesAfter]
      split
      · exact induction (same.append _)
      · rw [List.map_cons, List.map_cons, same token]

theorem Joined.lexemesAfter {tokens joined : List Token} (both : Joined tokens joined)
    {before others : List Token} (same : SameOutline before others) :
    (TypeScript.lexemesAfter before tokens).map Lexeme.outline =
      (TypeScript.lexemesAfter others joined).map Lexeme.outline := by
  induction both generalizing before others with
  | nil => rfl
  | kept token _ induction =>
      rw [TypeScript.lexemesAfter, TypeScript.lexemesAfter]
      split
      · exact induction (same.append _)
      · rw [List.map_cons, List.map_cons, same token, induction (.refl [])]
  | blanks text more _ induction =>
      exact (induction (same.append _)).trans (lexemesAfter_outline (.join others text more) _)

/-! Line breaks. -/

/-- Whether a line breaks in a token; it does not in a comment. -/
def Token.breaksLine (token : Token) : Bool :=
  token.kind == .blank && token.text.any isLineBreak

theorem startsLine_any (lexeme : Lexeme) :
    lexeme.startsLine = lexeme.before.any Token.breaksLine :=
  rfl

theorem isLineBreak_blankChar (c : Char) : isLineBreak (blankChar c) = isLineBreak c := by
  unfold blankChar
  split
  next => rfl
  next inside =>
    have same : isLineBreak c = true → isLineEnd c = true := by
      simp only [isLineBreak, isLineEnd, Bool.or_eq_true]
      rintro ((same | same) | same)
      · exact .inl (.inl (.inl same))
      · exact .inl (.inr same)
      · exact .inr same
    exact (Bool.eq_false_iff.mpr (inside ∘ same)).symm

/-! The tokens of a source with what they are in each version, token by token. -/

/-- What is known of a token of a source without faults, and of its number if it is a comment. -/
structure Known (token : Token) (number : Option Nat) : Prop where
  starts : token.text ≠ []
  solid : token.isTrivia = false → number = none ∧
    ∃ c rest, token.text = c :: rest ∧ c ≠ '\\' ∧ (c = '\x60' → rest ≠ [])
  comment : number ≠ none → token.kind = .comment ∧ IsComment token.text

theorem CommentBefore.isComment_text {text after : List Char} (comment : CommentBefore text after) :
    IsComment text := by
  obtain ⟨front, rfl⟩ := comment.head
  have alone : CommentBefore ('/' :: front) [] := by
    cases comment with
    | line before => exact .line ⟨before.line, atLineEnd_nil⟩
    | block length => exact .block length
  have taken := firstToken_of ⟨[], true⟩ (alone.lexeme ⟨[], true⟩)
  rw [List.append_nil] at taken
  have each : Tokenized ⟨[], true⟩ ('/' :: front) _ := .cons taken (.nil _)
  refine ⟨rfl, ?_⟩
  rw [tokens_none (by simp)]
  exact each.tokensFrom_eq (Nat.le_refl _)

theorem Tokenized.known {state : LexicalState} {text : List Char} {tokens : List Token}
    (each : Tokenized state text tokens) (valid : ∀ token ∈ tokens, token.kind ≠ .invalid)
    (number : Nat) : ∀ cell ∈ countComments number tokens, Known cell.1 cell.2 := by
  induction each generalizing number with
  | nil => exact List.forall_mem_nil _
  | @cons state c rest after token tokens taken _ induction =>
      obtain ⟨first, others⟩ := List.forall_mem_cons.mp valid
      obtain ⟨front, starts⟩ := firstToken_starts taken
      have solid : token.text ≠ [] := by
        rw [starts]
        exact List.cons_ne_nil c front
      have known := found_firstToken state c rest
      rw [taken] at known
      cases known with
      | invalid => exact absurd rfl first
      | blank =>
          rw [countComments_kept number first rfl]
          refine List.forall_mem_cons.mpr ⟨⟨solid, ?_, ?_⟩, induction others number⟩
          · exact fun same => absurd same (by simp [Token.isTrivia])
          · exact fun same => absurd rfl same
      | comment comment =>
          rw [countComments_comment number comment.isComment]
          refine List.forall_mem_cons.mpr ⟨⟨solid, ?_, ?_⟩, induction others (number + 1)⟩
          · exact fun same => absurd same (by simp [Token.isTrivia])
          · exact fun _ => ⟨rfl, comment.isComment_text⟩
      | solid token =>
          rw [countComments_kept number first token.isComment]
          exact List.forall_mem_cons.mpr ⟨⟨solid, fun _ => ⟨rfl, token.delimited⟩,
            fun same => absurd rfl same⟩, induction others number⟩

theorem known_tokens (source : List Char) (valid : ∀ token ∈ tokens source, token.kind ≠ .invalid) :
    ∀ cell ∈ countComments 0 (tokens source), Known cell.1 cell.2 := by
  obtain ⟨body, after, rfl, before⟩ | other := runLine_cases source
  · have later := List.suffix_append ('#' :: '!' :: body) after
    have each := tokenized_of_le later.length_le ⟨[], true⟩
    rw [tokens_runLine before] at valid ⊢
    obtain ⟨first, others⟩ := List.forall_mem_cons.mp valid
    rw [countComments_kept 0 first rfl]
    refine List.forall_mem_cons.mpr ⟨⟨List.cons_ne_nil _ _, ?_, ?_⟩, each.known others 0⟩
    · exact fun same => absurd same (by simp [Token.isTrivia])
    · exact fun same => absurd rfl same
  · rw [tokens_none other] at valid ⊢
    exact (tokenized_of_le (Nat.le_refl source.length) ⟨[], true⟩).known valid 0

/-- A token that says something, and the blanks and comments before it with their numbers. -/
structure Group where
  before : List (Token × Option Nat)
  token : Token

def groupsAfter (before : List (Token × Option Nat)) : List (Token × Option Nat) → List Group
  | [] => []
  | (token, number) :: cells =>
    if token.isTrivia then groupsAfter (before ++ [(token, number)]) cells
    else ⟨before, token⟩ :: groupsAfter [] cells

theorem groupsAfter_forall {holds : Token × Option Nat → Prop}
    {before cells : List (Token × Option Nat)} (start : ∀ cell ∈ before, holds cell)
    (each : ∀ cell ∈ cells, holds cell) :
    ∀ group ∈ groupsAfter before cells, ∀ cell ∈ group.before, holds cell := by
  induction cells generalizing before with
  | nil => exact List.forall_mem_nil _
  | cons cell cells induction =>
      obtain ⟨first, others⟩ := List.forall_mem_cons.mp each
      rw [groupsAfter]
      split
      next =>
        exact induction (List.forall_mem_append.mpr ⟨start, List.forall_mem_singleton.mpr first⟩)
          others
      next =>
        refine List.forall_mem_cons.mpr ⟨start, induction ?_ others⟩
        exact List.forall_mem_nil _

structure Group.Known (group : Group) : Prop where
  before : ∀ cell ∈ group.before, TypeScript.Known cell.1 cell.2
  delimited : ∃ c rest, group.token.text = c :: rest ∧ c ≠ '\\' ∧ (c = '\x60' → rest ≠ [])

variable (chosen : Nat → Bool)

/-- The lexeme of a version. -/
def Group.lexeme (group : Group) (version : Version) : Lexeme :=
  ⟨group.before.map (version.token chosen), group.token⟩

namespace Known

variable {token : Token} {number : Option Nat}

theorem isTrivia_token (known : Known token number) (version : Version) :
    (version.token chosen (token, number)).isTrivia = token.isTrivia := by
  cases number with
  | none => cases version <;> rfl
  | some number =>
      have trivia : token.isTrivia = true := by
        rw [Token.isTrivia, (known.comment (by simp)).1]
        rfl
      cases version with
      | written => rfl
      | numbered => exact trivia.symm
      | blanked =>
          rw [Version.token]
          split
          · exact trivia.symm
          · rfl

theorem token_solid (known : Known token number) (solid : token.isTrivia = false)
    (version : Version) : version.token chosen (token, number) = token := by
  obtain ⟨rfl, -⟩ := known.solid solid
  cases version <;> rfl

theorem text_ne_nil (known : Known token number) (version : Version) :
    (version.token chosen (token, number)).text ≠ [] := by
  cases number with
  | none => cases version <;> exact known.starts
  | some number =>
      cases version with
      | written => exact known.starts
      | numbered => exact List.cons_ne_nil _ _
      | blanked =>
          rw [Version.token]
          split
          · simpa using known.starts
          · exact known.starts

/-- A comment breaks no line, whether it is numbered or not. -/
theorem numbered_breaksLine (known : Known token number) :
    (Version.numbered.token chosen (token, number)).breaksLine = token.breaksLine := by
  cases number with
  | none => rfl
  | some number =>
      rw [Token.breaksLine, Token.breaksLine, (known.comment (by simp)).1]
      rfl

/-- What stands for a comment on one line breaks none. -/
theorem blanked_breaksLine (known : Known token number)
    (oneLine : number.any chosen = true → token.text.any isLineBreak = false) :
    (Version.blanked.token chosen (token, number)).breaksLine = token.breaksLine := by
  cases number with
  | none => rfl
  | some number =>
      by_cases taken : chosen number = true
      · have blanks : Version.blanked.token chosen (token, some number) =
            ⟨.blank, token.text.map blankChar⟩ := if_pos taken
        have plain := oneLine taken
        rw [blanks, Token.breaksLine, Token.breaksLine, (known.comment (by simp)).1, List.any_map]
        simp only [isLineBreak_blankChar, Function.comp_def]
        exact plain
      · exact congrArg Token.breaksLine (if_neg taken)

theorem blanked (known : Known token number) :
    Blanked token.text (Version.blanked.token chosen (token, number)).text := by
  cases number with
  | none => exact .refl _
  | some number =>
      rw [Version.token]
      split
      · have whole := Blanked.comment (known.comment (by simp)).2 .nil
        rwa [List.append_nil, List.append_nil] at whole
      · exact .refl _

end Known

theorem lexemesAfter_groups (version : Version) (before cells : List (Token × Option Nat))
    (known : ∀ cell ∈ cells, Known cell.1 cell.2) :
    lexemesAfter (before.map (version.token chosen)) (cells.map (version.token chosen)) =
      (groupsAfter before cells).map (·.lexeme chosen version) := by
  induction cells generalizing before with
  | nil => rfl
  | cons cell cells induction =>
      obtain ⟨token, number⟩ := cell
      obtain ⟨first, known⟩ := List.forall_mem_cons.mp known
      rw [List.map_cons, lexemesAfter, groupsAfter, first.isTrivia_token chosen]
      split
      next =>
        rw [← induction _ known, List.map_append]
        rfl
      next solid =>
        rw [List.map_cons, ← induction _ known,
          first.token_solid chosen (by simpa using solid)]
        rfl

/-- Whether the comment with a certain text, by which it is numbered, is not chosen. -/
abbrev Kept (text : String) : Prop :=
  chosen (text.length - 1) = false

namespace Group

variable {chosen} {group : Group}

theorem Known.leading_isEmpty (known : group.Known) (version : Version) :
    (group.lexeme chosen version).leadingText.isEmpty = group.before.isEmpty := by
  obtain ⟨before, token⟩ := group
  cases before with
  | nil => rfl
  | cons cell before =>
      obtain ⟨c, rest, text⟩ := List.exists_cons_of_ne_nil
        ((known.before cell List.mem_cons_self).text_ne_nil chosen version)
      rw [lexeme, Lexeme.leadingText, List.map_cons, List.flatMap_cons, text]
      rfl

/-- Line breaks stay if each of them does. -/
theorem startsLine_eq {version : Version}
    (each : ∀ cell ∈ group.before, (version.token chosen cell).breaksLine = cell.1.breaksLine) :
    (group.lexeme chosen version).startsLine = (group.lexeme chosen .written).startsLine := by
  obtain ⟨before, token⟩ := group
  rw [startsLine_any, startsLine_any, lexeme, lexeme]
  induction before with
  | nil => rfl
  | cons cell before induction =>
      obtain ⟨first, others⟩ := List.forall_mem_cons.mp each
      rw [List.map_cons, List.any_cons, List.map_cons, List.any_cons, first, induction others]
      rfl

theorem Known.leading_blanked (known : group.Known) :
    Blanked (group.lexeme chosen .written).leadingText
      (group.lexeme chosen .blanked).leadingText := by
  obtain ⟨before, token⟩ := group
  have each := known.before
  clear known
  induction before with
  | nil => exact .nil
  | cons cell before induction =>
      obtain ⟨first, others⟩ := List.forall_mem_cons.mp each
      exact (first.blanked chosen).append (induction others)

/-- Comments that are not chosen stay as they are written. -/
theorem comments_eq
    (kept : ∀ text ∈ (group.lexeme chosen .numbered).comments, Kept chosen text) :
    (group.lexeme chosen .blanked).comments = (group.lexeme chosen .written).comments := by
  have stays : ∀ cell ∈ group.before,
      Version.blanked.token chosen cell = Version.written.token chosen cell := by
    rintro ⟨token, number⟩ inside
    cases number with
    | none => rfl
    | some number =>
        have listed : String.ofList (List.replicate (number + 1) '*') ∈
            (group.lexeme chosen .numbered).comments :=
          List.mem_map.mpr ⟨_, List.mem_filter.mpr ⟨List.mem_map_of_mem inside, rfl⟩, rfl⟩
        have free := kept _ listed
        rw [Kept, String.length_ofList, List.length_replicate, Nat.add_sub_cancel] at free
        exact if_neg (by rw [free]; exact Bool.false_ne_true)
  rw [Lexeme.comments, Lexeme.comments, lexeme, lexeme, List.map_congr_left stays]

/-- The group as a token with several versions; in the blanked one, blanks may be joined. -/
def row (known : group.Known) (blanked : Lexeme)
    (same : (group.lexeme chosen .blanked).outline = blanked.outline)
    (starts : (group.lexeme chosen .written).startsLine = blanked.startsLine) :
    Row Version (Keeps (Kept chosen)) where
  shown := group.lexeme chosen .written
  lexeme
    | .written => group.lexeme chosen .written
    | .numbered => group.lexeme chosen .numbered
    | .blanked => blanked
  alike := by
    have empty (version : Version) :
        (group.lexeme chosen version).before.isEmpty = group.before.isEmpty := List.isEmpty_map
    have leading (version : Version) :
        (group.lexeme chosen version).leadingText.isEmpty = group.before.isEmpty :=
      known.leading_isEmpty version
    simp only [Lexeme.outline, Prod.mk.injEq] at same
    obtain ⟨token, -, text, -, before⟩ := same
    rintro (_ | _ | _)
    · exact ⟨rfl, rfl, rfl, rfl⟩
    · exact ⟨rfl, startsLine_eq fun cell inside =>
        (known.before cell inside).numbered_breaksLine chosen, (empty _).trans (empty _).symm,
        (leading _).trans (leading _).symm⟩
    · exact ⟨token.symm, starts.symm, before ▸ (empty _).trans (empty _).symm,
        text ▸ (leading _).trans (leading _).symm⟩
  related := by
    simp only [Lexeme.outline, Prod.mk.injEq] at same
    obtain ⟨-, comments, text, -, -⟩ := same
    exact ⟨fun kept => comments ▸ comments_eq kept, text ▸ known.leading_blanked⟩
  delimited := known.delimited

end Group

end TypeSchema.TypeScript
