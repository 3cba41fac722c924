import TypeSchema.Proofs.TypeScript.UniformStatements
import TypeSchema.Proofs.TypeScript.VersionRows

/-!
Comments do not matter where no type holds them. If white space takes the place of such comments,
and no other tokens start lines then, the same declarations are read, or the same error is found,
but for the comments in source texts that are quoted.
-/

namespace TypeSchema

namespace TypeScript

/-- A source with white space in the place of the comments that are chosen by their numbers. Line
ends in them stay. -/
def blankComments (chosen : Nat → Bool) (source : String) : String :=
  String.ofList ((blankedFrom chosen 0 (tokens source.toList)).flatMap (·.text))

/-- Whether the same tokens start lines when comments are blanked. -/
def KeepsLines (chosen : Nat → Bool) (source : String) : Prop :=
  (lexemes (tokens source.toList)).map Lexeme.startsLine =
    (lexemes (tokens (blankComments chosen source).toList)).map Lexeme.startsLine

instance (chosen : Nat → Bool) (source : String) : Decidable (KeepsLines chosen source) :=
  inferInstanceAs (Decidable (_ = _))

variable (chosen : Nat → Bool)

theorem toList_blankComments (source : String) : (blankComments chosen source).toList =
    (blankedFrom chosen 0 (tokens source.toList)).flatMap (·.text) :=
  String.toList_ofList

theorem countComments_tokens (number : Nat) (tokens : List Token) :
    (countComments number tokens).map Prod.fst = tokens := by
  induction tokens generalizing number with
  | nil => rfl
  | cons token tokens induction =>
      rw [countComments]
      split
      · rw [List.map_map]
        exact List.map_id _
      · split <;> rw [List.map_cons, induction]

/-- The groups of tokens in a source. -/
def groupsOf (source : String) : List Group :=
  groupsAfter [] (countComments 0 (tokens source.toList))

section

variable {source : String} (valid : ∀ token ∈ tokens source.toList, token.kind ≠ .invalid)

include valid

theorem lexemes_groups (version : Version) :
    lexemes ((countComments 0 (tokens source.toList)).map (version.token chosen)) =
      (groupsOf source).map (·.lexeme chosen version) :=
  lexemesAfter_groups chosen version [] _ (known_tokens source.toList valid)

theorem lexemes_written : lexemes (tokens source.toList) =
    (groupsOf source).map (·.lexeme chosen .written) := by
  rw [← lexemes_groups chosen valid]
  exact congrArg lexemes (countComments_tokens 0 _).symm

theorem outline_blanked :
    (groupsOf source).map (fun group => (group.lexeme chosen .blanked).outline) =
      (lexemes (tokens (blankComments chosen source).toList)).map Lexeme.outline := by
  have joined := (tokens_blanked chosen source.toList).lexemesAfter (.refl [])
  rw [← toList_blankComments] at joined
  refine Eq.trans ?_ joined
  have blanked := congrArg (List.map Lexeme.outline) (lexemes_groups chosen valid .blanked)
  rw [List.map_map] at blanked
  exact blanked.symm

variable {chosen}

/-- Comments that stand on one line each keep the lines. -/
theorem keepsLines_of_oneLine (oneLine : ∀ token number,
    (token, some number) ∈ countComments 0 (tokens source.toList) → chosen number = true →
      token.text.any isLineBreak = false) : KeepsLines chosen source := by
  have cells := known_tokens source.toList valid
  have listed : ∀ group ∈ groupsOf source, ∀ cell ∈ group.before,
      cell ∈ countComments 0 (tokens source.toList) :=
    groupsAfter_forall (List.forall_mem_nil _) fun _ listed => listed
  have starts := congrArg (List.map fun outline => outline.2.2.2.1) (outline_blanked chosen valid)
  rw [List.map_map, List.map_map] at starts
  refine Eq.trans ?_ starts
  rw [lexemes_written chosen valid, List.map_map]
  refine List.map_congr_left fun group own => (Group.startsLine_eq ?_).symm
  rintro ⟨token, number⟩ inside
  have source := listed group own _ inside
  refine (cells _ source).blanked_breaksLine chosen fun taken => ?_
  cases number with
  | none => cases taken
  | some number => exact oneLine token number source taken

end

variable {chosen}

end TypeScript

open TypeScript

end TypeSchema
