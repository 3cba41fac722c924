import Mathlib.Data.List.Forall2
import TypeSchema.Proofs.Pattern.Matching
import TypeSchema.Proofs.Result

/-!
What can be read back from a pattern: the text of the template, and of each hole what sort of text it
stands for. No text in a template is taken for a part of the pattern, whatever it spells.
-/

namespace TypeSchema

/-- A hole of a template by its sort, and the text after it. -/
structure OutlinedHole where
  sort : HoleSort
  text : List Char
deriving DecidableEq

/-- A template without the way in which the types in its holes are written. -/
structure TemplateOutline where
  head : List Char
  holes : List OutlinedHole
deriving DecidableEq

namespace OutlinedHole

def source (hole : OutlinedHole) : List Char :=
  hole.sort.fragment ++ Pattern.escape hole.text

def regex (hole : OutlinedHole) : Regex :=
  hole.sort.piece :: hole.text.map .char

theorem read_source (holes : List OutlinedHole) {after : List Char} {regex : Regex}
    (read : Regex.read? after = some regex) :
    Regex.read? (holes.flatMap source ++ after) =
      some (holes.flatMap OutlinedHole.regex ++ regex) := by
  induction holes with
  | nil => exact read
  | cons hole holes induction =>
      have readText := Regex.read_escape induction hole.text
      simp only [List.flatMap_cons, List.append_assoc, source]
      exact hole.sort.read_fragment readText

end OutlinedHole

namespace TemplateOutline

def pattern (outline : TemplateOutline) : Pattern :=
  ⟨String.ofList ('^' :: Pattern.escape outline.head ++
    outline.holes.flatMap OutlinedHole.source ++ ['$'])⟩

def regex (outline : TemplateOutline) : Regex :=
  .start :: (outline.head.map .char ++ outline.holes.flatMap OutlinedHole.regex ++ [.finish])

theorem regex_pattern (outline : TemplateOutline) :
    outline.pattern.regex? = some outline.regex := by
  have read := OutlinedHole.read_source outline.holes
    (show Regex.read? ['$'] = some [.finish] from rfl)
  have readHead := Regex.read_escape read outline.head
  rw [Pattern.regex?, pattern, String.toList_ofList, regex, List.append_assoc, List.append_assoc]
  exact congrArg (Option.map _) readHead

end TemplateOutline

/-! Reading back. -/

namespace HoleSort

def ofPiece? (piece : RegexPiece) : Option HoleSort :=
  [word, number, boolean, anything].find? (·.piece = piece)

theorem ofPiece_piece (sort : HoleSort) : ofPiece? sort.piece = some sort := by
  cases sort <;> rfl

end HoleSort

/-- The text up to the first hole of a regular expression, and its holes. -/
def Regex.holes? : Regex → Option (List Char × List OutlinedHole)
  | [] => none
  | [.finish] => some ([], [])
  | .char c :: rest => do
    let (text, holes) ← Regex.holes? rest
    return (c :: text, holes)
  | piece :: rest => do
    let sort ← HoleSort.ofPiece? piece
    let (text, holes) ← Regex.holes? rest
    return ([], ⟨sort, text⟩ :: holes)

/-- The outline of the template that a pattern is made of. -/
def Pattern.outline? (pattern : Pattern) : Option TemplateOutline :=
  match pattern.regex? with
  | some (.start :: rest) => (Regex.holes? rest).map fun (head, holes) => ⟨head, holes⟩
  | _ => none

namespace Regex

variable {text : List Char} {holes : List OutlinedHole} {rest : Regex}

theorem holes_char (c : Char) (read : holes? rest = some (text, holes)) :
    holes? (.char c :: rest) = some (c :: text, holes) := by
  have step : holes? (.char c :: rest) = do
      let (text, holes) ← holes? rest
      return (c :: text, holes) := rfl
  rw [step, read]
  rfl

theorem holes_chars (first : List Char) (read : holes? rest = some (text, holes)) :
    holes? (first.map .char ++ rest) = some (first ++ text, holes) := by
  induction first with
  | nil => exact read
  | cons c first induction => exact holes_char c induction

theorem holes_piece (sort : HoleSort) (read : holes? rest = some (text, holes)) :
    holes? (sort.piece :: rest) = some ([], ⟨sort, text⟩ :: holes) := by
  have step : holes? (sort.piece :: rest) = do
      let sort ← HoleSort.ofPiece? sort.piece
      let (text, holes) ← holes? rest
      return ([], ⟨sort, text⟩ :: holes) := by
    cases sort <;> rfl
  rw [step, HoleSort.ofPiece_piece, read]
  rfl

theorem holes_regex (holes : List OutlinedHole) :
    holes? (holes.flatMap OutlinedHole.regex ++ [.finish]) = some ([], holes) := by
  induction holes with
  | nil => rfl
  | cons hole holes induction =>
      have readText := holes_chars hole.text induction
      rw [List.append_nil] at readText
      simp only [List.flatMap_cons, List.append_assoc]
      exact holes_piece hole.sort readText

end Regex

theorem TemplateOutline.outline_pattern (outline : TemplateOutline) :
    outline.pattern.outline? = some outline := by
  have read := Regex.holes_chars outline.head (Regex.holes_regex outline.holes)
  rw [List.append_nil] at read
  rw [Pattern.outline?, outline.regex_pattern, regex, List.append_assoc]
  exact congrArg (Option.map _) read

/-! Templates and their outlines. -/

def TypeNode.holeSort? (type : TypeNode) : Option HoleSort :=
  match type.unwrap with
  | .primitive .string => some .word
  | .primitive .number => some .number
  | .primitive .boolean => some .boolean
  | .primitive .any => some .anything
  | .primitive .unknown => some .anything
  | _ => none

theorem TypeNode.toOption_patternFragment (type : TypeNode) :
    type.patternFragment.toOption = type.holeSort?.map HoleSort.fragment := by
  unfold patternFragment holeSort?
  cases type.unwrap with
  | primitive keyword => cases keyword <;> rfl
  | _ => rfl

theorem TypeNode.patternFragment_eq_ok_iff {type : TypeNode} {fragment : List Char} :
    type.patternFragment = .ok fragment ↔
      ∃ sort, type.holeSort? = some sort ∧ sort.fragment = fragment := by
  have same := type.toOption_patternFragment
  rw [← Option.map_eq_some_iff, ← same]
  cases type.patternFragment with
  | ok other => exact Except.ok.injEq other fragment ▸ Option.some.injEq other fragment ▸ Iff.rfl
  | error error => exact iff_of_false nofun nofun

namespace TemplateLiteral

/-- What a hole of a template is by its outline. -/
structure SpanOutlined (span : TemplateSpan) (hole : OutlinedHole) : Prop where
  sort : span.type.holeSort? = some hole.sort
  text : span.literal.toList = hole.text

structure Outlined (template : TemplateLiteral) (outline : TemplateOutline) : Prop where
  head : template.head.toList = outline.head
  holes : List.Forall₂ SpanOutlined template.spans outline.holes

theorem spanSource_eq_ok_iff {spans : List TemplateSpan} {source : List Char} :
    spanSource spans = .ok source ↔
      ∃ holes, List.Forall₂ SpanOutlined spans holes ∧
        holes.flatMap OutlinedHole.source = source := by
  induction spans generalizing source with
  | nil =>
      constructor
      · intro made
        cases made
        exact ⟨[], .nil, rfl⟩
      · rintro ⟨holes, outlined, rfl⟩
        cases outlined
        rfl
  | cons span spans induction =>
      simp only [spanSource, Result.bind_eq_ok_iff, TypeNode.patternFragment_eq_ok_iff, induction]
      constructor
      · rintro ⟨_, ⟨sort, known, rfl⟩, _, ⟨holes, outlined, rfl⟩, made⟩
        cases made
        exact ⟨⟨sort, span.literal.toList⟩ :: holes, .cons ⟨known, rfl⟩ outlined, rfl⟩
      · rintro ⟨_, outlined, rfl⟩
        cases outlined with
        | cons first outlined =>
            refine ⟨_, ⟨_, first.sort, rfl⟩, _, ⟨_, outlined, rfl⟩, ?_⟩
            rw [first.text]
            rfl

theorem pattern_eq_ok_iff {template : TemplateLiteral} {pattern : Pattern} :
    template.pattern = .ok pattern ↔
      ∃ outline, template.Outlined outline ∧ outline.pattern = pattern := by
  rw [TemplateLiteral.pattern]
  simp only [Result.bind_eq_ok_iff, spanSource_eq_ok_iff]
  constructor
  · rintro ⟨_, ⟨holes, outlined, rfl⟩, made⟩
    cases made
    exact ⟨⟨template.head.toList, holes⟩, ⟨rfl, outlined⟩, rfl⟩
  · rintro ⟨outline, ⟨head, outlined⟩, rfl⟩
    refine ⟨_, ⟨_, outlined, rfl⟩, ?_⟩
    rw [head]
    rfl

/-- Two holes of one sort, with the same text after them. -/
structure SameHole (first second : TemplateSpan) : Prop where
  sort : ∃ sort, first.type.holeSort? = some sort ∧ second.type.holeSort? = some sort
  literal : first.literal = second.literal

theorem sameHole_iff {first second : TemplateSpan} {hole other : OutlinedHole}
    (outlined : SpanOutlined first hole) (otherOutlined : SpanOutlined second other) :
    SameHole first second ↔ hole = other := by
  constructor
  · rintro ⟨⟨sort, known, otherKnown⟩, literal⟩
    have sorts : hole.sort = other.sort := by
      have own := outlined.sort.symm.trans known
      have others := otherOutlined.sort.symm.trans otherKnown
      exact Option.some.inj (own.trans others.symm)
    have texts : hole.text = other.text := by
      rw [← outlined.text, ← otherOutlined.text, literal]
    cases hole
    cases other
    exact congrArg₂ OutlinedHole.mk sorts texts
  · rintro rfl
    have literals := outlined.text.trans otherOutlined.text.symm
    exact ⟨⟨hole.sort, outlined.sort, otherOutlined.sort⟩, String.toList_inj.mp literals⟩

theorem sameHoles_iff {first second : List TemplateSpan} {holes others : List OutlinedHole}
    (outlined : List.Forall₂ SpanOutlined first holes)
    (otherOutlined : List.Forall₂ SpanOutlined second others) :
    List.Forall₂ SameHole first second ↔ holes = others := by
  induction outlined generalizing second others with
  | nil =>
      cases otherOutlined with
      | nil => simp
      | cons => simp
  | cons head tail induction =>
      cases otherOutlined with
      | nil => simp
      | cons otherHead otherTail =>
          rw [List.forall₂_cons, sameHole_iff head otherHead, induction otherTail, List.cons.injEq]

/-- Two templates have the same pattern if they have the same head, and holes of the same sorts with
the same text after each, and only then; all this can be read back from the pattern. -/
theorem pattern_source_eq_iff {first second : TemplateLiteral} {pattern other : Pattern}
    (compiled : first.pattern = .ok pattern) (otherCompiled : second.pattern = .ok other) :
    (pattern.source = other.source ↔
      first.head = second.head ∧ List.Forall₂ SameHole first.spans second.spans) ∧
      ∃ outline, pattern.outline? = some outline ∧ first.Outlined outline := by
  obtain ⟨outline, outlined, rfl⟩ := pattern_eq_ok_iff.mp compiled
  obtain ⟨otherOutline, otherOutlined, rfl⟩ := pattern_eq_ok_iff.mp otherCompiled
  refine ⟨?_, outline, outline.outline_pattern, outlined⟩
  rw [sameHoles_iff outlined.holes otherOutlined.holes]
  constructor
  · intro same
    have patterns : outline.pattern = otherOutline.pattern := congrArg Pattern.mk same
    have outlines : some outline = some otherOutline := by
      rw [← outline.outline_pattern, patterns, otherOutline.outline_pattern]
    cases outlines
    exact ⟨String.toList_inj.mp (outlined.head.trans otherOutlined.head.symm), rfl⟩
  · rintro ⟨head, holes⟩
    have heads : outline.head = otherOutline.head := by
      rw [← outlined.head, ← otherOutlined.head, head]
    rw [TemplateOutline.pattern, TemplateOutline.pattern, heads, holes]

/-- Text that spells fragments of patterns, before and after a hole for any text. -/
theorem pattern_source_eq_iff_spelled :
    ∃ (first second : TemplateLiteral) (pattern : Pattern),
      first = ⟨"\\w+(?:true|false)", [⟨.primitive .any, "$^"⟩]⟩ ∧
      second = ⟨"\\w+(?:true|false)", [⟨.parenthesized (.primitive .unknown), "$^"⟩]⟩ ∧
      first.pattern = .ok pattern ∧ second.pattern = .ok pattern ∧
      List.Forall₂ SameHole first.spans second.spans ∧
      ∃ outline, pattern.outline? = some outline ∧ first.Outlined outline := by
  obtain ⟨⟨same, -⟩, readBack⟩ := pattern_source_eq_iff
    (show TemplateLiteral.pattern ⟨"\\w+(?:true|false)", [⟨.primitive .any, "$^"⟩]⟩ = .ok _ from rfl)
    (show TemplateLiteral.pattern
      ⟨"\\w+(?:true|false)", [⟨.parenthesized (.primitive .unknown), "$^"⟩]⟩ = .ok _ from rfl)
  exact ⟨_, _, _, rfl, rfl, rfl, rfl, (same rfl).2, readBack⟩

end TemplateLiteral

end TypeSchema
