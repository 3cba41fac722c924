import Mathlib.Data.List.Basic
import TypeSchema.Pattern.Regex

/-!
The texts of template literal types. The pattern of a type is read back as a regular expression: the
start, one piece for each character of its text and for each hole, and the end. The main statement is
that it matches the texts of the type and no others.
-/

namespace TypeSchema

namespace RegexPiece

/-- The texts that a piece takes from the front of what is left. -/
def Takes : RegexPiece → List Char → Prop
  | .start, word => word = []
  | .finish, word => word = []
  | .char c, word => word = [c]
  | .oneOrMore charClass, word => word ≠ [] ∧ ∀ c ∈ word, charClass.holds c = true
  | .zeroOrMore charClass, word => ∀ c ∈ word, charClass.holds c = true
  | .either alternatives, word => word ∈ alternatives

def isAnchor : RegexPiece → Bool
  | .start => true
  | .finish => true
  | _ => false

end RegexPiece

namespace Regex

/-- The texts that pieces take one after the other. -/
inductive Takes : Regex → List Char → Prop
  | nil : Takes [] []
  | cons {piece : RegexPiece} {others : Regex} {word rest : List Char} (first : piece.Takes word)
      (more : Takes others rest) : Takes (piece :: others) (word ++ rest)

variable {piece : RegexPiece} {pieces others : Regex} {text rest : List Char} {whole : Nat}

theorem takes_nil : Takes [] text ↔ text = [] := by
  constructor
  · intro taken
    cases taken
    rfl
  · rintro rfl
    exact .nil

theorem takes_cons :
    Takes (piece :: others) text ↔
      ∃ word rest, text = word ++ rest ∧ piece.Takes word ∧ Takes others rest := by
  constructor
  · intro taken
    cases taken with
    | cons first more => exact ⟨_, _, rfl, first, more⟩
  · rintro ⟨word, rest, rfl, first, more⟩
    exact .cons first more

theorem takes_append :
    Takes (pieces ++ others) text ↔
      ∃ word rest, text = word ++ rest ∧ Takes pieces word ∧ Takes others rest := by
  induction pieces generalizing text with
  | nil => simp [takes_nil]
  | cons piece pieces induction =>
      simp only [List.cons_append, takes_cons, induction]
      constructor
      · rintro ⟨word, _, rfl, first, middle, rest, rfl, more, last⟩
        exact ⟨word ++ middle, rest, by simp, ⟨word, middle, rfl, first, more⟩, last⟩
      · rintro ⟨_, rest, rfl, ⟨word, middle, rfl, first, more⟩, last⟩
        exact ⟨word, middle ++ rest, by simp, first, middle, rest, rfl, more, last⟩

theorem takes_chars {word : List Char} : Takes (word.map .char) text ↔ text = word := by
  induction word generalizing text with
  | nil => exact takes_nil
  | cons c word induction =>
      simp only [List.map_cons, takes_cons, induction, RegexPiece.Takes]
      constructor
      · rintro ⟨_, _, rfl, rfl, rfl⟩
        rfl
      · rintro rfl
        exact ⟨[c], word, rfl, rfl, rfl⟩

/-! What the matcher finds. -/

theorem mem_restsOfMany {charClass : CharClass} :
    rest ∈ restsOfMany charClass text ↔
      ∃ run, text = run ++ rest ∧ ∀ c ∈ run, charClass.holds c = true := by
  induction text with
  | nil =>
      simp only [restsOfMany, List.mem_singleton]
      constructor
      · rintro rfl
        exact ⟨[], rfl, by simp⟩
      · rintro ⟨run, split, -⟩
        exact (List.append_eq_nil_iff.mp split.symm).2
  | cons c text induction =>
      have keeps_all : c :: text = [] ++ c :: text ∧
          ∀ d ∈ ([] : List Char), charClass.holds d = true := by simp
      unfold restsOfMany
      split
      next holds =>
        rw [List.mem_cons, induction]
        constructor
        · rintro (rfl | ⟨run, rfl, all⟩)
          · exact ⟨[], keeps_all⟩
          · exact ⟨c :: run, rfl, List.forall_mem_cons.mpr ⟨holds, all⟩⟩
        · rintro ⟨run, split, all⟩
          cases run with
          | nil => exact .inl split.symm
          | cons d run =>
              obtain ⟨rfl, rfl⟩ := List.cons.inj split
              exact .inr ⟨run, rfl, (List.forall_mem_cons.mp all).2⟩
      next fails =>
        rw [List.mem_singleton]
        constructor
        · rintro rfl
          exact ⟨[], keeps_all⟩
        · rintro ⟨run, split, all⟩
          cases run with
          | nil => exact split.symm
          | cons d run =>
              obtain ⟨rfl, rfl⟩ := List.cons.inj split
              exact absurd (all c List.mem_cons_self) fails

theorem mem_restsOfPiece (free : piece.isAnchor = false) {atStart : Bool} :
    rest ∈ restsOfPiece atStart piece text ↔ ∃ word, text = word ++ rest ∧ piece.Takes word := by
  cases piece with
  | start => cases free
  | finish => cases free
  | char c =>
      cases text with
      | nil => simp [restsOfPiece, RegexPiece.Takes]
      | cons d text =>
          simp only [restsOfPiece, RegexPiece.Takes]
          split
          next same =>
            subst same
            simp [eq_comm]
          next other =>
            simp only [List.not_mem_nil, false_iff]
            rintro ⟨_, split, rfl⟩
            exact other (List.cons.inj split).1.symm
  | oneOrMore charClass =>
      cases text with
      | nil => simp +contextual [restsOfPiece, RegexPiece.Takes]
      | cons c text =>
          simp only [restsOfPiece, RegexPiece.Takes]
          split
          next holds =>
            rw [mem_restsOfMany]
            constructor
            · rintro ⟨run, rfl, all⟩
              exact ⟨c :: run, rfl, by simp, List.forall_mem_cons.mpr ⟨holds, all⟩⟩
            · rintro ⟨_ | ⟨d, run⟩, split, nonempty, all⟩
              · exact absurd rfl nonempty
              · obtain ⟨rfl, rfl⟩ := List.cons.inj split
                exact ⟨run, rfl, (List.forall_mem_cons.mp all).2⟩
          next fails =>
            simp only [List.not_mem_nil, false_iff]
            rintro ⟨_ | ⟨d, run⟩, split, nonempty, all⟩
            · exact nonempty rfl
            · obtain ⟨rfl, rfl⟩ := List.cons.inj split
              exact fails (all c List.mem_cons_self)
  | zeroOrMore charClass => exact mem_restsOfMany
  | either alternatives =>
      simp only [restsOfPiece, List.mem_filterMap, List.isPrefixOf?_eq_some_iff_append_eq,
        RegexPiece.Takes]
      constructor
      · rintro ⟨word, listed, split⟩
        exact ⟨word, split.symm, listed⟩
      · rintro ⟨word, split, listed⟩
        exact ⟨word, listed, split.symm⟩

theorem matchesFrom_append (free : ∀ piece ∈ pieces, piece.isAnchor = false) :
    matchesFrom whole (pieces ++ others) text = true ↔
      ∃ word rest, text = word ++ rest ∧ Takes pieces word ∧
        matchesFrom whole others rest = true := by
  induction pieces generalizing text with
  | nil => simp [takes_nil]
  | cons piece pieces induction =>
      obtain ⟨head, tail⟩ := List.forall_mem_cons.mp free
      simp only [List.cons_append, matchesFrom, List.any_eq_true, mem_restsOfPiece head,
        induction tail, takes_cons]
      constructor
      · rintro ⟨_, ⟨word, rfl, first⟩, middle, rest, rfl, more, last⟩
        exact ⟨word ++ middle, rest, by simp, ⟨word, middle, rfl, first, more⟩, last⟩
      · rintro ⟨_, rest, rfl, ⟨word, middle, rfl, first, more⟩, last⟩
        exact ⟨middle ++ rest, ⟨word, by simp, first⟩, middle, rest, rfl, more, last⟩

theorem mem_endsOf : rest ∈ endsOf text ↔ rest <:+ text := by
  induction text with
  | nil => simp [endsOf]
  | cons c text induction => rw [endsOf, List.mem_cons, induction, List.suffix_cons_iff]

/-- Between anchors, pieces have to take the whole text. -/
theorem isMatch_anchored (free : ∀ piece ∈ pieces, piece.isAnchor = false) :
    isMatch (.start :: pieces ++ [.finish]) text = true ↔ Takes pieces text := by
  have from_start : ∀ rest, matchesFrom text.length (.start :: pieces ++ [.finish]) rest = true ↔
      rest.length = text.length ∧ Takes pieces rest := by
    intro rest
    by_cases same : rest.length = text.length
    · simp [matchesFrom, restsOfPiece, same, matchesFrom_append free]
    · simp [matchesFrom, restsOfPiece, same]
  simp only [isMatch, List.any_eq_true, mem_endsOf, from_start]
  constructor
  · rintro ⟨rest, suffix, same, taken⟩
    rwa [← suffix.eq_of_length same]
  · intro taken
    exact ⟨text, List.suffix_refl text, rfl, taken⟩

/-! What the reader makes of a pattern's source. -/

theorem read_meta {c : Char} (special : Pattern.isMeta c = true) (source : List Char) :
    read? ('\\' :: c :: source) = (read? source).map (.char c :: ·) := by
  unfold Pattern.isMeta at special
  simp only [List.mem_cons, List.not_mem_nil, or_false, decide_eq_true_eq] at special
  rcases special with rfl | rfl | rfl | rfl | rfl | rfl | rfl | rfl | rfl | rfl | rfl | rfl | rfl |
    rfl <;> rfl

theorem read_plain {c : Char} (plain : Pattern.isMeta c = false) (source : List Char) :
    read? (c :: source) = (read? source).map (.char c :: ·) := by
  rw [read?.eq_def]
  split
  case h_1 same => cases same
  case h_9 same =>
    obtain ⟨rfl, rfl⟩ := List.cons.inj same
    rw [if_neg (by rw [plain]; decide)]
  -- The other forms start with a character that has a meaning of its own.
  all_goals
    rename_i same
    obtain ⟨rfl, -⟩ := List.cons.inj same
    exact absurd plain (by decide)

theorem read_escape {source : List Char} {regex : Regex} (read : read? source = some regex)
    (text : List Char) : read? (Pattern.escape text ++ source) = some (text.map .char ++ regex) := by
  induction text with
  | nil => exact read
  | cons c text induction =>
      rw [Pattern.escape, List.flatMap_cons, List.append_assoc, ← Pattern.escape]
      cases special : Pattern.isMeta c with
      | true =>
          rw [if_pos rfl, List.cons_append, List.singleton_append, read_meta special, induction]
          rfl
      | false =>
          rw [if_neg (by decide), List.singleton_append, read_plain special, induction]
          rfl

end Regex

/-- What a hole of a template stands for. -/
inductive HoleSort where
  | word
  | number
  | boolean
  | anything
deriving DecidableEq

namespace HoleSort

def fragment : HoleSort → List Char
  | word => ['\\', 'w', '+']
  | number => ['\\', 'd', '+']
  | boolean => "(?:true|false)".toList
  | anything => "[\\s\\S]*".toList

def piece : HoleSort → RegexPiece
  | word => .oneOrMore .word
  | number => .oneOrMore .digit
  | boolean => .either ["true".toList, "false".toList]
  | anything => .zeroOrMore .any

theorem read_fragment (sort : HoleSort) {source : List Char} {regex : Regex}
    (read : Regex.read? source = some regex) :
    Regex.read? (sort.fragment ++ source) = some (sort.piece :: regex) := by
  cases sort with
  | word => exact congrArg (Option.map _) read
  | number => exact congrArg (Option.map _) read
  | boolean => exact congrArg (Option.map _) read
  | anything => exact congrArg (Option.map _) read

end HoleSort

namespace TypeNode

/-- Whether a type may stand in a hole of a template. -/
def IsHoleType (type : TypeNode) : Prop :=
  ∃ keyword ∈ [Primitive.string, .number, .boolean, .any, .unknown],
    type.unwrap = .primitive keyword

/-- The texts that a type stands for in a hole of a template. -/
def Spells (type : TypeNode) (word : List Char) : Prop :=
  match type.unwrap with
  | .primitive .string => word ≠ [] ∧ ∀ c ∈ word, Unicode.isWordChar c = true
  | .primitive .number => word ≠ [] ∧ ∀ c ∈ word, Unicode.isDecimalDigit c = true
  | .primitive .boolean => word = "true".toList ∨ word = "false".toList
  | .primitive .any => True
  | .primitive .unknown => True
  | _ => False

/-- The fragment of a hole is read as one piece, which takes what the hole stands for. -/
theorem fragment_read {type : TypeNode} (hole : type.IsHoleType) :
    ∃ fragment piece, type.patternFragment = .ok fragment ∧ piece.isAnchor = false ∧
      (∀ source regex, Regex.read? source = some regex →
        Regex.read? (fragment ++ source) = some (piece :: regex)) ∧
      ∀ word, piece.Takes word ↔ type.Spells word := by
  obtain ⟨keyword, listed, form⟩ := hole
  simp only [List.mem_cons, List.not_mem_nil, or_false] at listed
  simp only [patternFragment, Spells, form]
  rcases listed with rfl | rfl | rfl | rfl | rfl
  · exact ⟨_, HoleSort.word.piece, rfl, rfl, fun _ _ => HoleSort.word.read_fragment,
      fun word => Iff.rfl⟩
  · exact ⟨_, HoleSort.number.piece, rfl, rfl, fun _ _ => HoleSort.number.read_fragment,
      fun word => Iff.rfl⟩
  · refine ⟨_, HoleSort.boolean.piece, rfl, rfl, fun _ _ => HoleSort.boolean.read_fragment, ?_⟩
    intro word
    simp [HoleSort.piece, RegexPiece.Takes]
  all_goals
    refine ⟨_, HoleSort.anything.piece, rfl, rfl, fun _ _ => HoleSort.anything.read_fragment, ?_⟩
    intro word
    simp [HoleSort.piece, RegexPiece.Takes, CharClass.holds]

end TypeNode

namespace TemplateLiteral

/-- The texts that the holes of a template and the text after each stand for. -/
def SpansSpell : List TemplateSpan → List Char → Prop
  | [], text => text = []
  | span :: others, text =>
    ∃ word rest, text = word ++ span.literal.toList ++ rest ∧ span.type.Spells word ∧
      SpansSpell others rest

/-- The texts of a template literal type. -/
def Spells (template : TemplateLiteral) (text : List Char) : Prop :=
  ∃ rest, text = template.head.toList ++ rest ∧ SpansSpell template.spans rest

theorem spans_read {spans : List TemplateSpan}
    (holes : ∀ span ∈ spans, span.type.IsHoleType) {after : List Char} {regex : Regex}
    (readAfter : Regex.read? after = some regex) :
    ∃ source pieces, spanSource spans = .ok source ∧
      (∀ piece ∈ pieces, RegexPiece.isAnchor piece = false) ∧
      Regex.read? (source ++ after) = some (pieces ++ regex) ∧
      ∀ text, Regex.Takes pieces text ↔ SpansSpell spans text := by
  induction spans with
  | nil => exact ⟨[], [], rfl, by simp, readAfter, fun text => Regex.takes_nil⟩
  | cons span spans induction =>
      obtain ⟨head, tail⟩ := List.forall_mem_cons.mp holes
      obtain ⟨fragment, piece, made, free, read, takes⟩ := span.type.fragment_read head
      obtain ⟨source, pieces, madeRest, freeRest, readRest, takesRest⟩ := induction tail
      refine ⟨fragment ++ Pattern.escape span.literal.toList ++ source,
        piece :: (span.literal.toList.map .char ++ pieces), ?_, ?_, ?_, ?_⟩
      · simp only [spanSource, made, madeRest]
        rfl
      · simp only [List.mem_cons, List.mem_append, List.mem_map]
        rintro _ (rfl | ⟨c, -, rfl⟩ | listed)
        · exact free
        · rfl
        · exact freeRest _ listed
      · have readLiteral := Regex.read_escape readRest span.literal.toList
        simpa using read _ _ readLiteral
      · intro text
        simp only [SpansSpell, Regex.takes_cons, Regex.takes_append, Regex.takes_chars, takes,
          takesRest]
        constructor
        · rintro ⟨word, _, rfl, spelled, _, rest, rfl, rfl, more⟩
          exact ⟨word, rest, by simp, spelled, more⟩
        · rintro ⟨word, rest, rfl, spelled, more⟩
          exact ⟨word, span.literal.toList ++ rest, by simp, spelled, _, rest, rfl, rfl, more⟩

/-- A template literal type has a pattern that matches exactly the texts of the type. -/
theorem isMatch_pattern_iff {template : TemplateLiteral}
    (holes : ∀ span ∈ template.spans, span.type.IsHoleType) :
    ∃ pattern regex, template.pattern = .ok pattern ∧ pattern.regex? = some regex ∧
      ∀ text : String, regex.isMatch text.toList = true ↔ template.Spells text.toList := by
  obtain ⟨source, pieces, made, free, read, takes⟩ :=
    spans_read holes (show Regex.read? ['$'] = some [.finish] from rfl)
  have readHead := Regex.read_escape read template.head.toList
  refine ⟨⟨String.ofList ('^' :: Pattern.escape template.head.toList ++ source ++ ['$'])⟩,
    .start :: (template.head.toList.map .char ++ pieces) ++ [.finish], ?_, ?_, ?_⟩
  · simp only [pattern, made]
    rfl
  · rw [Pattern.regex?, String.toList_ofList]
    simp only [List.cons_append, List.append_assoc, Regex.read?, readHead]
    rfl
  · intro text
    rw [Regex.isMatch_anchored, Regex.takes_append]
    · simp only [Regex.takes_chars, takes, Spells]
      constructor
      · rintro ⟨_, rest, split, rfl, more⟩
        exact ⟨rest, split, more⟩
      · rintro ⟨rest, split, more⟩
        exact ⟨_, rest, split, rfl, more⟩
    · simp only [List.mem_append, List.mem_map]
      rintro _ (⟨c, -, rfl⟩ | listed)
      · rfl
      · exact free _ listed

theorem isMatch_pattern_escaped :
    let template : TemplateLiteral :=
      ⟨"^v1.(", [⟨.primitive .number, ")\\d+\n"⟩, ⟨.parenthesized (.primitive .boolean), "$"⟩,
        ⟨.primitive .any, "\\"⟩]⟩
    (∀ span ∈ template.spans, span.type.IsHoleType) ∧
      ∃ pattern regex, template.pattern = .ok pattern ∧ pattern.regex? = some regex ∧
        regex.isMatch "^v1.(42)\\d+\ntrue$\n\\\\".toList = true := by
  intro template
  have holes : ∀ span ∈ template.spans, span.type.IsHoleType := by
    simp only [template, List.forall_mem_cons]
    exact ⟨⟨.number, by simp, rfl⟩, ⟨.boolean, by simp, rfl⟩, ⟨.any, by simp, rfl⟩, by simp⟩
  obtain ⟨pattern, regex, made, read, accepts⟩ := isMatch_pattern_iff holes
  refine ⟨holes, pattern, regex, made, read, (accepts _).mpr ?_⟩
  refine ⟨_, ?_, "42".toList, _, rfl, ⟨by decide, List.all_eq_true.mp (by decide)⟩,
    "true".toList, _, rfl, .inl rfl, "\n\\".toList, [], rfl, trivial, rfl⟩
  decide

end TemplateLiteral

end TypeSchema
