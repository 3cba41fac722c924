import Mathlib.Data.List.Basic
import TypeSchema.Proofs.TypeScript.AlikeTrees

/-!
The grammar of types is uniform: what it reads from the versions of a source is alike.
-/

namespace TypeSchema.TypeScript

open Lexeme

namespace Template

theorem takeWhile_append_stop {p : Char → Bool} {c : Char} (stops : p c = false)
    (text rest : List Char) : (text ++ c :: rest).takeWhile p = text.takeWhile p := by
  induction text with
  | nil => simp [stops]
  | cons d text induction => simp [List.takeWhile_cons, induction]

/-- Whether a template is closed is seen at its last token, which no backslash begins. -/
theorem isClosed_append {c : Char} {rest : List Char} (plain : c ≠ '\\')
    (more : c = '\x60' → rest ≠ []) (first second : List Char) :
    isClosed ('\x60' :: (first ++ c :: rest)) = isClosed ('\x60' :: (second ++ c :: rest)) := by
  have stops : (c == '\\') = false := by simpa using plain
  rw [isClosed, isClosed, List.isSuffixOf?, List.isSuffixOf?]
  simp only [List.reverse_append, List.reverse_cons, List.append_assoc, List.singleton_append,
    List.reverse_nil, List.nil_append]
  cases ends : rest.reverse with
  | nil =>
      have other : ('\x60' == c) = false := by
        simpa using fun same => more same.symm (List.reverse_eq_nil_iff.mp ends)
      simp [List.isPrefixOf?, other]
  | cons last others =>
      simp only [List.cons_append, List.isPrefixOf?]
      by_cases tick : '\x60' == last
      · simp only [if_pos tick, Option.map_some, List.reverse_reverse,
          takeWhile_append_stop (p := (· == '\\')) stops]
      · simp only [if_neg tick, Option.map_none]

end Template

section

variable {Version : Type} {related : (Version → Lexeme) → Prop}

theorem constant_isClosed (rows : List (Row Version related)) :
    Constant fun version => Template.isClosed (sourceText (column rows version)).toList := by
  obtain _ | ⟨first, others⟩ := rows
  · exact ⟨_, rfl⟩
  obtain rfl | ⟨middle, last, rfl⟩ := List.eq_nil_or_concat others
  · exact ⟨Template.isClosed first.shown.token.text, funext fun version => by simp [sourceText]⟩
  rw [List.concat_eq_append]
  obtain ⟨c, rest, ends, plain, more⟩ := last.delimited
  obtain ⟨d, tail, starts, -, -⟩ := first.delimited
  have text : ∀ version, (sourceText (column (first :: (middle ++ [last])) version)).toList =
      d :: ((tail ++ (column middle version).flatMap Lexeme.text ++
        (last.lexeme version).leadingText) ++ c :: rest) := fun version => by
    simp [sourceText, column, Row.text, starts, ends]
  by_cases tick : d = '\x60'
  · refine ⟨Template.isClosed ('\x60' :: ([] ++ c :: rest)), funext fun version => ?_⟩
    rw [text, tick]
    exact Template.isClosed_append plain more _ _
  · refine ⟨false, funext fun version => ?_⟩
    rw [text, Template.isClosed]
    exact fun _ same => tick (List.cons.inj same).1

/-- Whether there is nothing between two brackets is seen in all versions. -/
theorem constant_brackets (first : Row Version related) (opens : first.shown.isMark "[" = true)
    (rows : List (Row Version related)) :
    Constant fun version => sourceText (column (first :: rows) version) == "[]" := by
  have bracket : first.shown.token.text = ['['] := eq_of_beq (Bool.and_eq_true_iff.mp opens).2
  have same : ∀ version, (sourceText (column (first :: rows) version) == "[]") =
      ((column rows version).flatMap Lexeme.text == [']']) := fun version => by
    refine Bool.eq_iff_iff.mpr ?_
    simp [sourceText, bracket, ← String.toList_inj]
  simp only [same]
  obtain _ | ⟨row, _ | ⟨next, others⟩⟩ := rows
  · exact ⟨false, rfl⟩
  · cases bare : row.shown.leadingText.isEmpty with
      | true =>
          refine ⟨row.shown.token.text == [']'], funext fun version => ?_⟩
          have empty := ((row.alike version).leading.trans bare)
          simp [Row.text, List.isEmpty_iff.mp empty]
      | false =>
          refine ⟨false, funext fun version => ?_⟩
          obtain ⟨c, rest, text, -⟩ := row.delimited
          have filled := ((row.alike version).leading.trans bare)
          cases leading : (row.lexeme version).leadingText with
          | nil => simp [leading] at filled
          | cons d more => simp [Row.text, leading, text]
  · refine ⟨false, funext fun version => ?_⟩
    obtain ⟨c, rest, text, -⟩ := row.delimited
    obtain ⟨d, more, nextText, -⟩ := next.delimited
    have long : (row.lexeme version).text ++ ((next.lexeme version).text ++
        (column others version).flatMap Lexeme.text) ≠ [']'] := fun same => by
      have lengths := congrArg List.length same
      simp [Row.text, text, nextText] at lengths
      omega
    simpa using long

/-! What the functions of the grammar on lexemes make of the versions. -/

namespace Grammar

theorem startsPropertyName_apparent : Apparent startsPropertyName :=
  ((Apparent.isName.or (.isKind .string)).or (.isKind .number)).or (.isMark "[")

theorem opensMethod_apparent : Apparent opensMethod :=
  (Apparent.isMark "<").or ((Apparent.isMark "(").and Apparent.startsLine.not)

theorem opensFunction_column (rows : List (Row Version related)) :
    ∃ opens, ∀ version, opensFunction (column rows version) = opens := by
  cases rows with
  | nil => exact ⟨false, fun _ => rfl⟩
  | cons row rows =>
      obtain ⟨rest?, leads⟩ := leads_afterGroup [] (row :: rows)
      simp only [column_cons] at leads
      simp only [column_cons, opensFunction, Row.isMark, leads]
      obtain _ | _ | ⟨next, rest⟩ := rest?
      · simp only [Option.map_none, Option.any_none]
        exact ⟨_, fun _ => rfl⟩
      · simp only [Option.map_some, column_nil, List.head?_nil, Option.any_some, Option.any_none]
        exact ⟨_, fun _ => rfl⟩
      · simp only [Option.map_some, column_cons, List.head?_cons, Option.any_some, Row.isMark]
        exact ⟨_, fun _ => rfl⟩

theorem opensConstruct_column (rows : List (Row Version related)) :
    ∃ opens, ∀ version, opensConstruct (column rows version) = opens := by
  obtain _ | ⟨first, _ | ⟨second, _ | ⟨third, rest⟩⟩⟩ := rows
  · exact ⟨_, fun _ => rfl⟩
  · exact ⟨_, fun _ => rfl⟩
  · exact ⟨_, fun _ => rfl⟩
  · simp only [column_cons, opensConstruct, Row.isWord, Row.apparent _ opensMethod_apparent]
    exact ⟨_, fun _ => rfl⟩

theorem leads_indexStart : Leads related indexStart? := by
  intro rows
  induction rows with
  | nil => exact ⟨none, fun _ => rfl⟩
  | cons bracket rows induction =>
      obtain _ | ⟨name, _ | ⟨third, rest⟩⟩ := rows
      · exact ⟨none, fun _ => rfl⟩
      · exact ⟨none, fun _ => rfl⟩
      · simp only [column_cons, indexStart?, Row.isMark, Row.isMarkOf, Row.isWord, Row.isName,
          Row.startsLine] at induction ⊢
        split
        · split
          · exact ⟨some (name :: third :: rest), fun _ => rfl⟩
          · exact ⟨none, fun _ => rfl⟩
        · split
          · exact induction
          · split
            · exact induction
            · exact ⟨none, fun _ => rfl⟩

theorem afterModifiers_column (modifiers : List String) (rows : List (Row Version related)) :
    ∃ rest : List (Row Version related), ∃ found, ∀ version,
      afterModifiers modifiers (column rows version) = (column rest version, found) := by
  induction rows with
  | nil => exact ⟨[], false, fun _ => rfl⟩
  | cons first rows induction =>
      cases rows with
      | nil => exact ⟨[first], false, fun _ => rfl⟩
      | cons second rest =>
          obtain ⟨after, found, same⟩ := induction
          simp only [column_cons] at same
          simp only [column_cons, afterModifiers, Row.isWordOf, Row.isMark, Row.startsLine,
            Row.apparent _ startsPropertyName_apparent, same]
          split
          · exact ⟨after, true, fun _ => rfl⟩
          · exact ⟨first :: second :: rest, false, fun _ => rfl⟩

theorem dottedName_column (start : List (Row Version related)) {trees : Version → TypeTree}
    (alike : TypeTree.Alike related trees) : (rows : List (Row Version related)) →
    ∃ names, TypeTree.Alike related names ∧ ∃ rest : List (Row Version related), ∀ version,
      dottedName (column start version) (trees version) (column rows version) =
        (names version, column rest version)
  | [] => ⟨trees, alike, [], fun _ => rfl⟩
  | [row] => ⟨trees, alike, [row], fun _ => rfl⟩
  | point :: name :: rest => by
      simp only [column_cons, dottedName, Row.isMark, Row.isName, length_column, take_column]
      split
      next dot =>
        have mark : point.shown.token.text = ['.'] :=
          eq_of_beq (Bool.and_eq_true_iff.mp (Bool.and_eq_true_iff.mp dot).1).2
        obtain ⟨front, rows, text⟩ :=
          quoted_sourceText (start.take (start.length - rest.length - 2))
        refine dottedName_column start (.qualifiedName ⟨front, rows ++ [point, name],
          fun version => ?_⟩) rest
        dsimp only at text
        simp [text, column_append, point.text, mark]
      next => exact ⟨trees, alike, point :: name :: rest, fun _ => rfl⟩

theorem textPieces_alike (text : List Char) :
    TemplatePiece.AllAlike related fun _ => textPieces text := by
  unfold textPieces
  split
  · exact .cons (.text _) .nil
  · exact .cons (.text _) (.cons (.escapes _) .nil)

theorem piecesBeforeHole_uniform (token : Token) :
    Uniform related (TemplatePiece.AllAlike related) fun _ => piecesBeforeHole token :=
  .ite (.pure (textPieces_alike _)) .failure

theorem piecesAtEnd_uniform (token : Token) :
    Uniform related (TemplatePiece.AllAlike related) fun _ => piecesAtEnd token :=
  .ite .failure (.pure (textPieces_alike _))

theorem strayHole_uniform :
    Uniform related (TemplatePiece.Alike related) fun _ => strayHole :=
  .looking fun start => (Uniform.skip (leads_afterHole [])).andThen fun _ =>
    (Uniform.textSince start).bind fun _ taken => .pure (.stray taken.quoted)

theorem acceptModifiers_uniform (modifiers : List String) :
    Uniform related Constant fun _ => acceptModifiers modifiers := by
  refine .looking fun rows => ?_
  obtain ⟨rest, found, same⟩ := afterModifiers_column modifiers rows
  simp only [same]
  exact (Uniform.set rest).andThen fun _ => .pure ⟨found, rfl⟩

theorem propertyName_uniform :
    Uniform related (PropertyName.Alike related) fun _ => propertyName := by
  unfold propertyName
  refine .looking fun start => ?_
  cases start with
  | nil => exact .failure
  | cons first rows =>
      simp only [column_cons, Row.isMark]
      by_cases opens : first.shown.isMark "["
      · simp only [if_pos opens, ← column_cons]
        refine Uniform.group.andThen fun _ => (Uniform.textSince (first :: rows)).bind
          fun texts taken => ?_
        have quoted := taken.quoted
        obtain ⟨count, rfl⟩ := taken
        obtain ⟨empty, same⟩ : Constant fun version =>
            sourceText (column ((first :: rows).take count) version) == "[]" := by
          cases count with
          | zero => exact ⟨false, rfl⟩
          | succ count => exact constant_brackets first opens (rows.take count)
        have same := fun version => congrFun same version
        simp only [same]
        exact .ite .failure (.pure (.computed quoted))
      · simp only [if_neg opens]
        refine Uniform.next.bind fun _ named => ?_
        obtain ⟨row, rfl⟩ := named
        simp only [Row.token]
        cases row.shown.token.kind
        case word => exact .pure (.plain _)
        case number => exact .pure (.plain _)
        case string => exact .pure (.quoted _)
        all_goals exact .failure

theorem mappedAnnotation_uniform : Uniform related Constant fun _ => mappedAnnotation := by
  unfold mappedAnnotation
  dsimp only
  have colon : Uniform related Constant fun _ => Reader.expect ":" := .expect ":"
  exact (Uniform.acceptIf (.isMarkOf ["+", "-"])).andThen fun _ => .ite
    ((Uniform.expect "?").andThen fun _ => colon) ((Uniform.accept "?").andThen fun _ => colon)

/-- The comments before a separator are those before a token, if there is a separator. -/
theorem bodySeparator_uniform : Uniform related
    (fun comments => ∀ items, BodyItem.AllAlike related items →
      BodyItem.AllAlike related fun version => (comments version).map .comment ++ items version)
    fun _ => bodySeparator := by
  unfold bodySeparator
  refine .looking fun rows => ?_
  cases rows with
  | nil => exact .failure
  | cons row rows =>
      simp only [column_cons, Row.isMark, Row.isMarkOf, row.apparent .endsLine]
      exact .ite ((Uniform.set rows).andThen fun _ => .pure fun _ items => .comments row items)
        (.ite (.pure fun _ items => items) .failure)

/-- What the readers of types give with some fuel, for all versions of a source. -/
structure TypeReaders (related : (Version → Lexeme) → Prop) (fuel : Nat) : Prop where
  typeTree : ∀ breakable, Uniform related (TypeTree.Alike related) fun _ =>
    Grammar.typeTree fuel breakable
  unionTree : ∀ breakable, Uniform related (TypeTree.Alike related) fun _ =>
    Grammar.unionTree fuel breakable
  unionOthers : ∀ breakable, Uniform related (TypeTree.AllAlike related) fun _ =>
    Grammar.unionOthers fuel breakable
  intersectionTree : ∀ breakable, Uniform related (TypeTree.Alike related) fun _ =>
    Grammar.intersectionTree fuel breakable
  intersectionOthers : ∀ breakable, Uniform related (TypeTree.AllAlike related) fun _ =>
    Grammar.intersectionOthers fuel breakable
  partTree : ∀ breakable, Uniform related (TypeTree.Alike related) fun _ =>
    Grammar.partTree fuel breakable
  queriedTree : ∀ breakable, Uniform related (TypeTree.Alike related) fun _ =>
    Grammar.queriedTree fuel breakable
  arrayTree : ∀ breakable (start : List (Row Version related)) {trees : Version → TypeTree},
    TypeTree.Alike related trees → Uniform related (TypeTree.Alike related) fun version =>
      Grammar.arrayTree fuel breakable (column start version) (trees version)
  singleTree : Uniform related (TypeTree.Alike related) fun _ => Grammar.singleTree fuel
  markedTree : ∀ (start : List (Row Version related)) (first : Row Version related),
    Uniform related (TypeTree.Alike related) fun version =>
      Grammar.markedTree fuel (column start version) (first.lexeme version)
  wordTree : ∀ (start : List (Row Version related)) (first : Row Version related) (text : String),
    Uniform related (TypeTree.Alike related) fun version =>
      Grammar.wordTree fuel (column start version) (first.lexeme version) text
  appliedTree : ∀ (start : List (Row Version related)) {trees : Version → TypeTree},
    TypeTree.Alike related trees → Uniform related (TypeTree.Alike related) fun version =>
      Grammar.appliedTree fuel (column start version) (trees version)
  queryPath : Uniform related Constant fun _ => Grammar.queryPath fuel
  typeArguments : Uniform related (TypeTree.AllAlike related) fun _ => Grammar.typeArguments fuel
  tupleElements : Uniform related (TypeTree.AllAlike related) fun _ => Grammar.tupleElements fuel
  tupleElement : Uniform related (TypeTree.Alike related) fun _ => Grammar.tupleElement fuel
  plainElement : ∀ isRest (start : List (Row Version related)),
    Uniform related (TypeTree.Alike related) fun version =>
      Grammar.plainElement fuel isRest (column start version)
  templatePieces : Uniform related (TemplatePiece.AllAlike related) fun _ =>
    Grammar.templatePieces fuel
  templateHole : Uniform related (TemplatePiece.Alike related) fun _ => Grammar.templateHole fuel
  objectBody : ∀ isFirst, Uniform related (BodyItem.AllAlike related) fun _ =>
    Grammar.objectBody fuel isFirst
  bodyItem : Uniform related (BodyItem.Alike related) fun _ => Grammar.bodyItem fuel
  indexItem : ∀ start : List (Row Version related),
    Uniform related (BodyItem.Alike related) fun version =>
      Grammar.indexItem fuel (column start version)
  namedItem : Uniform related (BodyItem.Alike related) fun _ => Grammar.namedItem fuel
  callSignature : Uniform related Constant fun _ => Grammar.callSignature fuel
  functionType : ∀ breakable, Uniform related Constant fun _ => Grammar.functionType fuel breakable
  resultType : ∀ breakable, Uniform related Constant fun _ => Grammar.resultType fuel breakable
  parameters : Uniform related Constant fun _ => Grammar.parameters fuel
  parameter : Uniform related Constant fun _ => Grammar.parameter fuel
  typeParameters : Uniform related Constant fun _ => Grammar.typeParameters fuel
  typeParameterList : Uniform related Constant fun _ => Grammar.typeParameterList fuel

namespace TypeReaders

open Uniform

theorem zero : TypeReaders related 0 := by
  constructor <;> intros <;> exact .failure

variable {fuel : Nat}

/-- Whether a lexeme is the word for a condition on a type, and belongs to the type before it. -/
theorem extends_apparent (breakable : Bool) : Apparent fun lexeme =>
    lexeme.isWord "extends" && !(breakable && lexeme.startsLine) :=
  (Apparent.isWord "extends").and ((Apparent.constant breakable).and Apparent.startsLine).not

/-- A form that is kept by its source text. -/
theorem otherSince (form : String) (start : List (Row Version related)) :
    Uniform related (TypeTree.Alike related) fun version =>
      (do return TypeTree.other form (← Reader.textSince (column start version))) :=
  (textSince start).bind fun _ taken => .pure (.other form taken.quoted)

theorem typeTree_succ (readers : TypeReaders related fuel) (breakable : Bool) :
    Uniform related (TypeTree.Alike related) fun _ => Grammar.typeTree (fuel + 1) breakable := by
  unfold Grammar.typeTree
  refine .looking fun start => (readers.unionTree breakable).bind fun _ alike =>
    (acceptIf (extends_apparent breakable)).andThen fun _ => .ite ?_ (.pure alike)
  exact (readers.unionTree false).bind fun _ _ => (expect "?").andThen fun _ =>
    (readers.typeTree false).bind fun _ _ => (expect ":").andThen fun _ =>
      (readers.typeTree breakable).bind fun _ _ => otherSince _ start

theorem AllAlike_isEmpty {others : Version → List TypeTree}
    (alike : TypeTree.AllAlike related others) :
    ∃ empty, ∀ version, (others version).isEmpty = empty := by
  cases alike with
  | nil => exact ⟨true, fun _ => rfl⟩
  | cons => exact ⟨false, fun _ => rfl⟩

theorem unionTree_succ (readers : TypeReaders related fuel) (breakable : Bool) :
    Uniform related (TypeTree.Alike related) fun _ => Grammar.unionTree (fuel + 1) breakable := by
  unfold Grammar.unionTree
  refine (readers.intersectionTree breakable).bind fun _ first =>
    (readers.unionOthers breakable).bind fun others alike => .pure ?_
  obtain ⟨empty, same⟩ := AllAlike_isEmpty alike
  simp only [same]
  split
  · exact first
  · exact .union first alike

theorem unionOthers_succ (readers : TypeReaders related fuel) (breakable : Bool) :
    Uniform related (TypeTree.AllAlike related) fun _ =>
      Grammar.unionOthers (fuel + 1) breakable := by
  unfold Grammar.unionOthers
  exact (accept "|").andThen fun _ => .ite
    ((readers.intersectionTree breakable).bind fun _ first =>
      (readers.unionOthers breakable).bind fun _ others => .pure (.cons first others))
    (.pure .nil)

theorem intersectionTree_succ (readers : TypeReaders related fuel) (breakable : Bool) :
    Uniform related (TypeTree.Alike related) fun _ =>
      Grammar.intersectionTree (fuel + 1) breakable := by
  unfold Grammar.intersectionTree
  refine (readers.partTree breakable).bind fun _ first =>
    (readers.intersectionOthers breakable).bind fun others alike => .pure ?_
  obtain ⟨empty, same⟩ := AllAlike_isEmpty alike
  simp only [same]
  split
  · exact first
  · exact .intersection first alike

theorem intersectionOthers_succ (readers : TypeReaders related fuel) (breakable : Bool) :
    Uniform related (TypeTree.AllAlike related) fun _ =>
      Grammar.intersectionOthers (fuel + 1) breakable := by
  unfold Grammar.intersectionOthers
  exact (accept "&").andThen fun _ => .ite
    ((readers.partTree breakable).bind fun _ first =>
      (readers.intersectionOthers breakable).bind fun _ others => .pure (.cons first others))
    (.pure .nil)

theorem partTree_succ (readers : TypeReaders related fuel) (breakable : Bool) :
    Uniform related (TypeTree.Alike related) fun _ => Grammar.partTree (fuel + 1) breakable := by
  unfold Grammar.partTree
  dsimp only
  refine .looking fun start => (accept "|").andThen fun _ => .ite
    ((readers.intersectionTree breakable).bind fun _ part => .pure (.union part .nil)) ?_
  refine (accept "&").andThen fun _ => .ite
    ((readers.partTree breakable).bind fun _ part => .pure (.intersection part .nil)) ?_
  refine (acceptWord "readonly").andThen fun _ => .ite (readers.partTree breakable) ?_
  refine (acceptWord "infer").andThen fun _ => .ite ?_ ?_
  · exact name.andThen fun _ => (acceptIf (extends_apparent breakable)).andThen fun _ => .ite
      ((readers.unionTree breakable).bind fun _ _ => otherSince _ start) (otherSince _ start)
  · obtain ⟨constructs, same⟩ := opensConstruct_column start
    obtain ⟨isFunction, sameFunction⟩ := opensFunction_column start
    simp only [same, sameFunction]
    refine .ite ?_ (.ite ?_ (readers.queriedTree breakable))
    · exact (acceptWord "abstract").andThen fun _ => (expectWord "new").andThen fun _ =>
        (readers.functionType breakable).andThen fun _ => otherSince _ start
    · exact (readers.functionType breakable).andThen fun _ => otherSince _ start

theorem queriedTree_succ (readers : TypeReaders related fuel) (breakable : Bool) :
    Uniform related (TypeTree.Alike related) fun _ =>
      Grammar.queriedTree (fuel + 1) breakable := by
  unfold Grammar.queriedTree
  exact .looking fun start => (acceptWord "keyof").andThen fun _ => .ite
    ((readers.queriedTree breakable).bind fun _ _ => otherSince _ start)
    (readers.singleTree.bind fun _ single => readers.arrayTree breakable start single)

theorem arrayTree_succ (readers : TypeReaders related fuel) (breakable : Bool)
    (start : List (Row Version related)) {trees : Version → TypeTree}
    (alike : TypeTree.Alike related trees) :
    Uniform related (TypeTree.Alike related) fun version =>
      Grammar.arrayTree (fuel + 1) breakable (column start version) (trees version) := by
  unfold Grammar.arrayTree
  have opens : Apparent fun lexeme => lexeme.isMark "[" && !(breakable && lexeme.startsLine) :=
    (Apparent.isMark "[").and ((Apparent.constant breakable).and Apparent.startsLine).not
  refine (acceptIf opens).andThen fun _ => .ite ?_ (.pure alike)
  refine (accept "]").andThen fun _ => .ite (readers.arrayTree breakable start (.array alike)) ?_
  exact (readers.typeTree false).bind fun _ _ => (expect "]").andThen fun _ =>
    (textSince start).bind fun _ taken =>
      readers.arrayTree breakable start (.other _ taken.quoted)

theorem singleTree_succ (readers : TypeReaders related fuel) :
    Uniform related (TypeTree.Alike related) fun _ => Grammar.singleTree (fuel + 1) := by
  unfold Grammar.singleTree
  refine .looking fun start => next.bind fun _ same => ?_
  obtain ⟨first, rfl⟩ := same
  simp only [Row.token]
  have text : Quoted related fun _ : Version => String.ofList first.shown.token.text :=
    quoted_constant _
  cases first.shown.token.kind
  case string => exact .pure (.string _)
  case number => exact .pure (.number text)
  case template =>
    exact (piecesAtEnd_uniform _).bind fun _ pieces => .pure (.template text ⟨_, rfl⟩ pieces)
  case openTemplate => exact .pure (.template text ⟨_, rfl⟩ .nil)
  case templateHead =>
    refine (piecesBeforeHole_uniform _).bind fun _ pieces =>
      readers.templatePieces.bind fun _ others => (textSince start).bind fun _ taken => .pure ?_
    have quoted := taken.quoted
    obtain ⟨count, rfl⟩ := taken
    exact .template quoted (constant_isClosed _) (pieces.append others)
  case mark => exact readers.markedTree start first
  case word => exact readers.wordTree start first _
  all_goals exact .failure

theorem markedTree_succ (readers : TypeReaders related fuel) (start : List (Row Version related))
    (first : Row Version related) : Uniform related (TypeTree.Alike related) fun version =>
      Grammar.markedTree (fuel + 1) (column start version) (first.lexeme version) := by
  unfold Grammar.markedTree
  simp only [Row.isMark, Row.isMarkOf]
  refine .ite ?_ (.ite ?_ (.ite ?_ (.ite ?_ (.ite ?_ (.ite ?_ .failure)))))
  · exact (readers.typeTree false).bind fun _ inner => (expect ")").andThen fun _ =>
      .pure (.parenthesized inner)
  · exact (accept ",").andThen fun _ => .ite ((expect "]").andThen fun _ => .pure (.tuple .nil))
      (readers.tupleElements.bind fun _ elements => .pure (.tuple elements))
  · exact (readers.objectBody true).bind fun _ items => .pure (.object items)
  · exact (expectIf (.isKind .number)).bind fun _ _ =>
      (textSince start).bind fun _ taken => .pure (.number taken.quoted)
  · exact (readers.queriedTree false).bind fun _ _ => otherSince _ start
  · exact .pure (.other _ (quoted_constant _))

theorem appliedTree_succ (readers : TypeReaders related fuel) (start : List (Row Version related))
    {trees : Version → TypeTree} (alike : TypeTree.Alike related trees) :
    Uniform related (TypeTree.Alike related) fun version =>
      Grammar.appliedTree (fuel + 1) (column start version) (trees version) := by
  unfold Grammar.appliedTree
  refine (nextIs (.isMark "<")).andThen fun _ => .ite ?_ (.pure alike)
  exact (textSince start).bind fun _ taken => (expect "<").andThen fun _ =>
    readers.typeArguments.bind fun _ arguments => .pure (.generic taken.quoted arguments)

theorem wordTree_succ (readers : TypeReaders related fuel) (start : List (Row Version related))
    (first : Row Version related) (text : String) :
    Uniform related (TypeTree.Alike related) fun version =>
      Grammar.wordTree (fuel + 1) (column start version) (first.lexeme version) text := by
  unfold Grammar.wordTree
  dsimp only
  simp only [Row.isWord, Row.isWordOf]
  have own : Quoted related fun _ : Version => text := quoted_constant text
  refine .ite (.pure (.keyword own)) (.ite ?_ (.ite (.pure (.boolean true))
    (.ite (.pure (.boolean false)) (.ite (.pure .null) (.ite (.pure .undefined)
      (.ite (.pure (.other _ own)) (.ite ?_ (.ite ?_ (.ite .failure ?_)))))))))
  · exact (expectWord "symbol").andThen fun _ =>
      (textSince start).bind fun _ taken => .pure (.keyword taken.quoted)
  · have path := readers.queryPath.andThen fun _ => otherSince "type query" start
    exact (acceptWord "import").andThen fun _ => .ite ((groupOf "(").andThen fun _ => path)
      (name.andThen fun _ => path)
  · exact (groupOf "(").andThen fun _ => (nextIs (.isMark ".")).andThen fun _ =>
      readers.queryPath.andThen fun _ => otherSince _ start
  · refine .looking fun rows => ?_
    obtain ⟨names, alike, rest, same⟩ := dottedName_column start (.name text) rows
    simp only [same]
    exact (Uniform.set rest).andThen fun _ => readers.appliedTree start alike

theorem queryPath_succ (readers : TypeReaders related fuel) :
    Uniform related Constant fun _ => Grammar.queryPath (fuel + 1) := by
  unfold Grammar.queryPath
  refine .looking fun rows => ?_
  obtain _ | ⟨point, _ | ⟨word, rest⟩⟩ := rows
  · exact .pure ⟨(), rfl⟩
  · exact .pure ⟨(), rfl⟩
  simp only [column_cons, Row.isMark, Row.isName, Row.startsLine, Row.isWordOf, Row.token]
  refine .ite ?_ (.ite ?_ (.ite ?_ (.pure ⟨(), rfl⟩)))
  · exact (Uniform.set rest).andThen fun _ => readers.queryPath
  · exact next.bind fun _ _ => readers.typeArguments.bind fun _ _ => readers.queryPath
  · exact (Uniform.set rest).andThen fun _ => (expect "]").andThen fun _ => readers.queryPath

theorem typeArguments_succ (readers : TypeReaders related fuel) :
    Uniform related (TypeTree.AllAlike related) fun _ => Grammar.typeArguments (fuel + 1) := by
  unfold Grammar.typeArguments
  refine (readers.typeTree false).bind fun _ alike => (accept ",").andThen fun _ => .ite ?_ ?_
  · exact (accept ">").andThen fun _ => .ite (.pure (.cons alike .nil))
      (readers.typeArguments.bind fun _ others => .pure (.cons alike others))
  · exact (expect ">").andThen fun _ => .pure (.cons alike .nil)

theorem tupleElements_succ (readers : TypeReaders related fuel) :
    Uniform related (TypeTree.AllAlike related) fun _ => Grammar.tupleElements (fuel + 1) := by
  unfold Grammar.tupleElements
  refine (accept "]").andThen fun _ => .ite (.pure .nil) ?_
  refine readers.tupleElement.bind fun _ alike => (accept ",").andThen fun _ => .ite ?_ ?_
  · exact readers.tupleElements.bind fun _ others => .pure (.cons alike others)
  · exact (expect "]").andThen fun _ => .pure (.cons alike .nil)

theorem tupleElement_succ (readers : TypeReaders related fuel) :
    Uniform related (TypeTree.Alike related) fun _ => Grammar.tupleElement (fuel + 1) := by
  unfold Grammar.tupleElement
  refine .looking fun start => (accept "...").andThen fun isRest => .looking fun rows => ?_
  have plain := readers.plainElement isRest start
  obtain _ | ⟨word, _ | ⟨second, _ | ⟨third, rest⟩⟩⟩ := rows
  · exact plain
  · exact plain
  · exact plain
  simp only [column_cons, Row.isMark, Row.isName]
  refine .ite ?_ (.ite ?_ plain)
  · exact (Uniform.set (third :: rest)).andThen fun _ => (readers.typeTree false).bind fun _ _ =>
      otherSince _ start
  · exact (Uniform.set rest).andThen fun _ => (readers.typeTree false).bind fun _ _ =>
      otherSince _ start

theorem plainElement_succ (readers : TypeReaders related fuel) (isRest : Bool)
    (start : List (Row Version related)) :
    Uniform related (TypeTree.Alike related) fun version =>
      Grammar.plainElement (fuel + 1) isRest (column start version) := by
  unfold Grammar.plainElement
  refine (readers.typeTree false).bind fun _ alike => .ite (otherSince _ start) ?_
  exact (accept "?").andThen fun _ => .ite (otherSince _ start) (.pure alike)

theorem templatePieces_succ (readers : TypeReaders related fuel) :
    Uniform related (TemplatePiece.AllAlike related) fun _ =>
      Grammar.templatePieces (fuel + 1) := by
  unfold Grammar.templatePieces
  refine (readers.templateHole.orElse strayHole_uniform).bind fun _ hole => next.bind
    fun _ same => ?_
  obtain ⟨row, rfl⟩ := same
  simp only [Row.token]
  cases row.shown.token.kind
  case templateMiddle =>
    exact (piecesBeforeHole_uniform _).bind fun _ pieces => readers.templatePieces.bind
      fun _ others => .pure (.cons hole (pieces.append others))
  case templateTail =>
    exact (piecesAtEnd_uniform _).bind fun _ pieces => .pure (.cons hole pieces)
  all_goals exact .failure

theorem templateHole_succ (readers : TypeReaders related fuel) :
    Uniform related (TemplatePiece.Alike related) fun _ => Grammar.templateHole (fuel + 1) := by
  unfold Grammar.templateHole
  have ends : Apparent fun lexeme =>
      lexeme.token.kind == .templateMiddle || lexeme.token.kind == .templateTail :=
    (Apparent.isKind .templateMiddle).or (.isKind .templateTail)
  refine (nextIs ends).andThen fun _ => .ite (.pure (.hole (.name ""))) ?_
  exact (readers.typeTree false).bind fun _ alike => (nextIs ends).andThen fun _ =>
    .ite (.pure (.hole alike)) .failure

theorem objectBody_succ (readers : TypeReaders related fuel) (isFirst : Bool) :
    Uniform related (BodyItem.AllAlike related) fun _ =>
      Grammar.objectBody (fuel + 1) isFirst := by
  unfold Grammar.objectBody
  refine .looking fun rows => ?_
  cases rows with
  | nil => exact .failure
  | cons row rows =>
      simp only [column_cons, Row.isMark, Row.isMarkOf]
      refine .ite ?_ (.ite ?_ ?_)
      · exact (Uniform.set rows).andThen fun _ => .pure (.ofComments row)
      · exact (Uniform.set rows).andThen fun _ => (nextIs (.isMark "\x7d")).andThen fun _ =>
          .ite .failure ((readers.objectBody false).bind fun _ others =>
            .pure (.comments row others))
      · refine readers.bodyItem.bind fun _ item => bodySeparator_uniform.bind fun _ trailing =>
          (readers.objectBody false).bind fun _ others => .pure ?_
        simpa using BodyItem.AllAlike.comments row (.cons item (trailing _ others))

theorem bodyItem_succ (readers : TypeReaders related fuel) :
    Uniform related (BodyItem.Alike related) fun _ => Grammar.bodyItem (fuel + 1) := by
  unfold Grammar.bodyItem
  refine .looking fun start => (nextIs (.isMarkOf ["(", "<"])).andThen fun _ => .ite
    (readers.callSignature.andThen fun _ => .pure (.other _)) ?_
  obtain ⟨constructs, same⟩ := opensConstruct_column start
  simp only [same]
  refine .ite ?_ ?_
  · exact (acceptWord "abstract").andThen fun _ => (expectWord "new").andThen fun _ =>
      readers.callSignature.andThen fun _ => .pure (.other _)
  · obtain ⟨rest?, leads⟩ := leads_indexStart start
    simp only [leads]
    cases rest? with
    | none => exact readers.namedItem
    | some rest => exact (Uniform.set rest).andThen fun _ => readers.indexItem start

theorem indexItem_succ (readers : TypeReaders related fuel) (start : List (Row Version related)) :
    Uniform related (BodyItem.Alike related) fun version =>
      Grammar.indexItem (fuel + 1) (column start version) := by
  unfold Grammar.indexItem
  dsimp only
  refine name.andThen fun _ => (accept ":").andThen fun _ => .ite ?_ ?_
  · exact (readers.typeTree false).bind fun _ key => (expect "]").andThen fun _ =>
      mappedAnnotation_uniform.andThen fun _ => (readers.typeTree true).bind fun _ value =>
        .pure (.indexSignature key value)
  · have rest : Uniform related (BodyItem.Alike related) fun version => (do
        Reader.expect "]"
        mappedAnnotation
        let _ ← Grammar.typeTree fuel true
        return .mappedType (← Reader.textSince (column start version))) :=
      (expect "]").andThen fun _ => mappedAnnotation_uniform.andThen fun _ =>
        (readers.typeTree true).bind fun _ _ => (textSince start).bind fun _ taken =>
          .pure (.mappedType taken.quoted)
    exact (expectWord "in").andThen fun _ => (readers.typeTree false).bind fun _ _ =>
      (acceptWord "as").andThen fun _ =>
        .ite ((readers.typeTree false).bind fun _ _ => rest) rest

theorem namedItem_succ (readers : TypeReaders related fuel) :
    Uniform related (BodyItem.Alike related) fun _ => Grammar.namedItem (fuel + 1) := by
  unfold Grammar.namedItem
  refine (acceptModifiers_uniform _).andThen fun _ => (acceptModifiers_uniform _).andThen
    fun _ => (accept "*").andThen fun _ => propertyName_uniform.bind fun _ named =>
      (accept "?").andThen fun optional => (nextIs opensMethod_apparent).andThen fun _ =>
        .ite (readers.callSignature.andThen fun _ => .pure (.other _)) (.ite .failure ?_)
  exact (accept ":").andThen fun _ => .ite
    ((readers.typeTree true).bind fun _ alike => .pure (.typed optional named alike))
    (.pure (.untyped optional named))

theorem callSignature_succ (readers : TypeReaders related fuel) :
    Uniform related Constant fun _ => Grammar.callSignature (fuel + 1) := by
  unfold Grammar.callSignature
  dsimp only
  have rest : Uniform related Constant fun _ => (do
      Reader.expect "("
      Grammar.parameters fuel
      if ← Reader.accept ":" then Grammar.resultType fuel true) :=
    (expect "(").andThen fun _ => readers.parameters.andThen fun _ =>
      (accept ":").andThen fun _ => .ite (readers.resultType true) (.pure ⟨(), rfl⟩)
  exact (nextIs (.isMark "<")).andThen fun _ =>
    .ite (readers.typeParameters.andThen fun _ => rest) rest

theorem functionType_succ (readers : TypeReaders related fuel) (breakable : Bool) :
    Uniform related Constant fun _ => Grammar.functionType (fuel + 1) breakable := by
  unfold Grammar.functionType
  dsimp only
  have rest : Uniform related Constant fun _ => (do
      Reader.expect "("
      Grammar.parameters fuel
      Reader.expect "=>"
      Grammar.resultType fuel breakable) :=
    (expect "(").andThen fun _ => readers.parameters.andThen fun _ =>
      (expect "=>").andThen fun _ => readers.resultType breakable
  exact (nextIs (.isMark "<")).andThen fun _ =>
    .ite (readers.typeParameters.andThen fun _ => rest) rest

theorem resultType_succ (readers : TypeReaders related fuel) (breakable : Bool) :
    Uniform related Constant fun _ => Grammar.resultType (fuel + 1) breakable := by
  unfold Grammar.resultType
  have type : Uniform related Constant fun _ => (do
      let _ ← Grammar.typeTree fuel breakable) :=
    (readers.typeTree breakable).bind fun _ _ => .pure ⟨(), rfl⟩
  refine .looking fun rows => ?_
  obtain _ | ⟨first, _ | ⟨second, rest⟩⟩ := rows
  · exact type
  · exact type
  simp only [column_cons, Row.isWord, Row.isWordOf, Row.isName, Row.startsLine]
  refine .ite ?_ (.ite ?_ type)
  · exact (Uniform.set rest).andThen fun _ => (acceptWord "is").andThen fun _ =>
      .ite type (.pure ⟨(), rfl⟩)
  · exact (Uniform.set rest).andThen fun _ => type

theorem parameters_succ (readers : TypeReaders related fuel) :
    Uniform related Constant fun _ => Grammar.parameters (fuel + 1) := by
  unfold Grammar.parameters
  exact (accept ")").andThen fun _ => .ite (.pure ⟨(), rfl⟩) (readers.parameter.andThen fun _ =>
    (accept ",").andThen fun _ => .ite readers.parameters (expect ")"))

theorem parameter_succ (readers : TypeReaders related fuel) :
    Uniform related Constant fun _ => Grammar.parameter (fuel + 1) := by
  unfold Grammar.parameter
  dsimp only
  have rest : Uniform related Constant fun _ => (do
      let _ ← Reader.accept "?"
      if ← Reader.accept ":" then
        let _ ← Grammar.typeTree fuel false) :=
    (accept "?").andThen fun _ => (accept ":").andThen fun _ => .ite
      ((readers.typeTree false).bind fun _ _ => .pure ⟨(), rfl⟩) (.pure ⟨(), rfl⟩)
  exact (acceptModifiers_uniform _).andThen fun _ => (accept "...").andThen fun _ =>
    (nextIs (.isMarkOf ["[", "\x7b"])).andThen fun _ =>
      .ite (group.andThen fun _ => rest) (name.andThen fun _ => rest)

theorem typeParameters_succ (readers : TypeReaders related fuel) :
    Uniform related Constant fun _ => Grammar.typeParameters (fuel + 1) := by
  unfold Grammar.typeParameters
  exact (expect "<").andThen fun _ => readers.typeParameterList

theorem typeParameterList_succ (readers : TypeReaders related fuel) :
    Uniform related Constant fun _ => Grammar.typeParameterList (fuel + 1) := by
  unfold Grammar.typeParameterList
  dsimp only
  have separator : Uniform related Constant fun _ => (do
      if ← Reader.accept "," then
        if ← Reader.accept ">" then return () else Grammar.typeParameterList fuel
      else Reader.expect ">") :=
    (accept ",").andThen fun _ => .ite ((accept ">").andThen fun _ =>
      .ite (.pure ⟨(), rfl⟩) readers.typeParameterList) (expect ">")
  have rest : Uniform related Constant fun _ => (do
      if ← Reader.accept "=" then
        let _ ← Grammar.typeTree fuel false
      if ← Reader.accept "," then
        if ← Reader.accept ">" then return () else Grammar.typeParameterList fuel
      else Reader.expect ">") :=
    (accept "=").andThen fun _ =>
      .ite ((readers.typeTree false).bind fun _ _ => separator) separator
  exact (acceptWord "const").andThen fun _ => name.andThen fun _ =>
    (acceptWord "extends").andThen fun _ =>
      .ite ((readers.typeTree false).bind fun _ _ => rest) rest

theorem succ (readers : TypeReaders related fuel) : TypeReaders related (fuel + 1) where
  typeTree := readers.typeTree_succ
  unionTree := readers.unionTree_succ
  unionOthers := readers.unionOthers_succ
  intersectionTree := readers.intersectionTree_succ
  intersectionOthers := readers.intersectionOthers_succ
  partTree := readers.partTree_succ
  queriedTree := readers.queriedTree_succ
  arrayTree := readers.arrayTree_succ
  singleTree := readers.singleTree_succ
  markedTree := readers.markedTree_succ
  wordTree := readers.wordTree_succ
  appliedTree := readers.appliedTree_succ
  queryPath := readers.queryPath_succ
  typeArguments := readers.typeArguments_succ
  tupleElements := readers.tupleElements_succ
  tupleElement := readers.tupleElement_succ
  plainElement := readers.plainElement_succ
  templatePieces := readers.templatePieces_succ
  templateHole := readers.templateHole_succ
  objectBody := readers.objectBody_succ
  bodyItem := readers.bodyItem_succ
  indexItem := readers.indexItem_succ
  namedItem := readers.namedItem_succ
  callSignature := readers.callSignature_succ
  functionType := readers.functionType_succ
  resultType := readers.resultType_succ
  parameters := readers.parameters_succ
  parameter := readers.parameter_succ
  typeParameters := readers.typeParameters_succ
  typeParameterList := readers.typeParameterList_succ

end TypeReaders

end Grammar

end

end TypeSchema.TypeScript
