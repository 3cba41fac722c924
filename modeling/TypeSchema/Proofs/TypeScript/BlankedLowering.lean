import TypeSchema.Proofs.TypeNode.Reworded
import TypeSchema.Proofs.TypeScript.AlikeTrees
import TypeSchema.Proofs.TypeScript.Blanked
import TypeSchema.TypeScript.Source

/-!
What trees are lowered to when comments are blanked. If the comments that a tree holds stay, it is
lowered to the same type, or fails with the same error, but for the comments in quoted texts.
-/

namespace TypeSchema.TypeScript

/-! The comments that a tree holds: those in the bodies of object types and those among bases. -/

mutual

def TypeTree.comments : TypeTree → List String
  | .generic _ arguments => TypeTree.commentsAll arguments
  | .array element => element.comments
  | .tuple elements => TypeTree.commentsAll elements
  | .parenthesized inner => inner.comments
  | .union first others => first.comments ++ TypeTree.commentsAll others
  | .intersection first others => first.comments ++ TypeTree.commentsAll others
  | .object items => BodyItem.commentsAll items
  | .template _ pieces => TemplatePiece.commentsAll pieces
  | .other form text => if form = "comment" then [text] else []
  | _ => []

def TypeTree.commentsAll : List TypeTree → List String
  | [] => []
  | tree :: others => tree.comments ++ TypeTree.commentsAll others

def BodyItem.comments : BodyItem → List String
  | .comment text => [text]
  | .property _ _ (some tree) => tree.comments
  | .indexSignature key value => key.comments ++ value.comments
  | _ => []

def BodyItem.commentsAll : List BodyItem → List String
  | [] => []
  | item :: others => item.comments ++ BodyItem.commentsAll others

def TemplatePiece.comments : TemplatePiece → List String
  | .hole type => type.comments
  | _ => []

def TemplatePiece.commentsAll : List TemplatePiece → List String
  | [] => []
  | piece :: others => piece.comments ++ TemplatePiece.commentsAll others

end

def DeclarationTree.comments : DeclarationTree → List String
  | .typeAlias _ type => type.comments
  | .interface _ bases items => TypeTree.commentsAll bases ++ BodyItem.commentsAll items

def DeclarationTree.commentsAll (trees : List DeclarationTree) : List String :=
  trees.flatMap comments

/-- A source as it is written, with the number of each comment as its text, and with comments
blanked. -/
inductive Version where
  | written
  | numbered
  | blanked

/-- What stands before a token: if the comments in front of it are kept, they stay, and whatever is
blanked is a comment. -/
structure Keeps (kept : String → Prop) (lexeme : Version → Lexeme) : Prop where
  comments : (∀ text ∈ (lexeme .numbered).comments, kept text) →
    (lexeme .blanked).comments = (lexeme .written).comments
  leading : Blanked (lexeme .written).leadingText (lexeme .blanked).leadingText

variable {kept : String → Prop}

theorem Quoted.blanked {texts : Version → String} (quoted : Quoted (Keeps kept) texts) :
    BlankedText (texts .written) (texts .blanked) := by
  obtain ⟨start, rows, text⟩ := quoted
  rw [BlankedText, text, text]
  refine .keptAll start ?_
  clear text
  induction rows with
  | nil => exact .nil
  | cons row rows induction =>
      rw [column_cons, column_cons, List.flatMap_cons, List.flatMap_cons, row.text, row.text]
      exact (row.related.leading.append (.refl _)).append induction

/-! The steps of the lowering on texts and types that differ in blanked comments. -/

abbrev Same : TypeNode → TypeNode → Prop :=
  TypeNode.Reworded BlankedText

abbrev SameResult {α : Type} (same : α → α → Prop) :
    Except GenerateError α → Except GenerateError α → Prop :=
  Result.Related (GenerateError.Reworded BlankedText) same

theorem ofKeyword_eq {text blanked : String} (both : BlankedText text blanked) :
    Primitive.ofKeyword? blanked = Primitive.ofKeyword? text := by
  have each : ∀ keyword : Primitive, (keyword.keyword == blanked) = (keyword.keyword == text) := by
    intro keyword
    have same : text = keyword.keyword ↔ blanked = keyword.keyword := by
      cases keyword <;> exact both.eq_iff (by decide) (by decide)
    rw [Bool.eq_iff_iff, beq_iff_eq, beq_iff_eq, eq_comm, ← same, eq_comm]
  rw [Primitive.ofKeyword?, Primitive.ofKeyword?]
  simp only [each]

theorem same_wordType (word : String) : Same (wordType word) (wordType word) := by
  unfold wordType
  split
  · exact .primitive _
  · exact .reference (Blanked.refl _)

theorem appliedType_other {name : String} (other : name ≠ "Array") (arguments : List TypeNode) :
    appliedType name arguments = .generic name arguments := by
  unfold appliedType
  split
  · exact absurd rfl other
  · rfl

theorem same_appliedType {name other : String} (both : BlankedText name other)
    {first second : List TypeNode} (each : List.Forall₂ Same first second) :
    Same (appliedType name first) (appliedType other second) := by
  have same : name = "Array" ↔ other = "Array" := both.eq_iff (by decide) (by decide)
  by_cases array : name = "Array"
  · obtain rfl := same.mp array
    subst array
    match each with
    | .nil => exact .generic both .nil
    | .cons node .nil => exact .array node
    | .cons node (.cons next others) => exact .generic both (.cons node (.cons next others))
  · rw [appliedType_other array, appliedType_other (array ∘ same.mpr)]
    exact .generic both each

theorem same_unionParts {first second : TypeNode} (same : Same first second) :
    List.Forall₂ Same (unionParts first) (unionParts second) := by
  have whole := same
  cases same with
  | union parts => exact parts
  | _ => exact .cons whole .nil

theorem same_intersectionParts {first second : TypeNode} (same : Same first second) :
    List.Forall₂ Same (intersectionParts first) (intersectionParts second) := by
  have whole := same
  cases same with
  | intersection parts => exact parts
  | _ => exact .cons whole .nil

theorem same_flatMap {parts : TypeNode → List TypeNode}
    (own : ∀ {first second : TypeNode}, Same first second →
      List.Forall₂ Same (parts first) (parts second))
    {first second : List TypeNode} (each : List.Forall₂ Same first second) :
    List.Forall₂ Same (first.flatMap parts) (second.flatMap parts) := by
  induction each with
  | nil => exact .nil
  | cons same _ induction =>
      rw [List.flatMap_cons, List.flatMap_cons]
      exact List.rel_append (own same) induction

theorem same_documented (key : String) (optional : Bool) {first second : TypeNode}
    (same : Same first second) (comment : Option String) :
    Member.Reworded BlankedText (documented (.plain key optional first) comment)
      (documented (.plain key optional second) comment) := by
  cases comment with
  | none => exact .mk key optional none [] same
  | some comment => exact .mk key optional (some comment) _ same

/-- A body as it is lowered before and after blanking. -/
def SameBody (first second : ObjectType) : Prop :=
  Same (.object first) (.object second)

theorem SameBody.cons {first second : ObjectType} {member other : Member}
    (own : Member.Reworded BlankedText member other) (body : SameBody first second) :
    SameBody { first with members := member :: first.members }
      { second with members := other :: second.members } := by
  cases body with
  | object members signature => exact .object (.cons own members) signature

theorem commentsAll_comments (texts : List String) (others : List BodyItem) :
    BodyItem.commentsAll (texts.map .comment ++ others) = texts ++ BodyItem.commentsAll others := by
  induction texts with
  | nil => rfl
  | cons text texts induction => exact congrArg (text :: ·) induction

theorem lowerAll_comments (texts : List String) (comment : Option String) :
    ∃ last : Option String, ∀ signature others,
      BodyItem.lowerAll comment signature (texts.map .comment ++ others) =
        BodyItem.lowerAll last signature others := by
  induction texts generalizing comment with
  | nil => exact ⟨comment, fun _ _ => rfl⟩
  | cons text texts induction => exact induction _

/-- A template's text before its first hole and its holes, before and after blanking. -/
def SameTemplate (first second : String × List TemplateSpan) : Prop :=
  first.1 = second.1 ∧ List.Forall₂ (TemplateSpan.Reworded BlankedText) first.2 second.2

/-- A hole that holds no type is no escape, whatever stands in it. -/
theorem lowerAll_stray (raw : List Char) (text : String) (others : List TemplatePiece) :
    TemplatePiece.lowerAll raw (.stray ("$\x7b" ++ text ++ "\x7d") :: others) =
      .error (.unreadable (.strayInTemplate ("$\x7b" ++ text ++ "\x7d"))) := by
  have noEscape : Template.isEscapeRun ("$\x7b" ++ text ++ "\x7d").toList = false := by
    simp [Template.isEscapeRun]
  rw [TemplatePiece.lowerAll, noEscape]
  rfl

theorem PropertyName.Alike.key {names : Version → PropertyName}
    (alike : PropertyName.Alike (Keeps kept) names) :
    SameResult Eq (names .written).key (names .blanked).key := by
  cases alike with
  | plain text => exact .ok rfl
  | quoted text => exact .ok rfl
  | computed texts => exact .error (.computedProperty texts.blanked)

mutual

theorem TypeTree.Alike.lower : {trees : Version → TypeTree} →
    TypeTree.Alike (Keeps kept) trees → (∀ text ∈ (trees .numbered).comments, kept text) →
      SameResult Same (trees .written).lower (trees .blanked).lower
  | _, .keyword texts, _ => by
      unfold TypeTree.lower
      rw [ofKeyword_eq texts.blanked]
      split
      · exact .ok (.primitive _)
      · exact .error (.keyword texts.blanked)
  | _, .name text, _ => .ok (same_wordType text)
  | _, .qualifiedName texts, _ => .ok (.reference texts.blanked)
  | _, .generic texts arguments, stay => (arguments.lower stay).bind fun _ _ same =>
      .ok (same_appliedType texts.blanked same)
  | _, .string text, _ => .ok (.string _)
  | _, .number texts, _ => .ok (.number texts.blanked)
  | _, .boolean value, _ => .ok (.boolean value)
  | _, .null, _ => .ok (.primitive _)
  | _, .undefined, _ => .ok (.primitive _)
  | _, .array element, stay => (element.lower stay).bind fun _ _ same => .ok (.array same)
  | _, .tuple elements, stay => (elements.lower stay).bind fun _ _ same => .ok (.tuple same)
  | _, .parenthesized inner, stay => (inner.lower stay).bind fun _ _ same =>
      .ok (.parenthesized same)
  | _, .union first others, stay => by
      obtain ⟨stayFirst, stayOthers⟩ := List.forall_mem_append.mp stay
      exact (first.lower stayFirst).bind fun _ _ same => (others.lower stayOthers).bind
        fun _ _ each => .ok (.union (same_flatMap same_unionParts (.cons same each)))
  | _, .intersection first others, stay => by
      obtain ⟨stayFirst, stayOthers⟩ := List.forall_mem_append.mp stay
      exact (first.lower stayFirst).bind fun _ _ same => (others.lower stayOthers).bind
        fun _ _ each => .ok (.intersection (same_flatMap same_intersectionParts (.cons same each)))
  | _, .object items, stay => (items.lower stay none .none).bind fun _ _ same => .ok same
  | _, .template texts closed pieces, stay => by
      obtain ⟨isClosed, same⟩ := closed
      unfold TypeTree.lower
      rw [congrFun same .written, congrFun same .blanked]
      split
      · exact (pieces.lower stay []).bind fun one another same => by
          obtain ⟨head, spans⟩ := one
          obtain ⟨_, others⟩ := another
          obtain ⟨rfl, each⟩ := same
          exact .ok (.template head each)
      · exact .error (.unterminatedTemplate texts.blanked)
  | _, .other form texts, _ => .error (.typeForm form texts.blanked)

theorem TypeTree.AllAlike.lower : {lists : Version → List TypeTree} →
    TypeTree.AllAlike (Keeps kept) lists →
      (∀ text ∈ TypeTree.commentsAll (lists .numbered), kept text) →
        SameResult (List.Forall₂ Same) (TypeTree.lowerAll (lists .written))
          (TypeTree.lowerAll (lists .blanked))
  | _, .nil, _ => .ok .nil
  | _, .cons first others, stay => by
      obtain ⟨stayFirst, stayOthers⟩ := List.forall_mem_append.mp stay
      exact (first.lower stayFirst).bind fun _ _ same => (others.lower stayOthers).bind
        fun _ _ each => .ok (.cons same each)

theorem BodyItem.AllAlike.lower : {lists : Version → List BodyItem} →
    BodyItem.AllAlike (Keeps kept) lists →
      (∀ text ∈ BodyItem.commentsAll (lists .numbered), kept text) → ∀ comment
        {signature other : Option IndexSignature},
        Option.Rel (IndexSignature.Reworded BlankedText) signature other →
        SameResult SameBody (BodyItem.lowerAll comment signature (lists .written))
          (BodyItem.lowerAll comment other (lists .blanked))
  | _, .nil, _, _, _, _, signature => .ok (.object .nil signature)
  | _, .comments row others, stay, comment, _, _, signature => by
      rw [commentsAll_comments] at stay
      obtain ⟨own, stay⟩ := List.forall_mem_append.mp stay
      obtain ⟨last, same⟩ := lowerAll_comments (row.lexeme .written).comments comment
      dsimp only
      rw [row.related.comments own, same, same]
      exact others.lower stay last signature
  | _, .cons (.untyped optional name) others, stay, comment, _, _, signature =>
      name.key.bind fun key _ same => (others.lower stay none signature).bind fun _ _ body => by
        cases same
        exact .ok (body.cons (same_documented key optional (.primitive .any) comment))
  | _, .cons (.typed optional name type) others, stay, comment, _, _, signature => by
      obtain ⟨stayType, stay⟩ := List.forall_mem_append.mp stay
      exact name.key.bind fun key _ same => (type.lower stayType).bind fun _ _ sameType =>
        (others.lower stay none signature).bind fun _ _ body => by
          cases same
          exact .ok (body.cons (same_documented key optional sameType comment))
  | _, .cons (.indexSignature key value) others, stay, _, _, _, _ => by
      obtain ⟨own, stay⟩ := List.forall_mem_append.mp stay
      obtain ⟨stayKey, stayValue⟩ := List.forall_mem_append.mp own
      exact (key.lower stayKey).bind fun _ _ sameKey => (value.lower stayValue).bind
        fun _ _ sameValue => others.lower stay none (.some (.mk sameKey sameValue))
  | _, .cons (.mappedType texts) _, _, _, _, _, _ => .error (.mappedType texts.blanked)
  | _, .cons (.other form) _, _, _, _, _, _ => .error (.same _)

theorem TemplatePiece.AllAlike.lower : {lists : Version → List TemplatePiece} →
    TemplatePiece.AllAlike (Keeps kept) lists →
      (∀ text ∈ TemplatePiece.commentsAll (lists .numbered), kept text) → ∀ raw,
        SameResult SameTemplate (TemplatePiece.lowerAll raw (lists .written))
          (TemplatePiece.lowerAll raw (lists .blanked))
  | _, .nil, _, _ => .ok ⟨rfl, .nil⟩
  | _, .cons (.text text) others, stay, raw => others.lower stay (raw ++ text.toList)
  | _, .cons (.escapes text) others, stay, raw => by
      unfold TemplatePiece.lowerAll
      split
      · exact others.lower stay (raw ++ text.toList)
      · exact .error (.same _)
  | _, .cons (.stray texts) _, _, raw => by
      rw [lowerAll_stray, lowerAll_stray]
      exact .error (.strayInTemplate texts.blanked.between)
  | _, .cons (.hole type) others, stay, raw => by
      obtain ⟨stayType, stay⟩ := List.forall_mem_append.mp stay
      exact (type.lower stayType).bind fun _ _ same => (others.lower stay []).bind
        fun one another sameRest => by
          obtain ⟨text, spans⟩ := one
          obtain ⟨_, otherSpans⟩ := another
          obtain ⟨rfl, each⟩ := sameRest
          exact .ok ⟨rfl, .cons (.mk text same) each⟩

end

/-- The comments among the bases of an interface are bases themselves. -/
theorem commentsAll_bases (texts : List String) (others : List TypeTree) :
    TypeTree.commentsAll (texts.map (TypeTree.other "comment") ++ others) =
      texts ++ TypeTree.commentsAll others := by
  induction texts with
  | nil => rfl
  | cons text texts induction => exact congrArg (text :: ·) induction

theorem TypeTree.BasesAlike.lower {bases : Version → List TypeTree}
    (alike : TypeTree.BasesAlike (Keeps kept) bases)
    (stay : ∀ text ∈ TypeTree.commentsAll (bases .numbered), kept text) :
    SameResult (List.Forall₂ Same) (TypeTree.lowerAll (bases .written))
      (TypeTree.lowerAll (bases .blanked)) := by
  induction alike with
  | nil => exact .ok .nil
  | comments row _ induction =>
      rw [commentsAll_bases] at stay
      obtain ⟨own, stay⟩ := List.forall_mem_append.mp stay
      dsimp only
      rw [row.related.comments own]
      cases (row.lexeme .written).comments with
      | nil => exact induction stay
      | cons text texts => exact .error (.same _)
  | cons first _ induction =>
      obtain ⟨stayFirst, stay⟩ := List.forall_mem_append.mp stay
      exact (first.lower stayFirst).bind fun _ _ same => (induction stay).bind
        fun _ _ each => .ok (.cons same each)

abbrev SameDeclaration : Declaration → Declaration → Prop :=
  Declaration.Reworded BlankedText

theorem DeclarationTree.Alike.lower {trees : Version → DeclarationTree}
    (alike : DeclarationTree.Alike (Keeps kept) trees)
    (stay : ∀ text ∈ (trees .numbered).comments, kept text) :
    SameResult SameDeclaration (trees .written).lower (trees .blanked).lower := by
  cases alike with
  | typeAlias name type => exact (type.lower stay).bind fun _ _ same => .ok (.mk name same)
  | interface name bases items =>
      obtain ⟨stayBases, stayItems⟩ := List.forall_mem_append.mp stay
      refine (items.lower stayItems none .none).bind fun _ _ body =>
        (bases.lower stayBases).bind fun _ _ parts => .ok ?_
      cases parts with
      | nil => exact .mk name body
      | cons part others => exact .mk name (.intersection (List.rel_append (.cons part others)
          (.cons body .nil)))

theorem DeclarationTree.AllAlike.lower {lists : Version → List DeclarationTree}
    (alike : DeclarationTree.AllAlike (Keeps kept) lists)
    (stay : ∀ text ∈ DeclarationTree.commentsAll (lists .numbered), kept text) :
    SameResult (List.Forall₂ SameDeclaration) (DeclarationTree.lowerAll (lists .written))
      (DeclarationTree.lowerAll (lists .blanked)) := by
  induction alike with
  | nil => exact .ok .nil
  | cons first _ induction =>
      obtain ⟨stayFirst, stay⟩ := List.forall_mem_append.mp stay
      exact (first.lower stayFirst).bind fun _ _ same => (induction stay).bind
        fun _ _ each => .ok (.cons same each)

end TypeSchema.TypeScript
