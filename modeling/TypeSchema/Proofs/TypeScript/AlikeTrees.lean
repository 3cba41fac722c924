import TypeSchema.Proofs.TypeScript.Versions

/-!
Syntax trees that are read from the versions of a source. They have the same form, and hold the
source text of the same tokens; the comments in a body are those before the same tokens.
-/

namespace TypeSchema.TypeScript

section

variable {Version : Type} (related : (Version → Lexeme) → Prop)

inductive PropertyName.Alike : (Version → PropertyName) → Prop
  | plain (text : String) : Alike fun _ => .plain text
  | quoted (text : String) : Alike fun _ => .quoted text
  | computed {texts : Version → String} : Quoted related texts → Alike fun version =>
      .computed (texts version)

mutual

inductive TypeTree.Alike : (Version → TypeTree) → Prop
  | keyword {texts : Version → String} : Quoted related texts → TypeTree.Alike fun version =>
      .keyword (texts version)
  | name (text : String) : TypeTree.Alike fun _ => .name text
  | qualifiedName {qualifiers names : Version → String} :
      Quoted related (fun version => qualifiers version ++ "." ++ names version) →
        TypeTree.Alike fun version => .qualifiedName (qualifiers version) (names version)
  | generic {names : Version → String} {arguments : Version → List TypeTree} :
      Quoted related names → TypeTree.AllAlike arguments →
        TypeTree.Alike fun version => .generic (names version) (arguments version)
  | string (text : String) : TypeTree.Alike fun _ => .string text
  | number {texts : Version → String} : Quoted related texts → TypeTree.Alike fun version =>
      .number (texts version)
  | boolean (value : Bool) : TypeTree.Alike fun _ => .boolean value
  | null : TypeTree.Alike fun _ => .null
  | undefined : TypeTree.Alike fun _ => .undefined
  | array {elements : Version → TypeTree} : TypeTree.Alike elements → TypeTree.Alike fun version =>
      .array (elements version)
  | tuple {elements : Version → List TypeTree} : TypeTree.AllAlike elements →
      TypeTree.Alike fun version => .tuple (elements version)
  | parenthesized {inner : Version → TypeTree} : TypeTree.Alike inner →
      TypeTree.Alike fun version => .parenthesized (inner version)
  | union {first : Version → TypeTree} {others : Version → List TypeTree} : TypeTree.Alike first →
      TypeTree.AllAlike others →
        TypeTree.Alike fun version => .union (first version) (others version)
  | intersection {first : Version → TypeTree} {others : Version → List TypeTree} :
      TypeTree.Alike first → TypeTree.AllAlike others →
        TypeTree.Alike fun version => .intersection (first version) (others version)
  | object {items : Version → List BodyItem} : BodyItem.AllAlike items →
      TypeTree.Alike fun version => .object (items version)
  /-- A template that is closed is so in all versions. -/
  | template {texts : Version → String} {pieces : Version → List TemplatePiece} :
      Quoted related texts → Constant (fun version => Template.isClosed (texts version).toList) →
        TemplatePiece.AllAlike pieces →
        TypeTree.Alike fun version => .template (texts version) (pieces version)
  | other (form : String) {texts : Version → String} : Quoted related texts →
      TypeTree.Alike fun version => .other form (texts version)

inductive TypeTree.AllAlike : (Version → List TypeTree) → Prop
  | nil : TypeTree.AllAlike fun _ => []
  | cons {first : Version → TypeTree} {others : Version → List TypeTree} : TypeTree.Alike first →
      TypeTree.AllAlike others → TypeTree.AllAlike fun version => first version :: others version

/-- Alike items that are no comments. -/
inductive BodyItem.Alike : (Version → BodyItem) → Prop
  | untyped {names : Version → PropertyName} (optional : Bool) : PropertyName.Alike related names →
      BodyItem.Alike fun version => .property (names version) optional none
  | typed {names : Version → PropertyName} (optional : Bool) {types : Version → TypeTree} :
      PropertyName.Alike related names → TypeTree.Alike types →
        BodyItem.Alike fun version => .property (names version) optional (some (types version))
  | indexSignature {keys values : Version → TypeTree} : TypeTree.Alike keys →
      TypeTree.Alike values →
        BodyItem.Alike fun version => .indexSignature (keys version) (values version)
  | mappedType {texts : Version → String} : Quoted related texts → BodyItem.Alike fun version =>
      .mappedType (texts version)
  | other (form : String) : BodyItem.Alike fun _ => .other form

inductive BodyItem.AllAlike : (Version → List BodyItem) → Prop
  | nil : BodyItem.AllAlike fun _ => []
  | comments (row : Row Version related) {others : Version → List BodyItem} :
      BodyItem.AllAlike others → BodyItem.AllAlike fun version =>
        (row.lexeme version).comments.map .comment ++ others version
  | cons {first : Version → BodyItem} {others : Version → List BodyItem} : BodyItem.Alike first →
      BodyItem.AllAlike others → BodyItem.AllAlike fun version => first version :: others version

inductive TemplatePiece.Alike : (Version → TemplatePiece) → Prop
  | text (raw : String) : TemplatePiece.Alike fun _ => .text raw
  | escapes (raw : String) : TemplatePiece.Alike fun _ => .stray raw
  /-- A hole that holds no type. -/
  | stray {texts : Version → String} : Quoted related texts → TemplatePiece.Alike fun version =>
      .stray ("$\x7b" ++ texts version ++ "\x7d")
  | hole {types : Version → TypeTree} : TypeTree.Alike types → TemplatePiece.Alike fun version =>
      .hole (types version)

inductive TemplatePiece.AllAlike : (Version → List TemplatePiece) → Prop
  | nil : TemplatePiece.AllAlike fun _ => []
  | cons {first : Version → TemplatePiece} {others : Version → List TemplatePiece} :
      TemplatePiece.Alike first → TemplatePiece.AllAlike others →
        TemplatePiece.AllAlike fun version => first version :: others version

end

/-- Alike bases of interfaces, the comments among them included. -/
inductive TypeTree.BasesAlike : (Version → List TypeTree) → Prop
  | nil : TypeTree.BasesAlike fun _ => []
  | comments (row : Row Version related) {others : Version → List TypeTree} :
      TypeTree.BasesAlike others → TypeTree.BasesAlike fun version =>
        (row.lexeme version).comments.map (TypeTree.other "comment") ++ others version
  | cons {first : Version → TypeTree} {others : Version → List TypeTree} :
      TypeTree.Alike related first → TypeTree.BasesAlike others →
        TypeTree.BasesAlike fun version => first version :: others version

inductive DeclarationTree.Alike : (Version → DeclarationTree) → Prop
  | typeAlias (name : String) {types : Version → TypeTree} : TypeTree.Alike related types →
      DeclarationTree.Alike fun version => .typeAlias name (types version)
  | interface (name : String) {bases : Version → List TypeTree} {items : Version → List BodyItem} :
      TypeTree.BasesAlike related bases → BodyItem.AllAlike related items →
        DeclarationTree.Alike fun version => .interface name (bases version) (items version)

inductive DeclarationTree.AllAlike : (Version → List DeclarationTree) → Prop
  | nil : DeclarationTree.AllAlike fun _ => []
  | cons {first : Version → DeclarationTree} {others : Version → List DeclarationTree} :
      DeclarationTree.Alike related first → DeclarationTree.AllAlike others →
        DeclarationTree.AllAlike fun version => first version :: others version

end

variable {Version : Type} {related : (Version → Lexeme) → Prop}

theorem TemplatePiece.AllAlike.append {first others : Version → List TemplatePiece} :
    AllAlike related first → AllAlike related others →
      AllAlike related fun version => first version ++ others version
  | .nil, tail => tail
  | .cons piece more, tail => .cons piece (more.append tail)

theorem BodyItem.AllAlike.ofComments (row : Row Version related) :
    AllAlike related fun version => (row.lexeme version).comments.map .comment := by
  simpa using AllAlike.comments row .nil

end TypeSchema.TypeScript
