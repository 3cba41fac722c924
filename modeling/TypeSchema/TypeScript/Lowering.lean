import TypeSchema.GenerateError
import TypeSchema.Text.Escape
import TypeSchema.TypeNode
import TypeSchema.TypeScript.SyntaxTree
import TypeSchema.TypeScript.Template

/-!
From syntax trees to declarations. What has no counterpart among the types makes the lowering
fail, the first such form in the tree giving the error. The documentation comment that stands
directly before a property becomes the comment of the member.
-/

namespace TypeSchema.TypeScript

/-- Whether a character may enclose a string. -/
def isQuote (c : Char) : Bool :=
  c == '"' || c == '\''

/-- The characters between the quotes of a string; a text that has none is all of it. -/
def stringBody (text : List Char) : List Char :=
  match text with
  | first :: rest =>
    match rest.getLast? with
    | some last => if isQuote first && isQuote last then rest.dropLast else text
    | none => text
  | [] => text

def stringValue (text : String) : String :=
  String.ofList (Text.unescape (stringBody text.toList))

def PropertyName.key : PropertyName → Except GenerateError String
  | .plain text => .ok text
  | .quoted text => .ok (stringValue text)
  | .computed text => .error (.unsupported (.computedProperty text))

/-- Whether a comment documents what follows it. -/
def isDocComment (comment : String) : Bool :=
  ['/', '*', '*'].isPrefixOf comment.toList

/-- A member with the comment that stands before it, if one does. -/
def documented (member : Member) (comment : Option String) : Member :=
  comment.elim member member.withComment

/-- The type of a word: a keyword type, or else a declaration of that name. -/
def wordType (word : String) : TypeNode :=
  match Primitive.ofKeyword? word with
  | some primitive => .primitive primitive
  | none => .reference word

/-- A name applied to types; an array is an array however it is written. -/
def appliedType (name : String) (arguments : List TypeNode) : TypeNode :=
  match name, arguments with
  | "Array", [element] => .array element
  | name, arguments => .generic name arguments

/-- The parts that a type brings into a union: its own if it is a union itself. -/
def unionParts : TypeNode → List TypeNode
  | .union parts => parts
  | node => [node]

/-- The parts that a type brings into an intersection: its own if it is an intersection itself. -/
def intersectionParts : TypeNode → List TypeNode
  | .intersection parts => parts
  | node => [node]

mutual

def TypeTree.lower : TypeTree → Except GenerateError TypeNode
  | .keyword text =>
    match Primitive.ofKeyword? text with
    | some primitive => .ok (.primitive primitive)
    | none => .error (.unsupported (.keyword text))
  | .name text => .ok (wordType text)
  | .qualifiedName qualifier name => .ok (.reference (qualifier ++ "." ++ name))
  | .generic name arguments => do return appliedType name (← TypeTree.lowerAll arguments)
  | .string text => .ok (.literal (.string (stringValue text)))
  | .number text => .ok (.literal (.number text))
  | .boolean value => .ok (.literal (.boolean value))
  | .null => .ok (.primitive .null)
  | .undefined => .ok (.primitive .undefined)
  | .array element => do return .array (← element.lower)
  | .tuple elements => do return .tuple (← TypeTree.lowerAll elements)
  | .parenthesized inner => do return .parenthesized (← inner.lower)
  | .union first others => do
    let node ← first.lower
    let nodes ← TypeTree.lowerAll others
    return .union ((node :: nodes).flatMap unionParts)
  | .intersection first others => do
    let node ← first.lower
    let nodes ← TypeTree.lowerAll others
    return .intersection ((node :: nodes).flatMap intersectionParts)
  | .object body => do return .object (← BodyItem.lowerAll none none body)
  | .template text pieces =>
    if Template.isClosed text.toList then do
      let (head, spans) ← TemplatePiece.lowerAll [] pieces
      return .template ⟨head, spans⟩
    else
      .error (.unreadable (.unterminatedTemplate text))
  | .other form text => .error (.unsupported (.typeForm form text))

def TypeTree.lowerAll : List TypeTree → Except GenerateError (List TypeNode)
  | [] => .ok []
  | tree :: others => do
    let node ← tree.lower
    let rest ← TypeTree.lowerAll others
    return node :: rest

/-- The body of an object type from some item on. `comment` is the documentation comment that
stands directly before, and `signature` the last index signature so far. -/
def BodyItem.lowerAll (comment : Option String) (signature : Option IndexSignature) :
    List BodyItem → Except GenerateError ObjectType
  | [] => .ok ⟨[], signature⟩
  | .comment text :: others =>
    BodyItem.lowerAll (if isDocComment text then some text else none) signature others
  | .property name optional none :: others => do
    let key ← name.key
    let rest ← BodyItem.lowerAll none signature others
    let member := documented (.plain key optional (.primitive .any)) comment
    return { rest with members := member :: rest.members }
  | .property name optional (some tree) :: others => do
    let key ← name.key
    let type ← tree.lower
    let rest ← BodyItem.lowerAll none signature others
    let member := documented (.plain key optional type) comment
    return { rest with members := member :: rest.members }
  | .indexSignature key value :: others => do
    let key ← key.lower
    let value ← value.lower
    BodyItem.lowerAll none (some { key, value }) others
  | .mappedType text :: _ => .error (.unsupported (.mappedType text))
  | .other form :: _ => .error (.unsupported (.bodyItem form))

/-- The text and the holes of a template from some piece on, `raw` being the source of the text
directly before it. -/
def TemplatePiece.lowerAll (raw : List Char) :
    List TemplatePiece → Except GenerateError (String × List TemplateSpan)
  | [] => .ok (String.ofList (Text.unescape raw), [])
  | .text text :: others => TemplatePiece.lowerAll (raw ++ text.toList) others
  | .stray text :: others =>
    if Template.isEscapeRun text.toList then TemplatePiece.lowerAll (raw ++ text.toList) others
    else .error (.unreadable (.strayInTemplate text))
  | .hole type :: others => do
    let node ← type.lower
    let (text, spans) ← TemplatePiece.lowerAll [] others
    return (String.ofList (Text.unescape raw), ⟨node, text⟩ :: spans)

end

/-- The declaration that a tree stands for. An interface that extends others is the intersection
of these with its body; its body is lowered first. -/
def DeclarationTree.lower : DeclarationTree → Except GenerateError Declaration
  | .typeAlias name type => do return ⟨name, ← type.lower⟩
  | .interface name bases body => do
    let object := TypeNode.object (← BodyItem.lowerAll none none body)
    let parts ← TypeTree.lowerAll bases
    return ⟨name, if parts.isEmpty then object else .intersection (parts ++ [object])⟩

end TypeSchema.TypeScript
