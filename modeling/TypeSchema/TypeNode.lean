import TypeSchema.DocComment

/-!
Type declarations, as every reader delivers them: a name and a type, the type being a tree over
keywords, literals, references and the ways to combine them.
-/

namespace TypeSchema

inductive Primitive where
  | string
  | number
  | boolean
  | bigint
  | any
  | unknown
  | never
  | undefined
  | null
  | void
deriving DecidableEq, Inhabited

namespace Primitive

def all : List Primitive :=
  [string, number, boolean, bigint, any, unknown, never, undefined, null, void]

/-- The keyword of a type, which is also the name of its schema constructor. -/
def keyword : Primitive → String
  | string => "string"
  | number => "number"
  | boolean => "boolean"
  | bigint => "bigint"
  | any => "any"
  | unknown => "unknown"
  | never => "never"
  | undefined => "undefined"
  | null => "null"
  | void => "void"

def ofKeyword? (keyword : String) : Option Primitive :=
  all.find? (·.keyword == keyword)

end Primitive

/-- A literal type. A number is kept as it is written. -/
inductive Literal where
  | string (value : String)
  | number (text : String)
  | boolean (value : Bool)
deriving DecidableEq, Inhabited

mutual

inductive TypeNode where
  | primitive (primitive : Primitive)
  | literal (literal : Literal)
  /-- Another declaration, by its name. -/
  | reference (name : String)
  | array (element : TypeNode)
  | tuple (elements : List TypeNode)
  | object (body : ObjectType)
  | union (parts : List TypeNode)
  | intersection (parts : List TypeNode)
  /-- A name applied to types. -/
  | generic (name : String) (arguments : List TypeNode)
  | template (template : TemplateLiteral)
  | parenthesized (inner : TypeNode)

/-- The body of an object type or of an interface. -/
structure ObjectType where
  members : List Member
  indexSignature : Option IndexSignature

structure Member where
  key : String
  optional : Bool
  type : TypeNode
  /-- The documentation comment before the member, as it is written. -/
  comment : Option String
  directives : List Directive

/-- The types of the keys and values that an object may have beside its members. -/
structure IndexSignature where
  key : TypeNode
  value : TypeNode

/-- A template literal type: a text, and holes with the text after each. -/
structure TemplateLiteral where
  head : String
  spans : List TemplateSpan

/-- A hole of a template literal type, and the text that follows it. -/
structure TemplateSpan where
  type : TypeNode
  literal : String

end

instance : Inhabited TypeNode := ⟨.primitive .any⟩

structure Declaration where
  name : String
  node : TypeNode
deriving Inhabited

namespace TypeNode

def unwrap : TypeNode → TypeNode
  | .parenthesized inner => inner.unwrap
  | node => node

/-- What a type is called in a message. -/
def kindName : TypeNode → String
  | .primitive _ => "keyword type"
  | .literal (.string _) => "string literal"
  | .literal (.number _) => "number literal"
  | .literal (.boolean _) => "boolean literal"
  | .reference _ => "type reference"
  | .array _ => "array type"
  | .tuple _ => "tuple type"
  | .object _ => "object type"
  | .union _ => "union type"
  | .intersection _ => "intersection type"
  | .generic _ _ => "generic type"
  | .template _ => "template literal type"
  | .parenthesized _ => "parenthesized type"

end TypeNode

namespace Member

def plain (key : String) (optional : Bool) (type : TypeNode) : Member :=
  { key, optional, type, comment := none, directives := [] }

def withComment (member : Member) (comment : String) : Member :=
  { member with comment := some comment, directives := DocComment.directives comment }

end Member

end TypeSchema
