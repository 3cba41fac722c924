import TypeSchema.Json.Writer
import TypeSchema.TypeNode

/-!
Declarations as JSON. A part that is absent, and a list of directives that is empty, is not
written; everything else is.
-/

namespace TypeSchema

/-- The name of a keyword type in JSON. -/
def Primitive.jsonName : Primitive → String
  | .bigint => "big_int"
  | other => other.keyword

/-- The keyword type of a name in JSON. -/
def Primitive.ofJsonName? (name : String) : Option Primitive :=
  Primitive.all.find? (·.jsonName == name)

/-- A value with the kind that says how to read it. -/
def Json.tagged (kind : String) (value : Json) : Json :=
  .object [("kind", .string kind), ("value", value)]

def Literal.toJson : Literal → Json
  | .string value => .object [("type", .string "string"), ("value", .string value)]
  | .number text => .object [("type", .string "number"), ("value", .string text)]
  | .boolean value => .object [("type", .string "boolean"), ("value", .bool value)]

def Directive.toJson (directive : Directive) : Json :=
  .object [("tag", .string directive.tag), ("argument", .string directive.argument)]

mutual

def TypeNode.toJson : TypeNode → Json
  | .primitive keyword => .tagged "primitive" (.string keyword.jsonName)
  | .literal value => .tagged "literal" value.toJson
  | .reference name => .tagged "reference" (.string name)
  | .array element => .tagged "array" element.toJson
  | .tuple elements => .tagged "tuple" (.array (TypeNode.allToJson elements))
  | .object body => .tagged "object" body.toJson
  | .union parts => .tagged "union" (.array (TypeNode.allToJson parts))
  | .intersection parts => .tagged "intersection" (.array (TypeNode.allToJson parts))
  | .generic name arguments =>
    .tagged "generic"
      (.object [("name", .string name), ("args", .array (TypeNode.allToJson arguments))])
  | .template text => .tagged "template_literal" text.toJson
  | .parenthesized inner => .tagged "parenthesized" inner.toJson

def TypeNode.allToJson : List TypeNode → List Json
  | [] => []
  | node :: others => node.toJson :: TypeNode.allToJson others

def ObjectType.toJson : ObjectType → Json
  | ⟨members, none⟩ => .object [("members", .array (Member.allToJson members))]
  | ⟨members, some ⟨key, value⟩⟩ =>
    .object [("members", .array (Member.allToJson members)),
      ("index_signature", .object [("key", key.toJson), ("value", value.toJson)])]

def Member.allToJson : List Member → List Json
  | [] => []
  | member :: others => member.toJson :: Member.allToJson others

def Member.toJson : Member → Json
  | ⟨key, optional, type, comment, directives⟩ =>
    .object ([("key", .string key), ("optional", .bool optional), ("type", type.toJson)] ++
      (comment.elim [] fun text => [("comment", .string text)]) ++
      (if directives.isEmpty then [] else [("directives", .array (directives.map (·.toJson)))]))

def TemplateLiteral.toJson : TemplateLiteral → Json
  | ⟨head, spans⟩ =>
    .object [("head", .string head), ("spans", .array (TemplateSpan.allToJson spans))]

def TemplateSpan.allToJson : List TemplateSpan → List Json
  | [] => []
  | ⟨type, text⟩ :: others =>
    .object [("type", type.toJson), ("literal", .string text)] :: TemplateSpan.allToJson others

end

def Declaration.toJson (declaration : Declaration) : Json :=
  .object [("name", .string declaration.name), ("node", declaration.node.toJson)]

end TypeSchema
