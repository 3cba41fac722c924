import TypeSchema.Declaration.Decode
import TypeSchema.GenerateError

/-!
The JSON form of a source: one declaration or a list of them, delivered by another program.
Members that come with a comment but without directives are given those of the comment.
-/

namespace TypeSchema

/-- Directives, or those of a comment if there are none. -/
def hydratedDirectives (comment : Option String) (directives : List Directive) : List Directive :=
  if directives.isEmpty then comment.elim [] DocComment.directives else directives

mutual

/-- A type whose members have the directives of their comments. -/
def TypeNode.hydrate : TypeNode → TypeNode
  | .object ⟨members, none⟩ => .object ⟨Member.hydrateAll members, none⟩
  | .object ⟨members, some ⟨key, value⟩⟩ =>
    .object ⟨Member.hydrateAll members, some ⟨key, value.hydrate⟩⟩
  | .array element => .array element.hydrate
  | .parenthesized inner => .parenthesized inner.hydrate
  | .tuple elements => .tuple (TypeNode.hydrateAll elements)
  | .union parts => .union (TypeNode.hydrateAll parts)
  | .intersection parts => .intersection (TypeNode.hydrateAll parts)
  | .generic name arguments => .generic name (TypeNode.hydrateAll arguments)
  | .primitive keyword => .primitive keyword
  | .literal value => .literal value
  | .reference name => .reference name
  | .template text => .template text

/-- Types whose members have the directives of their comments. -/
def TypeNode.hydrateAll : List TypeNode → List TypeNode
  | [] => []
  | node :: others => node.hydrate :: TypeNode.hydrateAll others

def Member.hydrateAll : List Member → List Member
  | [] => []
  | ⟨key, optional, type, comment, directives⟩ :: others =>
    ⟨key, optional, type.hydrate, comment, hydratedDirectives comment directives⟩ ::
      Member.hydrateAll others

end

/-- A declaration whose members have the directives of their comments. -/
def Declaration.hydrate (declaration : Declaration) : Declaration :=
  { declaration with node := declaration.node.hydrate }

/-- Reads the declarations of a JSON source. Text after a value of the wrong form is not looked
at. -/
def Declaration.readJson (source : String) : Except GenerateError (List Declaration) :=
  match Json.readFirst? source.toList with
  | none => .error (.unreadable .malformedJson)
  | some (json, rest) =>
    match Declaration.listOfJson? json with
    | none => .error (.unreadable .notDeclarations)
    | some declarations =>
      if (Json.skipSpace rest).isEmpty then .ok (declarations.map (·.hydrate))
      else .error (.unreadable .malformedJson)

end TypeSchema
