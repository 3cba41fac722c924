import TypeSchema.Name
import TypeSchema.Refinement
import TypeSchema.Text.Cited

/-!
From types to schemas. Each form of type has one schema construction; a part that has none makes
the whole type fail.
-/

namespace TypeSchema

namespace TypeNode

def describe : TypeNode → String
  | .primitive keyword => keyword.keyword
  | .reference name => name
  | .literal (.string value) => String.ofList (Text.cite value.toList)
  | .literal (.number text) => text
  | other => other.kindName

/-- Fails unless a key type is `string`. -/
def checkRecordKey (site : RecordSite) (key : TypeNode) : Except GenerateError Unit :=
  match key.unwrap with
  | .primitive .string => .ok ()
  | other => .error (.recordKey site other.describe)

end TypeNode

mutual

/-- The keys that the second argument of a selecting utility names, in order: a string literal
names itself, a union the keys of its parts. -/
def TypeNode.maskKeys (utility : Utility) (inUnion : Bool) :
    TypeNode → Except GenerateError (List String)
  | .parenthesized inner => inner.maskKeys utility inUnion
  | .literal (.string key) => .ok [key]
  | .union parts => TypeNode.maskKeysAll utility parts
  | other => .error (.keySelection utility other.kindName inUnion)

def TypeNode.maskKeysAll (utility : Utility) : List TypeNode → Except GenerateError (List String)
  | [] => .ok []
  | part :: others => do
    let keys ← part.maskKeys utility true
    let rest ← TypeNode.maskKeysAll utility others
    return keys ++ rest

end

mutual

def TypeNode.compile : TypeNode → Except GenerateError Schema
  | .primitive keyword => .ok (.bare keyword.keyword)
  | .literal value => .ok (.ofCall "literal" [.literal value])
  | .reference name => .ok (.reference (Name.schemaName name))
  | .array element => do return .arrayOf (← element.compile)
  | .tuple elements => do return .ofCall "tuple" [.schemas (← TypeNode.compileAll elements)]
  | .object ⟨members, none⟩ => do return .objectOf (← TypeNode.compileMembers members)
  | .object ⟨[], some ⟨key, value⟩⟩ => do
    key.checkRecordKey .indexSignature
    return .recordOf (← value.compile)
  | .object ⟨members, some ⟨key, value⟩⟩ => do
    key.checkRecordKey .indexSignature
    let record := Schema.recordOf (← value.compile)
    return record.and (.objectOf (← TypeNode.compileMembers members))
  | .union [] => .error (.unsupported .emptyUnion)
  | .union [part] => part.compile
  | .union parts => do return .ofCall "union" [.schemas (← TypeNode.compileAll parts)]
  | .intersection [] => .error (.unsupported .emptyIntersection)
  | .intersection (part :: others) => do TypeNode.compileAnd (← part.compile) others
  | .generic name arguments =>
    match Utility.ofName? name, arguments with
    | some .arrayOf, [element] => do return .arrayOf (← element.compile)
    | some .record, [key, value] => do
      key.checkRecordKey .generic
      return .recordOf (← value.compile)
    | some .allOptional, [inner] => do return (← inner.compile).chained (.bare "partial")
    | some .allRequired, [inner] => do return (← inner.compile).chained (.bare "required")
    | some .allReadonly, [inner] => inner.compile
    | some .pickKeys, [inner, keys] => do
      let mask ← keys.maskKeys .pickKeys false
      return (← inner.compile).chained ⟨"pick", [.mask mask]⟩
    | some .omitKeys, [inner, keys] => do
      let mask ← keys.maskKeys .omitKeys false
      return (← inner.compile).chained ⟨"omit", [.mask mask]⟩
    | some utility, _ => .error (.unsupported (.utilityArity utility arguments.length))
    | none, _ => .error (.unsupported (.unknownGeneric name))
  | .template text => do
    return (Schema.bare "string").chained ⟨"regex", [.pattern (← text.pattern)]⟩
  | .parenthesized inner => inner.compile

def TypeNode.compileAll : List TypeNode → Except GenerateError (List Schema)
  | [] => .ok []
  | node :: others => do
    let schema ← node.compile
    let rest ← TypeNode.compileAll others
    return schema :: rest

/-- A schema met, from left to right, with the schemas of further types. -/
def TypeNode.compileAnd (schema : Schema) : List TypeNode → Except GenerateError Schema
  | [] => .ok schema
  | node :: others => do TypeNode.compileAnd (schema.and (← node.compile)) others

/-- The shape of an object type: each member with its refinements, and optional last. -/
def TypeNode.compileMembers : List Member → Except GenerateError (List ShapeEntry)
  | [] => .ok []
  | ⟨key, optional, type, comment, directives⟩ :: others => do
    let refined := (← type.compile).chainedAll (Directive.refinements directives)
    let schema := if optional then refined.optional else refined
    let rest ← TypeNode.compileMembers others
    return ⟨key, comment, schema⟩ :: rest

end

end TypeSchema
