import TypeSchema.Declaration.Encode
import TypeSchema.Json.Reader

/-!
Declarations read from JSON.

The fields of an object may stand in any order, and unknown ones are passed over, but a known one
may not be repeated. A structure may also be written as the array of its fields in order, with
those left out at the end that may be absent. A kind may be written as a field of its own whose
value says nothing.
-/

namespace TypeSchema

namespace Json

/-- How the fields that a structure may have were given: for each name its value, if any. -/
abbrev Given := List (Option Json)

/-- The value of the only field of a name; the outer option fails on a repeated name. -/
def field? (name : String) (fields : List (String × Json)) : Option (Option Json) :=
  match fields.filter (·.1 == name) with
  | [] => some none
  | [(_, value)] => some (some value)
  | _ => none

def byName? (names : List String) : Json → Option Given
  | .object fields => names.mapM fun name => field? name fields
  | _ => none

def byNameOrPosition? (names : List String) : Json → Option Given
  | .array items =>
    if items.length ≤ names.length then
      some (items.map some ++ List.replicate (names.length - items.length) none)
    else none
  | json => byName? names json

def asString? : Json → Option String
  | .string value => some value
  | _ => none

def asBool? : Json → Option Bool
  | .bool value => some value
  | _ => none

/-- A list, each item read by `read?`. -/
def asList? {α : Type} (read? : Json → Option α) : Json → Option (List α)
  | .array items => items.mapM read?
  | _ => none

/-- A field that has to be present. -/
def required? {α : Type} (read? : Json → Option α) (given : Option Json) : Option α :=
  given.bind read?

/-- A field with a value for when it is absent. -/
def defaulted? {α : Type} (absent : α) (read? : Json → Option α) : Option Json → Option α
  | none => some absent
  | some json => read? json

/-- A field that may be absent or null. -/
def optional? {α : Type} (read? : Json → Option α) : Option Json → Option (Option α)
  | none => some none
  | some .null => some none
  | some json => (read? json).map some

/-- Whether a value says nothing: null, and where the reading is lenient an empty object too. -/
def saysNothing (lenient : Bool) : Json → Bool
  | .null => true
  | .object [] => lenient
  | _ => false

/-- A kind: its name, or an object with the name as its only field, whose value says nothing. -/
def asKind? (lenient : Bool) : Json → Option String
  | .string name => some name
  | .object [(name, value)] => if saysNothing lenient value then some name else none
  | _ => none

structure Kinded where
  kind : String
  value : Json
  /-- Whether the value is read leniently. -/
  lenient : Bool

/-- Reads the kind of a value, and the value, from an array of the two or from an object. A value
that stands before its kind is read leniently, with all inside it. -/
def kinded? (kindName : String) (lenient : Bool) : Json → Option Kinded
  | .array [kind, value] => (asKind? lenient kind).map fun kind => ⟨kind, value, lenient⟩
  | .object fields => do
    let kind ← (← field? kindName fields)
    let value ← (← field? "value" fields)
    let kind ← asKind? lenient kind
    let first ← fields.find? fun (name, _) => name == kindName || name == "value"
    return ⟨kind, value, lenient || first.1 == "value"⟩
  | _ => none

end Json

open Json

namespace Literal

def ofJson? (lenient : Bool) (json : Json) : Option Literal := do
  let ⟨kind, value, _⟩ ← kinded? "type" lenient json
  match kind with
  | "string" => return .string (← asString? value)
  | "number" => return .number (← asString? value)
  | "boolean" => return .boolean (← asBool? value)
  | _ => none

end Literal

namespace Directive

def ofJson? (json : Json) : Option Directive := do
  match ← byNameOrPosition? ["tag", "argument"] json with
  | [tag, argument] =>
    return { tag := ← required? asString? tag, argument := ← defaulted? "" asString? argument }
  | _ => none

end Directive

/-- A reader of types, told whether it is to be lenient. -/
abbrev TypeReader := Bool → Json → Option TypeNode

namespace Member

def ofJson? (readType? : Json → Option TypeNode) (json : Json) : Option Member := do
  match ← byNameOrPosition? ["key", "optional", "type", "comment", "directives"] json with
  | [key, optional, type, comment, directives] =>
    return {
      key := ← required? asString? key
      optional := ← defaulted? false asBool? optional
      type := ← required? readType? type
      comment := ← optional? asString? comment
      directives := ← defaulted? [] (asList? Directive.ofJson?) directives }
  | _ => none

end Member

namespace IndexSignature

def ofJson? (readType? : Json → Option TypeNode) (json : Json) : Option IndexSignature := do
  match ← byNameOrPosition? ["key", "value"] json with
  | [key, value] =>
    return { key := ← required? readType? key, value := ← required? readType? value }
  | _ => none

end IndexSignature

namespace ObjectType

/-- Reads the body of an object type, the types in it by `readType?`. -/
def ofJson? (readType? : Json → Option TypeNode) (json : Json) : Option ObjectType := do
  match ← byNameOrPosition? ["members", "index_signature"] json with
  | [members, indexSignature] =>
    return {
      members := ← defaulted? [] (asList? (Member.ofJson? readType?)) members
      indexSignature := ← optional? (IndexSignature.ofJson? readType?) indexSignature }
  | _ => none

end ObjectType

namespace TemplateSpan

def ofJson? (readType? : Json → Option TypeNode) (json : Json) : Option TemplateSpan := do
  match ← byNameOrPosition? ["type", "literal"] json with
  | [type, text] =>
    return { type := ← required? readType? type, literal := ← defaulted? "" asString? text }
  | _ => none

end TemplateSpan

namespace TemplateLiteral

/-- Reads a template literal type, the types in it by `readType?`. -/
def ofJson? (readType? : Json → Option TypeNode) (json : Json) : Option TemplateLiteral := do
  match ← byNameOrPosition? ["head", "spans"] json with
  | [head, spans] =>
    return {
      head := ← required? asString? head
      spans := ← defaulted? [] (asList? (TemplateSpan.ofJson? readType?)) spans }
  | _ => none

end TemplateLiteral

namespace TypeNode

/-- Reads a generic type, its arguments by `readType?`. It may not be an array. -/
def genericOfJson? (readType? : Json → Option TypeNode) (json : Json) : Option TypeNode := do
  match ← byName? ["name", "args"] json with
  | [name, arguments] =>
    return .generic (← required? asString? name)
      (← required? (asList? readType?) arguments)
  | _ => none

/-- Reads a type of a known kind, the types in it by `readType?`. -/
def ofKinded? (readType? : TypeReader) : Kinded → Option TypeNode
  | ⟨kind, value, lenient⟩ =>
    match kind with
    | "primitive" =>
      ((asKind? lenient value).bind Primitive.ofJsonName?).map .primitive
    | "literal" => (Literal.ofJson? lenient value).map .literal
    | "reference" => (asString? value).map .reference
    | "array" => (readType? lenient value).map .array
    | "tuple" => (asList? (readType? lenient) value).map .tuple
    | "object" => (ObjectType.ofJson? (readType? lenient) value).map .object
    | "union" => (asList? (readType? lenient) value).map .union
    | "intersection" => (asList? (readType? lenient) value).map .intersection
    | "generic" => genericOfJson? (readType? lenient) value
    | "template_literal" => (TemplateLiteral.ofJson? (readType? lenient) value).map .template
    | "parenthesized" => (readType? lenient value).map .parenthesized
    | _ => none

/-- Reads a type in which at most `depth` types are nested. -/
def ofJsonWithin? : Nat → TypeReader
  | 0, _, _ => none
  | depth + 1, lenient, json =>
    (kinded? "kind" lenient json).bind (ofKinded? (ofJsonWithin? depth))

/-- Reads a type. No more types are nested in it than arrays and objects in its JSON. -/
def ofJson? (json : Json) : Option TypeNode :=
  ofJsonWithin? json.depth false json

end TypeNode

namespace Declaration

def ofJson? (json : Json) : Option Declaration := do
  match ← byNameOrPosition? ["name", "node"] json with
  | [name, node] =>
    return { name := ← required? asString? name, node := ← required? TypeNode.ofJson? node }
  | _ => none

/-- Reads one declaration or a list of them; an array that can be read as one is one. -/
def listOfJson? (json : Json) : Option (List Declaration) :=
  match ofJson? json with
  | some declaration => some [declaration]
  | none => asList? ofJson? json

end Declaration

end TypeSchema
