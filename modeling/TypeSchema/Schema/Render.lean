import TypeSchema.Schema
import TypeSchema.Text.Identifier
import TypeSchema.Text.Quoted

/-!
Schema expressions as source text. Calls stand on one line, the members of an object one to a line
and one level further in.
-/

namespace TypeSchema

/-- The blanks before a line at a level. -/
def indentation (level : Nat) : List Char :=
  List.replicate (4 * level) ' '

/-- A key of an object: bare if it is an identifier, quoted otherwise. -/
def writeKey (key : String) : List Char :=
  if Text.isIdentifier key.toList then key.toList else Text.quote key.toList

/-- The entries of a key selection, each key quoted. -/
def writeMask : List String → List Char
  | [] => []
  | [key] => Text.quote key.toList ++ ": true".toList
  | key :: others => Text.quote key.toList ++ ": true, ".toList ++ writeMask others

def Literal.write : Literal → List Char
  | .string value => Text.quote value.toList
  | .number text => text.toList
  | .boolean true => "true".toList
  | .boolean false => "false".toList

mutual

/-- A schema expression, `library` being the name of the schema library and `level` the level of the
line on which it starts. -/
def Schema.write (library : List Char) (level : Nat) : Schema → List Char
  | ⟨base, chain⟩ => base.write library level ++ Schema.writeChain library level chain

def SchemaBase.write (library : List Char) (level : Nat) : SchemaBase → List Char
  | .call call => library ++ '.' :: call.write library level
  | .reference identifier => identifier.toList

def Schema.writeChain (library : List Char) (level : Nat) : List Call → List Char
  | [] => []
  | call :: others => '.' :: call.write library level ++ Schema.writeChain library level others

def Call.write (library : List Char) (level : Nat) : Call → List Char
  | ⟨name, arguments⟩ =>
    name.toList ++ '(' :: Call.writeArguments library level arguments ++ [')']

def Call.writeArguments (library : List Char) (level : Nat) : List Argument → List Char
  | [] => []
  | [argument] => argument.write library level
  | argument :: others =>
    argument.write library level ++ ',' :: ' ' :: Call.writeArguments library level others

def Argument.write (library : List Char) (level : Nat) : Argument → List Char
  | .schema schema => schema.write library level
  | .schemas schemas => '[' :: Schema.writeAll library level schemas ++ [']']
  | .shape [] => ['{', '}']
  | .shape entries =>
    '{' :: '\n' :: ShapeEntry.writeAll library (level + 1) entries ++ indentation level ++ ['}']
  | .mask [] => ['{', '}']
  | .mask keys => '{' :: ' ' :: writeMask keys ++ [' ', '}']
  | .literal literal => literal.write
  | .number text => text.toList
  | .pattern pattern => pattern.literal

def Schema.writeAll (library : List Char) (level : Nat) : List Schema → List Char
  | [] => []
  | [schema] => schema.write library level
  | schema :: others =>
    schema.write library level ++ ',' :: ' ' :: Schema.writeAll library level others

/-- The members of an object, each on lines of its own, with a comma after all but the last. -/
def ShapeEntry.writeAll (library : List Char) (level : Nat) : List ShapeEntry → List Char
  | [] => []
  | [entry] => entry.write library level ++ ['\n']
  | entry :: others =>
    entry.write library level ++ ',' :: '\n' :: ShapeEntry.writeAll library level others

/-- A member of an object, after its comment. -/
def ShapeEntry.write (library : List Char) (level : Nat) : ShapeEntry → List Char
  | ⟨key, comment, schema⟩ =>
    comment.elim [] (DocComment.layout (indentation level)) ++
      indentation level ++ writeKey key ++ ':' :: ' ' :: schema.write library level

end

namespace Schema

def render (schema : Schema) (library : String) : String :=
  String.ofList (schema.write library.toList 0)

end Schema

end TypeSchema
