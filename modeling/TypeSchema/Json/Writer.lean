import TypeSchema.Json.Value
import TypeSchema.Text.Quoted

/-!
JSON values as text, without blanks.
-/

namespace TypeSchema.Json

/-- A character as it stands inside a JSON string. -/
def stringChar (c : Char) : List Char :=
  match c with
  | '"' => ['\\', '"']
  | '\\' => ['\\', '\\']
  | '\n' => ['\\', 'n']
  | '\r' => ['\\', 'r']
  | '\t' => ['\\', 't']
  | '\x08' => ['\\', 'b']
  | '\x0c' => ['\\', 'f']
  | c => if c.toNat < 32 then '\\' :: 'u' :: Text.hexDigits c.toNat else [c]

def writeString (text : String) : List Char :=
  '"' :: text.toList.flatMap stringChar ++ ['"']

end TypeSchema.Json

namespace TypeSchema

mutual

def Json.write : Json → List Char
  | .null => "null".toList
  | .bool true => "true".toList
  | .bool false => "false".toList
  | .number text => text.toList
  | .string value => Json.writeString value
  | .array items => '[' :: Json.writeItems items ++ [']']
  | .object fields => '{' :: Json.writeFields fields ++ ['}']

/-- The items of an array, separated by commas. -/
def Json.writeItems : List Json → List Char
  | [] => []
  | [item] => item.write
  | item :: others => item.write ++ ',' :: Json.writeItems others

/-- The fields of an object, separated by commas. -/
def Json.writeFields : List (String × Json) → List Char
  | [] => []
  | [(key, value)] => Json.writeString key ++ ':' :: value.write
  | (key, value) :: others =>
    Json.writeString key ++ ':' :: value.write ++ ',' :: Json.writeFields others

end

def Json.render (json : Json) : String :=
  String.ofList json.write

end TypeSchema
